/-
# Who owns a client that queries asynchronously

`source/robot/client/interfaces_client.cpp`: `QueryAsync` of a client that is owned by
a `std::unique_ptr` or by `std::shared_ptr`s.

Both forms begin with `shared_from_this()`, which throws on an object that no
`std::shared_ptr` owns.  So the call of a client in a `std::unique_ptr` throws, no
worker is made, and the future form destroys its promise before anyone has the future.
Past that point it makes no difference how the client came to be shared: a worker
whose client stays there with its connection answers what `Query` answers.

A `World` is a state of `Async` with what owns each client, and every run of it is a
run there (`exists_queries_run`).
-/

import ClientSdk.Client.Async

namespace ClientSdk
namespace Client
namespace Ownership

open Common Lib Async

/-- What owns a client: one `std::unique_ptr`, or `std::shared_ptr`s. -/
inductive Pointer where
  | unique
  | shared
deriving DecidableEq, Repr

/-- Clients, workers and callers, and what owns each of the clients. -/
structure World (κ Request Response : Type) where
  state : State κ Request Response := {}
  pointers : List Pointer := []

/-- A step. -/
inductive Step (κ Request Response : Type) where
  /-- A client is constructed for a `std::unique_ptr`. -/
  | makeUnique (impl : InterfacesClientImpl)
  /-- The `std::unique_ptr` of a client is moved into a `std::shared_ptr`. -/
  | share (client : ℕ)
  /-- A step of `Async`, where a new client is constructed for a `std::shared_ptr`. -/
  | async (l : Label κ Request Response)

/-- What `shared_from_this()` throws. -/
def badWeakPtr : StdException := .other "bad_weak_ptr"

variable {κ Request Response : Type}

namespace World

/-- `shared_from_this()` of the client `i`. -/
def sharedFromThis (i : ℕ) (w : World κ Request Response) : Except StdException ℕ :=
  if w.pointers[i]? = some .shared then .ok i else .error badWeakPtr

/-- `QueryAsync(request, callback, timeout_ms)`. -/
def queryAsync (i : ℕ) (request : Request) (timeoutMs : ℤ) (callback : AsyncCallback κ)
    (w : World κ Request Response) : Except StdException Unit × World κ Request Response :=
  match w.sharedFromThis i with
  | .error e => (.error e, w)
  | .ok self => (.ok (), { w with state := w.state.queryAsync self request timeoutMs callback })

/-- `std::make_shared<std::promise<Status>>()`. -/
def makePromise (w : World κ Request Response) : World κ Request Response :=
  { w with state.promises := w.state.promises ++ [[]] }

/-- `QueryAsync(request, timeout_ms)`: the promise whose future is returned.  An
exception of the other form destroys the promise and the future. -/
def queryAsyncFuture (i : ℕ) (request : Request) (timeoutMs : ℤ)
    (w : World κ Request Response) : Except StdException ℕ × World κ Request Response :=
  let promise := w.state.promises.length
  match w.makePromise.queryAsync i request timeoutMs (.setPromise promise) with
  | (.error e, _) => (.error e, w)
  | (.ok (), w') => (.ok promise, w')

/-- One step.  A `std::unique_ptr` is not copied. -/
def step [Inhabited Response] (w : World κ Request Response) :
    Step κ Request Response → World κ Request Response
  | .makeUnique impl =>
      { state := w.state.step (.newClient impl), pointers := w.pointers ++ [.unique] }
  | .share i => if w.state.alive i then { w with pointers := w.pointers.set i .shared } else w
  | .async (.newClient impl) =>
      { state := w.state.step (.newClient impl), pointers := w.pointers ++ [.shared] }
  | .async (.copyOwner i) =>
      if w.pointers[i]? = some .shared then { w with state := w.state.step (.copyOwner i) } else w
  | .async (.queryAsync i request timeoutMs callback) =>
      if w.state.alive i then (w.queryAsync i request timeoutMs (.user callback)).2 else w
  | .async (.queryAsyncFuture i request timeoutMs) =>
      if w.state.alive i then (w.queryAsyncFuture i request timeoutMs).2 else w
  | .async l => { w with state := w.state.step l }

end World

/-- Clients, their owners and their workers from the start on. -/
def world [Inhabited Response] :
    Machine (World κ Request Response) (Step κ Request Response) where
  init := {}
  next := World.step

@[simp] theorem world_next [Inhabited Response] (w : World κ Request Response)
    (l : Step κ Request Response) : world.next w l = w.step l := rfl

/-! ### The two forms -/

section Forms

variable {w : World κ Request Response} {i : ℕ} (request : Request) (timeoutMs : ℤ)

theorem queryAsync_of_shared (callback : AsyncCallback κ) (h : w.pointers[i]? = some .shared) :
    w.queryAsync i request timeoutMs callback =
      (.ok (), { w with state := w.state.queryAsync i request timeoutMs callback }) := by
  simp [World.queryAsync, World.sharedFromThis, h]

/-- **A client that no `std::shared_ptr` owns throws**, and nothing comes of the call. -/
theorem queryAsync_of_not_shared (callback : AsyncCallback κ)
    (h : w.pointers[i]? ≠ some .shared) :
    w.queryAsync i request timeoutMs callback = (.error badWeakPtr, w) := by
  simp [World.queryAsync, World.sharedFromThis, h]

theorem queryAsyncFuture_of_shared (h : w.pointers[i]? = some .shared) :
    w.queryAsyncFuture i request timeoutMs =
      (.ok w.state.promises.length,
        { w with state := w.state.queryAsyncFuture i request timeoutMs }) := by
  have hshared : w.makePromise.pointers[i]? = some .shared := h
  rw [World.queryAsyncFuture, queryAsync_of_shared request timeoutMs _ hshared]
  rfl

theorem queryAsyncFuture_of_not_shared (h : w.pointers[i]? ≠ some .shared) :
    w.queryAsyncFuture i request timeoutMs = (.error badWeakPtr, w) := by
  have hnot : w.makePromise.pointers[i]? ≠ some .shared := h
  rw [World.queryAsyncFuture, queryAsync_of_not_shared request timeoutMs _ hnot]

end Forms

/-! ### The runs of a world -/

section Runs

variable [Inhabited Response]

/-- The call with a callback, of a client that `std::shared_ptr`s own. -/
theorem step_queryAsync {w : World κ Request Response} {i : ℕ} (ha : w.state.alive i = true)
    (hs : w.pointers[i]? = some .shared) (request : Request) (timeoutMs : ℤ) (f : κ) :
    w.step (.async (.queryAsync i request timeoutMs f)) =
      { w with state := w.state.queryAsync i request timeoutMs (.user f) } := by
  simp only [World.step, ha, if_true, queryAsync_of_shared request timeoutMs _ hs]

/-- The call with a future, of a client that `std::shared_ptr`s own. -/
theorem step_queryAsyncFuture {w : World κ Request Response} {i : ℕ}
    (ha : w.state.alive i = true) (hs : w.pointers[i]? = some .shared) (request : Request)
    (timeoutMs : ℤ) :
    w.step (.async (.queryAsyncFuture i request timeoutMs)) =
      { w with state := w.state.queryAsyncFuture i request timeoutMs } := by
  simp only [World.step, ha, if_true, queryAsyncFuture_of_shared request timeoutMs hs]

/-- **A step of a world** is one of its state or leaves the state alone, and the steps
of the workers are the same. -/
theorem state_step (w : World κ Request Response) (l : Step κ Request Response) :
    (w.step l).state = w.state ∨
      ∃ l', (w.step l).state = w.state.step l' ∧
        ∀ v action, l' = .worker v action → l = .async (.worker v action) := by
  cases l with
  | makeUnique impl => exact Or.inr ⟨.newClient impl, rfl, fun _ _ h => by cases h⟩
  | share i =>
      simp only [World.step]
      split <;> exact Or.inl rfl
  | async l =>
      cases l with
      | newClient impl => exact Or.inr ⟨.newClient impl, rfl, fun _ _ h => by cases h⟩
      | reconnect i impl => exact Or.inr ⟨.reconnect i impl, rfl, fun _ _ h => by cases h⟩
      | dropOwner i => exact Or.inr ⟨.dropOwner i, rfl, fun _ _ h => by cases h⟩
      | worker v action =>
          refine Or.inr ⟨.worker v action, rfl, fun v' action' h => ?_⟩
          rw [h]
      | copyOwner i =>
          simp only [World.step]
          split
          · exact Or.inr ⟨.copyOwner i, rfl, fun _ _ h => by cases h⟩
          · exact Or.inl rfl
      | queryAsync i request timeoutMs callback =>
          by_cases ha : w.state.alive i = true
          · by_cases hs : w.pointers[i]? = some .shared
            · refine Or.inr ⟨.queryAsync i request timeoutMs callback, ?_, fun _ _ h => by cases h⟩
              rw [step_queryAsync ha hs]
              simp only [State.step, ha, if_true]
            · refine Or.inl ?_
              simp only [World.step, queryAsync_of_not_shared request timeoutMs _ hs, ite_self]
          · simp only [World.step, ha]
            exact Or.inl rfl
      | queryAsyncFuture i request timeoutMs =>
          by_cases ha : w.state.alive i = true
          · by_cases hs : w.pointers[i]? = some .shared
            · refine Or.inr ⟨.queryAsyncFuture i request timeoutMs, ?_, fun _ _ h => by cases h⟩
              rw [step_queryAsyncFuture ha hs]
              simp only [State.step, ha, if_true]
            · refine Or.inl ?_
              simp only [World.step, queryAsyncFuture_of_not_shared request timeoutMs hs, ite_self]
          · simp only [World.step, ha]
            exact Or.inl rfl

/-- **A run of a world is one of its state.** -/
theorem exists_queries_run (ls : List (Step κ Request Response)) :
    ∃ ls', (world.run ls).state = queries.run ls' := by
  induction ls using List.reverseRecOn with
  | nil => exact ⟨[], rfl⟩
  | append_singleton ls l ih =>
      obtain ⟨ls', hls'⟩ := ih
      rw [Machine.run_concat]
      rcases state_step (world.run ls) l with h | ⟨l', h, -⟩
      · exact ⟨ls', h.trans hls'⟩
      · refine ⟨ls' ++ [l'], h.trans ?_⟩
        rw [hls', Machine.run_concat]
        rfl

theorem world_inv (ls : List (Step κ Request Response)) : Inv (world.run ls).state := by
  obtain ⟨ls', h⟩ := exists_queries_run ls
  rw [h]
  exact queries_inv ls'

theorem world_inv_runFrom (ms ls : List (Step κ Request Response)) :
    Inv (world.runFrom (world.run ms) ls).state := by
  rw [← Machine.run_append]
  exact world_inv (ms ++ ls)

end Runs

/-! ### What a worker answers -/

section Serving

variable {s : State κ Request Response} {v i : ℕ} {x : Worker κ Request Response}
  {a : Answer Response} {c : InterfacesClientImpl}

/-- The client `i` is there, and `c` is what it holds. -/
def Has (i : ℕ) (c : InterfacesClientImpl) (s : State κ Request Response) : Prop :=
  s.alive i = true ∧ (s.clients[i]?).map ClientObject.impl = some c

theorem Has.exists_client (h : Has i c s) : ∃ o, s.clients[i]? = some o ∧ o.impl = c :=
  Option.map_eq_some_iff.1 h.2

/-- A worker at this stage found its client, and answers `a` if it answers. -/
def Answers (a : Answer Response) : Stage Response → Prop
  | .spawned | .locked => True
  | .queried b | .called b | .finished (some b) => b = a
  | .expired | .finished none => False

/-- The worker `v` is `x` at a stage where it answers `a` if it answers. -/
def Serving (v : ℕ) (x : Worker κ Request Response) (a : Answer Response)
    (s : State κ Request Response) : Prop :=
  ∃ stage, s.workers[v]? = some { x with stage := stage } ∧ Answers a stage

/-- A new worker has answered nothing else. -/
theorem serving_of_spawned (hx : s.workers[v]? = some x) (hspawned : x.stage = .spawned) :
    Serving v x a s := ⟨.spawned, by rw [hx, ← hspawned], trivial⟩

variable [Inhabited Response]

/-- The stage a step takes a worker to. -/
def nextStage (s : State κ Request Response) (x : Worker κ Request Response) :
    Action Request Response → Stage Response → Stage Response
  | .lock, .spawned => if s.alive x.client then .locked else .expired
  | .query now rpc, .locked =>
      match s.clients[x.client]? with
      | some c =>
          let (status, response) := query c.impl now x.timeoutMs rpc x.request default
          .queried ⟨status, response⟩
      | none => .locked
  | .call, .queried answer => .called answer
  | .call, .expired => .finished none
  | .release, .called answer => .finished (some answer)
  | _, stage => stage

/-- **A step of a worker**, as far as the worker itself goes. -/
theorem workers_act (hx : s.workers[v]? = some x) (action : Action Request Response) :
    (s.act v x action).workers[v]? = some { x with stage := nextStage s x action x.stage } := by
  have hadvance : ∀ stage es,
      (s.advance v x stage es).workers[v]? = some { x with stage := stage } :=
    fun stage es => ((moves_advance stage es).worker_iff hx).2 (Or.inl ⟨rfl, rfl⟩)
  have hinvoke : ∀ stage es status,
      ((s.invoke x.callback status).advance v x stage es).workers[v]? =
        some { x with stage := stage } :=
    fun stage es status => ((moves_invoke stage es status).worker_iff hx).2 (Or.inl ⟨rfl, rfl⟩)
  have hsame : ∀ stage, x.stage = stage → s.workers[v]? = some { x with stage := stage } := by
    rintro stage rfl
    exact hx
  unfold State.act nextStage
  cases hst : x.stage with
  | spawned =>
      cases action with
      | lock =>
          cases s.alive x.client with
          | true => exact hadvance _ _
          | false => exact hadvance _ _
      | _ => exact hsame _ hst
  | locked =>
      cases action with
      | query now rpc =>
          cases s.clients[x.client]? with
          | none => exact hsame _ hst
          | some c => exact hadvance _ _
      | _ => exact hsame _ hst
  | queried answer =>
      cases action with
      | call => exact hinvoke _ _ _
      | _ => exact hsame _ hst
  | called answer =>
      cases action with
      | release => exact hadvance _ _
      | _ => exact hsame _ hst
  | expired =>
      cases action with
      | call => exact hinvoke _ _ _
      | _ => exact hsame _ hst
  | finished answer =>
      cases action <;> exact hsame _ hst

/-- The worker still finds its client, and its query gives `a`. -/
theorem Answers.nextStage (h : Answers a x.stage) (hhas : Has x.client c s)
    {action : Action Request Response}
    (hquery : ∀ now rpc, action = .query now rpc →
      query c now x.timeoutMs rpc x.request default = (a.status, a.response)) :
    Answers a (nextStage s x action x.stage) := by
  obtain ⟨o, hclient, rfl⟩ := hhas.exists_client
  cases hst : x.stage with
  | spawned =>
      cases action with
      | lock =>
          rw [Ownership.nextStage, if_pos hhas.1]
          trivial
      | _ => trivial
  | locked =>
      cases action with
      | query now rpc =>
          simp only [Ownership.nextStage, hclient, hquery now rpc rfl]
          rfl
      | _ => trivial
  | queried answer =>
      rw [hst] at h
      cases action <;> exact h
  | called answer =>
      rw [hst] at h
      cases action <;> exact h
  | expired =>
      rw [hst] at h
      exact h.elim
  | finished answer =>
      rw [hst] at h
      cases action <;> exact h

/-- **A step of `Async`** leaves a worker answering `a`, if its client is there and its
query gives `a`. -/
theorem Serving.step (h : Serving v x a s) (hhas : Has x.client c s)
    {l : Label κ Request Response}
    (hquery : ∀ now rpc, l = .worker v (.query now rpc) →
      query c now x.timeoutMs rpc x.request default = (a.status, a.response)) :
    Serving v x a (s.step l) := by
  obtain ⟨stage, hx, hans⟩ := h
  have hown : ∀ j f, (s.own j f).workers = s.workers := by
    intro j f
    unfold State.own
    split
    · split <;> rfl
    · rfl
  cases l with
  | newClient impl => exact ⟨stage, hx, hans⟩
  | reconnect j impl => exact ⟨stage, (congrArg (·[v]?) (hown j _)).trans hx, hans⟩
  | copyOwner j => exact ⟨stage, (congrArg (·[v]?) (hown j _)).trans hx, hans⟩
  | dropOwner j => exact ⟨stage, (congrArg (·[v]?) (hown j _)).trans hx, hans⟩
  | queryAsync j request timeoutMs callback =>
      simp only [State.step]
      split
      · exact ⟨stage, pool_spawn_iff.2 (Or.inr hx), hans⟩
      · exact ⟨stage, hx, hans⟩
  | queryAsyncFuture j request timeoutMs =>
      simp only [State.step]
      split
      · exact ⟨stage, pool_spawn_iff.2 (Or.inr hx), hans⟩
      · exact ⟨stage, hx, hans⟩
  | worker u action =>
      by_cases hu : u = v
      · subst hu
        simp only [State.step, hx]
        have hnext : Answers a (nextStage s { x with stage := stage } action stage) :=
          Answers.nextStage (x := { x with stage := stage }) hans hhas fun now rpc heq =>
            hquery now rpc (by rw [heq])
        exact ⟨_, workers_act hx action, hnext⟩
      · cases hy : s.workers[u]? with
        | none =>
            simp only [State.step, hy]
            exact ⟨stage, hx, hans⟩
        | some y =>
            simp only [State.step, hy]
            rcases act_cases s u y action with ⟨hsame, -⟩ | ⟨stage', es, said, hm, -⟩
            · rw [hsame]
              exact ⟨stage, hx, hans⟩
            · exact ⟨stage, (hm.worker_iff hy).2 (Or.inr ⟨fun h => hu h.symm, hx⟩), hans⟩

/-- A worker that answers `a` and is done called its callback once, with `a`, and set
the promise of its callback to the status of `a`. -/
theorem Serving.done (h : Serving v x a s) (hinv : Inv s) {y : Worker κ Request Response}
    (hy : s.workers[v]? = some y) (hf : y.stage.isFinished = true) :
    y.callback = x.callback ∧
      s.eventsOf v = [.locked v true, .queried v a, .called v a] ∧
      ∀ p, x.callback = .setPromise p → s.promises[p]? = some [a.status] := by
  obtain ⟨stage, hx, hans⟩ := h
  obtain rfl : y = { x with stage := stage } := Option.some.inj (hy.symm.trans hx)
  have hstage : stage = .finished (some a) := by
    cases stage with
    | finished answer =>
        cases answer with
        | none => exact hans.elim
        | some b => rw [show b = a from hans]
    | _ => cases hf
  subst hstage
  refine ⟨rfl, hinv.trace hx, fun p hp => ?_⟩
  have hpromise : ({ x with stage := .finished (some a) } :
      Worker κ Request Response).callback.promise = some p := by
    show x.callback.promise = some p
    rw [hp]
    rfl
  exact hinv.said hx hpromise

end Serving

/-! ### What comes of a call -/

section Call

variable [Inhabited Response] {w : World κ Request Response} {v i : ℕ}
  {c : InterfacesClientImpl} {now : ℤ} {rpc : Rpc Request Response}
  {ls ms : List (Step κ Request Response)}

/-- The query of the worker `v` meets the clock reading `now` and the peer `rpc`. -/
def Meets (v : ℕ) (now : ℤ) (rpc : Rpc Request Response) : Step κ Request Response → Prop
  | .async (.worker u (.query now' rpc')) => u = v → now' = now ∧ rpc' = rpc
  | _ => True

/-- At each of the steps `ls` from `w` on the client `i` is there with its connection
`c`, and the query of the worker `v` meets `now` and `rpc`. -/
def Undisturbed (i : ℕ) (c : InterfacesClientImpl) (v : ℕ) (now : ℤ)
    (rpc : Rpc Request Response) :
    World κ Request Response → List (Step κ Request Response) → Prop
  | _, [] => True
  | w, l :: ls =>
      (Has i c w.state ∧ Meets v now rpc l) ∧ Undisturbed i c v now rpc (w.step l) ls

theorem undisturbed_append :
    Undisturbed i c v now rpc w (ls ++ ms) ↔
      Undisturbed i c v now rpc w ls ∧ Undisturbed i c v now rpc (world.runFrom w ls) ms := by
  induction ls generalizing w with
  | nil => exact (true_and _).to_iff.symm
  | cons l ls ih =>
      rw [List.cons_append, Undisturbed, ih, Undisturbed, Machine.runFrom_cons, world_next,
        and_assoc, and_assoc, and_assoc]

/-- The answer is the one of `Query`: its status whatever the response was, and its
response if that was a new one or the client is connected. -/
def SameAsQuery (c : InterfacesClientImpl) (now timeoutMs : ℤ) (rpc : Rpc Request Response)
    (request : Request) (a : Answer Response) : Prop :=
  ∀ response, (query c now timeoutMs rpc request response).1 = a.status ∧
    (c.isConnected = true ∨ response = default →
      (query c now timeoutMs rpc request response).2 = a.response)

/-- What a query of a worker gives. -/
def workerAnswer (c : InterfacesClientImpl) (now timeoutMs : ℤ) (rpc : Rpc Request Response)
    (request : Request) : Answer Response :=
  ⟨(query c now timeoutMs rpc request default).1, (query c now timeoutMs rpc request default).2⟩

theorem sameAsQuery_workerAnswer (c : InterfacesClientImpl) (now timeoutMs : ℤ)
    (rpc : Rpc Request Response) (request : Request) :
    SameAsQuery c now timeoutMs rpc request (workerAnswer c now timeoutMs rpc request) := by
  intro response
  unfold workerAnswer query unaryCall
  by_cases hc : c.isConnected = true
  · simp [hc]
  · simp [hc]

/-- The worker `v` of the world `w` is one of the client `i`, and it delivers: done, it
called its callback once with the answer of `Query`, and set the promise of the callback
to its status; and it can be done. -/
structure Delivers (w : World κ Request Response) (v i : ℕ) (c : InterfacesClientImpl)
    (request : Request) (timeoutMs : ℤ) (callback : AsyncCallback κ) : Prop where
  answer : ∀ now rpc ls, Undisturbed i c v now rpc w ls →
    ∀ y, (world.runFrom w ls).state.workers[v]? = some y → y.stage.isFinished = true →
      ∃ a, SameAsQuery c now timeoutMs rpc request a ∧ y.callback = callback ∧
        (world.runFrom w ls).state.eventsOf v =
          [.locked v true, .queried v a, .called v a] ∧
        ∀ p, callback = .setPromise p →
          (world.runFrom w ls).state.promises[p]? = some [a.status]
  finishes : ∀ now rpc ls, Undisturbed i c v now rpc w ls →
    Has i c (world.runFrom w ls).state →
      ∃ more, Undisturbed i c v now rpc w (ls ++ more) ∧
        ∃ y, (world.runFrom w (ls ++ more)).state.workers[v]? = some y ∧
          y.stage.isFinished = true

/-- **A worker keeps answering** as long as it is not disturbed. -/
theorem Serving.runFrom {x : Worker κ Request Response}
    (h : Serving v x (workerAnswer c now x.timeoutMs rpc x.request) w.state)
    (hu : Undisturbed x.client c v now rpc w ls) :
    Serving v x (workerAnswer c now x.timeoutMs rpc x.request) (world.runFrom w ls).state := by
  induction ls generalizing w with
  | nil => exact h
  | cons l ls ih =>
      obtain ⟨⟨hhas, hmeets⟩, hrest⟩ := hu
      refine ih ?_ hrest
      rw [world_next]
      rcases state_step w l with hsame | ⟨l', hstep, hl⟩
      · rw [hsame]
        exact h
      · rw [hstep]
        refine h.step hhas fun now' rpc' heq => ?_
        rw [hl v _ heq] at hmeets
        obtain ⟨rfl, rfl⟩ := hmeets rfl
        rfl

/-- A worker lets go of its client in its last step only. -/
theorem holds_nextStage {s : State κ Request Response} {x : Worker κ Request Response}
    {action : Action Request Response} (hlast : action ≠ .release)
    (h : x.stage.holds = true) : (nextStage s x action x.stage).holds = true := by
  cases hst : x.stage with
  | locked =>
      cases action with
      | query now rpc =>
          simp only [nextStage]
          cases s.clients[x.client]? <;> rfl
      | _ => rfl
  | queried answer => cases action <;> rfl
  | called answer =>
      cases action with
      | release => exact absurd rfl hlast
      | _ => rfl
  | _ =>
      rw [hst] at h
      cases h

/-- Before its last step a worker takes no client away. -/
theorem Has.worker {s : State κ Request Response} (h : Has i c s)
    {action : Action Request Response} (hlast : action ≠ .release) :
    Has i c (s.step (.worker v action)) := by
  cases hx : s.workers[v]? with
  | none =>
      simp only [State.step, hx]
      exact h
  | some x =>
      simp only [State.step, hx]
      rcases act_cases s v x action with ⟨hsame, -⟩ | ⟨stage, es, said, hm, -⟩
      · rw [hsame]
        exact h
      · refine ⟨?_, by rw [hm.clients]; exact h.2⟩
        rw [alive_iff, hm.clients]
        rcases alive_iff.1 h.1 with howned | ⟨u, y, hy, hclient, hholds⟩
        · exact Or.inl howned
        · by_cases hu : u = v
          · subst hu
            obtain rfl : x = y := Option.some.inj (hx.symm.trans hy)
            exact Or.inr ⟨u, _, workers_act hx action, hclient, holds_nextStage hlast hholds⟩
          · exact Or.inr ⟨u, y, (hm.worker_iff hx).2 (Or.inr ⟨hu, hy⟩), hclient, hholds⟩

/-- The own steps of a worker disturb nobody. -/
theorem undisturbed_ownSteps (h : Has i c w.state) :
    Undisturbed i c v now rpc w ((ownSteps v now rpc).map Step.async) := by
  have keeps {w : World κ Request Response} (h : Has i c w.state)
      {action : Action Request Response} (hlast : action ≠ .release) :
      Has i c (w.step (.async (.worker v action))).state := h.worker hlast
  have h₁ := keeps h (show Action.lock ≠ .release by nofun)
  have h₂ := keeps h₁ (show Action.query now rpc ≠ .release by nofun)
  have h₃ := keeps h₂ (show Action.call ≠ .release by nofun)
  exact ⟨⟨h, trivial⟩, ⟨h₁, fun _ => ⟨rfl, rfl⟩⟩, ⟨h₂, trivial⟩, ⟨h₃, trivial⟩, trivial⟩

/-- **A new worker delivers.** -/
theorem delivers_of_spawned {x : Worker κ Request Response}
    (hx : (world.run ms).state.workers[v]? = some x) (hspawned : x.stage = .spawned)
    (c : InterfacesClientImpl) :
    Delivers (world.run ms) v x.client c x.request x.timeoutMs x.callback where
  answer now rpc ls hu y hy hf := by
    obtain ⟨hcallback, hevents, hpromise⟩ :=
      ((serving_of_spawned hx hspawned).runFrom hu).done (world_inv_runFrom ms ls) hy hf
    exact ⟨_, sameAsQuery_workerAnswer c now x.timeoutMs rpc x.request, hcallback, hevents,
      hpromise⟩
  finishes now rpc ls hu hhas := by
    obtain ⟨stage, hy, -⟩ := (serving_of_spawned hx hspawned).runFrom hu
    refine ⟨(ownSteps v now rpc).map Step.async,
      undisturbed_append.2 ⟨hu, undisturbed_ownSteps hhas⟩, ?_⟩
    rw [Machine.runFrom_append]
    obtain ⟨last, hlast, hdone⟩ := (world_inv_runFrom ms ls).finishes hy now rpc
    exact ⟨_, hdone, hlast⟩

/-- What is asked of the two forms of `QueryAsync`: they return, and the worker they
make delivers. -/
structure AnswersLikeQuery (w : World κ Request Response) (i : ℕ) (c : InterfacesClientImpl)
    (request : Request) (timeoutMs : ℤ) : Prop where
  callback : ∀ f : κ, ∃ w', w.queryAsync i request timeoutMs (.user f) = (.ok (), w') ∧
    Delivers w' w.state.workers.length i c request timeoutMs (.user f)
  future : ∃ p w', w.queryAsyncFuture i request timeoutMs = (.ok p, w') ∧
    Delivers w' w.state.workers.length i c request timeoutMs (.setPromise p)

theorem AnswersLikeQuery.shared {request : Request} {timeoutMs : ℤ}
    (h : AnswersLikeQuery w i c request timeoutMs) : w.pointers[i]? = some .shared := by
  by_contra hs
  obtain ⟨p, w', hok, -⟩ := h.future
  rw [queryAsyncFuture_of_not_shared request timeoutMs hs] at hok
  cases hok

/-- **When the asynchronous forms answer like `Query`.**  A client that is there answers
both exactly if `std::shared_ptr`s own it, connected or not, after any steps of any
clients and workers. -/
theorem answersLikeQuery_iff (ls : List (Step κ Request Response))
    (h : Has i c (world.run ls).state) (request : Request) (timeoutMs : ℤ) :
    AnswersLikeQuery (world.run ls) i c request timeoutMs ↔
      (world.run ls).pointers[i]? = some .shared := by
  constructor
  · exact AnswersLikeQuery.shared
  · intro hs
    refine ⟨fun f => ?_, ?_⟩
    · refine ⟨_, queryAsync_of_shared request timeoutMs (.user f) hs, ?_⟩
      rw [← step_queryAsync h.1 hs request timeoutMs f, ← world_next, ← Machine.run_concat]
      refine delivers_of_spawned (x := ⟨i, request, timeoutMs, .user f, .spawned⟩) ?_ rfl c
      rw [Machine.run_concat, world_next, step_queryAsync h.1 hs]
      exact pool_spawn_iff.2 (Or.inl ⟨rfl, rfl⟩)
    · refine ⟨_, _, queryAsyncFuture_of_shared request timeoutMs hs, ?_⟩
      rw [← step_queryAsyncFuture h.1 hs request timeoutMs, ← world_next, ← Machine.run_concat]
      refine delivers_of_spawned (x := ⟨i, request, timeoutMs,
        .setPromise (world.run ls).state.promises.length, .spawned⟩) ?_ rfl c
      rw [Machine.run_concat, world_next, step_queryAsyncFuture h.1 hs]
      exact pool_spawn_iff.2 (Or.inl ⟨rfl, rfl⟩)

end Call

/-- A connected client. -/
def sampleImpl : InterfacesClientImpl where
  channel := some ⟨0, "localhost:50051", ⟨0, 0⟩⟩
  stub := some ⟨1, ⟨0, "localhost:50051", ⟨0, 0⟩⟩⟩
  target := "localhost:50051"
  connected := true

/-- A client moved from its `std::unique_ptr` into a `std::shared_ptr` answers. -/
theorem answersLikeQuery_moved :
    AnswersLikeQuery
      ((world : Machine (World Unit Unit Unit) _).run [.makeUnique sampleImpl, .share 0])
      0 sampleImpl () 5000 :=
  (answersLikeQuery_iff [.makeUnique sampleImpl, .share 0] ⟨by decide, rfl⟩ () 5000).2 rfl

/-- A connected client in a `std::unique_ptr` throws instead. -/
theorem answersLikeQuery_unique :
    let w := (world : Machine (World Unit Unit Unit) _).run [.makeUnique sampleImpl]
    Has 0 sampleImpl w.state ∧ sampleImpl.isConnected = true ∧
      (w.queryAsyncFuture 0 () 5000).1 = .error badWeakPtr ∧
      (w.queryAsync 0 () 5000 (.user ())).1 = .error badWeakPtr ∧
      ¬ AnswersLikeQuery w 0 sampleImpl () 5000 := by
  refine ⟨⟨by decide, rfl⟩, rfl, rfl, rfl, fun h => ?_⟩
  have hshared := h.shared
  cases hshared

end Ownership
end Client
end ClientSdk
