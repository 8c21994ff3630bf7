/-
# Asynchronous queries

`source/robot/client/interfaces_client.cpp`: `QueryAsync`, in the form with a
callback and in the form with a future.

A request has a detached worker of its own.  The worker locks its weak pointer
to the client; if that gives a client it runs `Query` on it, hands the status
and the response to the callback and lets go of the client, and if not it hands
the callback a canceled status.  The future form hands the callback form a
callback that sets a promise.

The steps of any number of workers, on any number of clients, are interleaved
with those of the callers, who make, copy and drop owning references, connect
and disconnect, and make further requests.  A client is there as long as it has
a reference, and a worker that locked its pointer holds one until it lets go.
A step that is not enabled leaves the state as it is.
-/

import ClientSdk.Client.Calls
import ClientSdk.Lib.Machine
import ClientSdk.Lib.Pool

namespace ClientSdk
namespace Client
namespace Async

open Common Lib

/-- `AsyncCallback`: one the user gave, or the one of the future form, which
sets a promise. -/
inductive AsyncCallback (κ : Type) where
  | user (callback : κ)
  | setPromise (promise : ℕ)

/-- What a callback is handed. -/
structure Answer (Response : Type) where
  status : Status
  response : Response

/-- What is handed to the callback of a worker that found no client. -/
def canceled {Response : Type} [Inhabited Response] : Answer Response :=
  ⟨.error .operationCanceled "Client object has been destroyed", default⟩

/-- How far a worker is.  It holds the client from `locked` to `called`, and
`expired` is where it found none. -/
inductive Stage (Response : Type) where
  | spawned
  | locked
  | queried (answer : Answer Response)
  | called (answer : Answer Response)
  | expired
  | finished (answer : Option (Answer Response))

/-- A worker and what it captured. -/
structure Worker (κ Request Response : Type) where
  client : ℕ
  request : Request
  timeoutMs : ℤ
  callback : AsyncCallback κ
  stage : Stage Response := .spawned

/-- A client and the owning references its callers hold. -/
structure ClientObject where
  impl : InterfacesClientImpl
  owners : ℕ := 1

/-- What a worker did. -/
inductive Event (Response : Type) where
  /-- It locked its weak pointer; whether the client was there. -/
  | locked (worker : ℕ) (alive : Bool)
  /-- Its `Query` returned. -/
  | queried (worker : ℕ) (answer : Answer Response)
  /-- It called its callback. -/
  | called (worker : ℕ) (answer : Answer Response)

/-- Whose event it is. -/
def Event.worker {Response : Type} : Event Response → ℕ
  | .locked w _ | .queried w _ | .called w _ => w

/-- A call of a callback. -/
def Event.isCalled {Response : Type} : Event Response → Bool
  | .called _ _ => true
  | _ => false

/-- The clients, the workers, and the values each promise was set to. -/
structure State (κ Request Response : Type) where
  clients : List ClientObject := []
  workers : List (Worker κ Request Response) := []
  promises : List (List Status) := []
  events : List (Event Response) := []

/-- A step of a worker; `Query` meets a clock reading and a peer. -/
inductive Action (Request Response : Type) where
  | lock
  | query (now : ℤ) (rpc : Rpc Request Response)
  | call
  | release

/-- A step of a worker or of a caller. -/
inductive Label (κ Request Response : Type) where
  | newClient (impl : InterfacesClientImpl)
  | reconnect (client : ℕ) (impl : InterfacesClientImpl)
  | copyOwner (client : ℕ)
  | dropOwner (client : ℕ)
  | queryAsync (client : ℕ) (request : Request) (timeoutMs : ℤ) (callback : κ)
  | queryAsyncFuture (client : ℕ) (request : Request) (timeoutMs : ℤ)
  | worker (w : ℕ) (action : Action Request Response)

variable {κ Request Response : Type}

/-- The worker holds a reference to its client. -/
def Stage.holds : Stage Response → Bool
  | .locked | .queried _ | .called _ => true
  | _ => false

/-- The worker is done. -/
def Stage.isFinished : Stage Response → Bool
  | .finished _ => true
  | _ => false

namespace State

/-- The references to a client there are. -/
def useCount (i : ℕ) (s : State κ Request Response) : ℕ :=
  (s.clients[i]?.elim 0 ClientObject.owners) +
    s.workers.countP fun x => x.client == i && x.stage.holds

/-- The client is still there. -/
def alive (i : ℕ) (s : State κ Request Response) : Bool := 0 < s.useCount i

/-- A step of an owner of the client `i`. -/
def own (i : ℕ) (f : ClientObject → ClientObject) (s : State κ Request Response) :
    State κ Request Response :=
  match s.clients[i]? with
  | some c => if 0 < c.owners then { s with clients := s.clients.set i (f c) } else s
  | none => s

/-- `QueryAsync(request, callback, timeout_ms)`. -/
def queryAsync (i : ℕ) (request : Request) (timeoutMs : ℤ) (callback : AsyncCallback κ)
    (s : State κ Request Response) : State κ Request Response :=
  { s with workers := s.workers ++ [⟨i, request, timeoutMs, callback, .spawned⟩] }

/-- `QueryAsync(request, timeout_ms)`, with a promise of its own. -/
def queryAsyncFuture (i : ℕ) (request : Request) (timeoutMs : ℤ)
    (s : State κ Request Response) : State κ Request Response :=
  queryAsync i request timeoutMs (.setPromise s.promises.length)
    { s with promises := s.promises ++ [[]] }

/-- The worker `w`, so far `x`, is at `stage` and did `es`. -/
def advance (w : ℕ) (x : Worker κ Request Response) (stage : Stage Response)
    (es : List (Event Response)) (s : State κ Request Response) : State κ Request Response :=
  { s with workers := s.workers.set w { x with stage := stage }, events := s.events ++ es }

/-- A callback is handed a status. -/
def invoke (callback : AsyncCallback κ) (status : Status) (s : State κ Request Response) :
    State κ Request Response :=
  match callback with
  | .user _ => s
  | .setPromise p => { s with promises := s.promises.modify p (· ++ [status]) }

/-- One step of the worker `w`, so far `x`. -/
def act [Inhabited Response] (w : ℕ) (x : Worker κ Request Response)
    (action : Action Request Response) (s : State κ Request Response) :
    State κ Request Response :=
  match action, x.stage with
  | .lock, .spawned =>
      if s.alive x.client then s.advance w x .locked [.locked w true]
      else s.advance w x .expired [.locked w false]
  | .query now rpc, .locked =>
      match s.clients[x.client]? with
      | some c =>
          let (status, response) := query c.impl now x.timeoutMs rpc x.request default
          s.advance w x (.queried ⟨status, response⟩) [.queried w ⟨status, response⟩]
      | none => s
  | .call, .queried answer =>
      (s.invoke x.callback answer.status).advance w x (.called answer) [.called w answer]
  | .call, .expired =>
      (s.invoke x.callback (canceled : Answer Response).status).advance w x
        (.finished none) [.called w canceled]
  | .release, .called answer => s.advance w x (.finished (some answer)) []
  | _, _ => s

/-- One step. -/
def step [Inhabited Response] (s : State κ Request Response) :
    Label κ Request Response → State κ Request Response
  | .newClient impl => { s with clients := s.clients ++ [{ impl := impl }] }
  | .reconnect i impl => s.own i fun c => { c with impl := impl }
  | .copyOwner i => s.own i fun c => { c with owners := c.owners + 1 }
  | .dropOwner i => s.own i fun c => { c with owners := c.owners - 1 }
  | .queryAsync i request timeoutMs callback =>
      if s.alive i then s.queryAsync i request timeoutMs (.user callback) else s
  | .queryAsyncFuture i request timeoutMs =>
      if s.alive i then s.queryAsyncFuture i request timeoutMs else s
  | .worker w action =>
      match s.workers[w]? with
      | some x => s.act w x action
      | none => s

/-- What the worker `w` did, in order. -/
def eventsOf (w : ℕ) (s : State κ Request Response) : List (Event Response) :=
  s.events.filter (·.worker == w)

end State

/-- Clients, workers and callers from the start on. -/
def queries [Inhabited Response] :
    Machine (State κ Request Response) (Label κ Request Response) where
  init := {}
  next := State.step

/-! ### What a step of a worker does -/

variable {s s' : State κ Request Response} {w : ℕ} {x : Worker κ Request Response}

/-- How many of its four steps a worker at a stage has behind it. -/
@[simp] def Stage.rank : Stage Response → ℕ
  | .spawned => 0
  | .locked => 1
  | .queried _ | .expired => 2
  | .called _ => 3
  | .finished _ => 4

/-- Which of the four steps of a worker it is. -/
@[simp] def Action.rank : Action Request Response → ℕ
  | .lock => 0
  | .query _ _ => 1
  | .call => 2
  | .release => 3

theorem Stage.isFinished_of_rank {stage : Stage Response} (h : 3 < stage.rank) :
    stage.isFinished = true := by
  cases stage with
  | finished answer => rfl
  | _ => exact absurd h (by simp)

/-- The promise a callback sets. -/
def AsyncCallback.promise : AsyncCallback κ → Option ℕ
  | .user _ => none
  | .setPromise p => some p

theorem AsyncCallback.eq_of_promise (callback : AsyncCallback κ) {p : ℕ}
    (h : callback.promise = some p) : callback = .setPromise p := by
  cases callback with
  | user f => cases h
  | setPromise q => rw [Option.some.inj h]

/-- The answer is what the worker's own `Query` gave. -/
def Worker.Asked [Inhabited Response] (x : Worker κ Request Response) (a : Answer Response) :
    Prop :=
  ∃ impl now rpc, (a.status, a.response) = query impl now x.timeoutMs rpc x.request default

/-- What a worker at a stage has done. -/
def Stage.trace [Inhabited Response] (w : ℕ) : Stage Response → List (Event Response)
  | .spawned => []
  | .locked => [.locked w true]
  | .queried a => [.locked w true, .queried w a]
  | .called a | .finished (some a) => [.locked w true, .queried w a, .called w a]
  | .expired => [.locked w false]
  | .finished none => [.locked w false, .called w canceled]

/-- What the callback of a worker at a stage was handed. -/
def Stage.said [Inhabited Response] : Stage Response → List Status
  | .called a | .finished (some a) => [a.status]
  | .finished none => [(canceled : Answer Response).status]
  | _ => []

/-- The worker `w`, so far `x`, moved to `stage`, doing `es` and handing `said`
to its callback. -/
structure Moves (s s' : State κ Request Response) (w : ℕ) (x : Worker κ Request Response)
    (stage : Stage Response) (es : List (Event Response)) (said : List Status) : Prop where
  clients : s'.clients = s.clients
  workers : s'.workers = s.workers.set w { x with stage := stage }
  events : s'.events = s.events ++ es
  promises : ∀ p, s'.promises[p]? =
    s.promises[p]?.map (· ++ if x.callback.promise = some p then said else [])

theorem eventsOf_of_append {es : List (Event Response)} (he : s'.events = s.events ++ es)
    (v : ℕ) : s'.eventsOf v = s.eventsOf v ++ es.filter (·.worker == v) := by
  rw [State.eventsOf, he, List.filter_append, State.eventsOf]

theorem moves_advance (stage : Stage Response) (es : List (Event Response)) :
    Moves s (s.advance w x stage es) w x stage es [] := by
  refine ⟨rfl, rfl, rfl, fun p => ?_⟩
  simp [State.advance]

@[simp] theorem clients_invoke (callback : AsyncCallback κ) (status : Status) :
    (s.invoke callback status).clients = s.clients := by cases callback <;> rfl

@[simp] theorem workers_invoke (callback : AsyncCallback κ) (status : Status) :
    (s.invoke callback status).workers = s.workers := by cases callback <;> rfl

@[simp] theorem events_invoke (callback : AsyncCallback κ) (status : Status) :
    (s.invoke callback status).events = s.events := by cases callback <;> rfl

theorem getElem?_invoke (callback : AsyncCallback κ) (status : Status) (p : ℕ) :
    (s.invoke callback status).promises[p]? =
      s.promises[p]?.map (· ++ if callback.promise = some p then [status] else []) := by
  cases callback with
  | user f => simp [State.invoke, AsyncCallback.promise]
  | setPromise q =>
      simp only [State.invoke, AsyncCallback.promise, List.getElem?_modify, Option.some.injEq]
      by_cases hq : q = p
      · simp [hq]
      · simp [hq]

theorem moves_invoke (stage : Stage Response) (es : List (Event Response)) (status : Status) :
    Moves s ((s.invoke x.callback status).advance w x stage es) w x stage es [status] := by
  refine ⟨?_, ?_, ?_, fun p => getElem?_invoke x.callback status p⟩
  · simp [State.advance]
  · simp [State.advance]
  · simp [State.advance]

/-- **A step of a worker** takes it one stage further: what it did and what its
callback was handed grow by what the stages differ in.  It is none if it is not
the worker's next. -/
theorem act_cases [Inhabited Response] (s : State κ Request Response) (w : ℕ)
    (x : Worker κ Request Response) (action : Action Request Response) :
    (s.act w x action = s ∧ (x.client < s.clients.length → action.rank ≠ x.stage.rank)) ∨
    ∃ stage es said, Moves s (s.act w x action) w x stage es said ∧
      action.rank < stage.rank ∧
      stage.trace w = x.stage.trace w ++ es ∧ stage.said = x.stage.said ++ said ∧
      (∀ e ∈ es, e.worker = w) ∧ ∀ a, .queried w a ∈ es → x.Asked a := by
  unfold State.act
  cases hst : x.stage with
  | spawned =>
      cases action with
      | lock =>
          refine Or.inr ?_
          cases ha : s.alive x.client with
          | true =>
              exact ⟨_, _, _, moves_advance .locked [.locked w true], by simp, rfl, rfl,
                by simp [Event.worker], by simp⟩
          | false =>
              exact ⟨_, _, _, moves_advance .expired [.locked w false], by simp, rfl, rfl,
                by simp [Event.worker], by simp⟩
      | _ => exact Or.inl ⟨rfl, fun _ => by simp⟩
  | locked =>
      cases action with
      | query now rpc =>
          cases hc : s.clients[x.client]? with
          | none =>
              refine Or.inl ⟨rfl, fun hlt => ?_⟩
              have hge := List.getElem?_eq_none_iff.1 hc
              omega
          | some c =>
              refine Or.inr ⟨_, _, _, moves_advance _ _, by simp, rfl, rfl,
                by simp [Event.worker], ?_⟩
              intro a ha
              obtain rfl : a = _ := by simpa using ha
              exact ⟨c.impl, now, rpc, rfl⟩
      | _ => exact Or.inl ⟨rfl, fun _ => by simp⟩
  | queried answer =>
      cases action with
      | call =>
          exact Or.inr ⟨_, _, _, moves_invoke _ _ _, by simp, rfl, rfl, by simp [Event.worker],
            by simp⟩
      | _ => exact Or.inl ⟨rfl, fun _ => by simp⟩
  | called answer =>
      cases action with
      | release =>
          exact Or.inr ⟨_, _, _, moves_advance _ _, by simp, rfl, rfl, by simp, by simp⟩
      | _ => exact Or.inl ⟨rfl, fun _ => by simp⟩
  | expired =>
      cases action with
      | call =>
          exact Or.inr ⟨_, _, _, moves_invoke _ _ _, by simp, rfl, rfl, by simp [Event.worker],
            by simp⟩
      | _ => exact Or.inl ⟨rfl, fun _ => by simp⟩
  | finished answer =>
      cases action <;> exact Or.inl ⟨rfl, fun _ => by simp⟩

section Moves

variable {stage : Stage Response} {es : List (Event Response)} {said : List Status}
  (hm : Moves s s' w x stage es said) (hx : s.workers[w]? = some x)
include hm

theorem Moves.promise_lt {p : ℕ} (hp : p < s'.promises.length) : p < s.promises.length := by
  by_contra hge
  have hnone := hm.promises p
  rw [List.getElem?_eq_none (Nat.not_lt.1 hge), List.getElem?_eq_getElem hp] at hnone
  cases hnone

include hx

/-- After a step of `w`, what a worker `v` is at. -/
theorem Moves.worker_iff {v : ℕ} {y : Worker κ Request Response} :
    s'.workers[v]? = some y ↔
      (v = w ∧ y = { x with stage := stage }) ∨ (v ≠ w ∧ s.workers[v]? = some y) := by
  rw [hm.workers]
  exact pool_set_iff hx

/-- A worker keeps its client and its callback. -/
theorem Moves.before {v : ℕ} {y : Worker κ Request Response} (hy : s'.workers[v]? = some y) :
    ∃ z, s.workers[v]? = some z ∧ z.client = y.client ∧ z.callback = y.callback := by
  rcases (hm.worker_iff hx).1 hy with ⟨rfl, rfl⟩ | ⟨-, hold⟩
  · exact ⟨x, hx, rfl, rfl⟩
  · exact ⟨y, hold, rfl, rfl⟩

/-- A worker is not lost, and keeps what it captured. -/
theorem Moves.after {v : ℕ} {z : Worker κ Request Response} (hz : s.workers[v]? = some z) :
    ∃ stage', s'.workers[v]? = some { z with stage := stage' } := by
  by_cases hv : v = w
  · subst hv
    obtain rfl : x = z := Option.some.inj (hx.symm.trans hz)
    exact ⟨stage, (hm.worker_iff hx).2 (Or.inl ⟨rfl, rfl⟩)⟩
  · exact ⟨z.stage, (hm.worker_iff hx).2 (Or.inr ⟨hv, hz⟩)⟩

end Moves

/-- The promises with the worker `x` new: those there were, and its own if its
callback sets one. -/
def Worker.Brings (x : Worker κ Request Response) (before after : List (List Status)) : Prop :=
  (x.callback.promise = none ∧ after = before) ∨
    (x.callback.promise = some before.length ∧ after = before ++ [[]])

/-- Of the promises with a new worker, one is its own and the others were there. -/
theorem Worker.Brings.cases {before after : List (List Status)} (hb : x.Brings before after)
    {p : ℕ} (hp : p < after.length) : p < before.length ∨ x.callback.promise = some p := by
  rcases hb with ⟨-, rfl⟩ | ⟨hsome, rfl⟩
  · exact Or.inl hp
  · rw [List.length_append, List.length_singleton] at hp
    by_cases hlt : p < before.length
    · exact Or.inl hlt
    · obtain rfl : before.length = p := by omega
      exact Or.inr hsome

/-- The promise a new worker brings is not set, and the others keep their values. -/
theorem Worker.Brings.getElem? {before after : List (List Status)} (hb : x.Brings before after)
    {p : ℕ} : (x.callback.promise = some p → after[p]? = some []) ∧
      ∀ values, before[p]? = some values → after[p]? = some values := by
  rcases hb with ⟨hnone, rfl⟩ | ⟨hsome, rfl⟩
  · refine ⟨fun hp => ?_, fun _ h => h⟩
    rw [hnone] at hp
    cases hp
  · refine ⟨fun hp => ?_, fun _ h => pool_spawn_iff.2 (Or.inr h)⟩
    obtain rfl : before.length = p := Option.some.inj (hsome.symm.trans hp)
    exact pool_spawn_iff.2 (Or.inl ⟨rfl, rfl⟩)

/-- A client is there as long as an owner or a worker holds it. -/
theorem alive_iff {i : ℕ} :
    s.alive i = true ↔ 0 < s.clients[i]?.elim 0 ClientObject.owners ∨
      ∃ (u : ℕ) (y : Worker κ Request Response), s.workers[u]? = some y ∧ y.client = i ∧
        y.stage.holds = true := by
  have hcount : (0 < s.workers.countP fun x => x.client == i && x.stage.holds) ↔
      ∃ (u : ℕ) (y : Worker κ Request Response), s.workers[u]? = some y ∧ y.client = i ∧
        y.stage.holds = true := by
    rw [List.countP_pos_iff]
    constructor
    · rintro ⟨y, hmem, hy⟩
      obtain ⟨u, hu⟩ := List.getElem?_of_mem hmem
      obtain ⟨hclient, hholds⟩ := Bool.and_eq_true_iff.1 hy
      exact ⟨u, y, hu, beq_iff_eq.1 hclient, hholds⟩
    · rintro ⟨u, y, hu, hclient, hholds⟩
      exact ⟨y, List.mem_of_getElem? hu, Bool.and_eq_true_iff.2 ⟨beq_iff_eq.2 hclient, hholds⟩⟩
  rw [State.alive, State.useCount, decide_eq_true_eq, ← hcount]
  omega

/-! ### The invariant -/

/-- What holds between two steps: each worker works for a client there is and did
what its stage says, and the promise of a worker is its own and was set to what
its callback was handed. -/
structure Inv [Inhabited Response] (s : State κ Request Response) : Prop where
  client_lt : ∀ {w : ℕ} {x : Worker κ Request Response}, s.workers[w]? = some x →
    x.client < s.clients.length
  trace : ∀ {w : ℕ} {x : Worker κ Request Response}, s.workers[w]? = some x →
    s.eventsOf w = x.stage.trace w
  worker_lt : ∀ e ∈ s.events, e.worker < s.workers.length
  said : ∀ {w p : ℕ} {x : Worker κ Request Response}, s.workers[w]? = some x →
    x.callback.promise = some p → s.promises[p]? = some x.stage.said
  owned : ∀ p < s.promises.length, ∃ (w : ℕ) (x : Worker κ Request Response),
    s.workers[w]? = some x ∧ x.callback.promise = some p
  apart : ∀ {w w' p : ℕ} {x x' : Worker κ Request Response}, s.workers[w]? = some x →
    s.workers[w']? = some x' → x.callback.promise = some p → x'.callback.promise = some p →
    w = w'
  asked : ∀ {w : ℕ} {x : Worker κ Request Response} {a : Answer Response},
    s.workers[w]? = some x → .queried w a ∈ s.events → x.Asked a

section Inv

variable [Inhabited Response]

theorem inv_init : Inv (queries.init : State κ Request Response) where
  client_lt h := by cases h
  trace h := by cases h
  worker_lt e he := by cases he
  said h := by cases h
  owned p hp := by cases hp
  apart h := by cases h
  asked h := by cases h

/-- The owners of the clients play no part in the invariant. -/
theorem Inv.of_clients (h : Inv s) {clients : List ClientObject}
    (hlen : s.clients.length ≤ clients.length) : Inv { s with clients := clients } :=
  ⟨fun hx => Nat.lt_of_lt_of_le (h.client_lt hx) hlen, h.trace, h.worker_lt, h.said, h.owned,
    h.apart, h.asked⟩

theorem Inv.own (h : Inv s) (i : ℕ) (f : ClientObject → ClientObject) : Inv (s.own i f) := by
  unfold State.own
  split
  · split
    · exact h.of_clients (Nat.le_of_eq (List.length_set ..).symm)
    · exact h
  · exact h

/-- A client that is still there is one of the clients. -/
theorem Inv.lt_of_alive (h : Inv s) {i : ℕ} (ha : s.alive i = true) : i < s.clients.length := by
  rcases alive_iff.1 ha with howned | ⟨u, y, hy, hclient, -⟩
  · by_contra hge
    rw [List.getElem?_eq_none (Nat.not_lt.1 hge)] at howned
    exact Nat.lt_irrefl 0 howned
  · rw [← hclient]
    exact h.client_lt hy

/-- A worker number without a worker has no events. -/
theorem Inv.eventsOf_none (h : Inv s) (hw : s.workers[w]? = none) : s.eventsOf w = [] := by
  refine List.filter_eq_nil_iff.2 fun e he => ?_
  have hlt := h.worker_lt e he
  have hge := List.getElem?_eq_none_iff.1 hw
  have hne : e.worker ≠ w := by omega
  simpa using hne

/-- The promise of a worker there is, is there. -/
theorem Inv.promise_lt (h : Inv s) {p : ℕ} (hx : s.workers[w]? = some x)
    (hp : x.callback.promise = some p) : p < s.promises.length :=
  lt_of_pool (h.said hx hp)

/-- The promise of a new worker is none there was. -/
theorem Inv.not_shared (h : Inv s) {promises : List (List Status)}
    (hb : x.Brings s.promises promises) {v p : ℕ} {y : Worker κ Request Response}
    (hy : s.workers[v]? = some y) (hyp : y.callback.promise = some p) :
    x.callback.promise ≠ some p := by
  intro hxp
  have hlt := h.promise_lt hy hyp
  rcases hb with ⟨hnone, -⟩ | ⟨hsome, -⟩
  · rw [hnone] at hxp
    cases hxp
  · have heq : s.promises.length = p := Option.some.inj (hsome.symm.trans hxp)
    omega

/-- **A new worker**, with a callback of the user or a promise of its own. -/
theorem Inv.spawn (h : Inv s) (hc : s.alive x.client = true) (hx : x.stage = .spawned)
    {promises : List (List Status)} (hb : x.Brings s.promises promises) :
    Inv { s with workers := s.workers ++ [x], promises := promises } where
  client_lt {w y} hy := by
    rcases pool_spawn_iff.1 hy with ⟨-, rfl⟩ | hy
    · exact h.lt_of_alive hc
    · exact h.client_lt hy
  trace {w y} hy := by
    rcases pool_spawn_iff.1 hy with ⟨rfl, rfl⟩ | hy
    · rw [hx]
      exact h.eventsOf_none (List.getElem?_eq_none (Nat.le_refl _))
    · exact h.trace hy
  worker_lt e he := by
    have hlt := h.worker_lt e he
    have hlen : (s.workers ++ [x]).length = s.workers.length + 1 := List.length_append
    show e.worker < (s.workers ++ [x]).length
    omega
  said {w p y} hy hyp := by
    rcases pool_spawn_iff.1 hy with ⟨-, rfl⟩ | hy
    · rw [hx]
      exact hb.getElem?.1 hyp
    · exact hb.getElem?.2 _ (h.said hy hyp)
  owned p hp := by
    rcases hb.cases hp with hlt | hxp
    · obtain ⟨w, y, hy, hyp⟩ := h.owned p hlt
      exact ⟨w, y, pool_spawn_iff.2 (Or.inr hy), hyp⟩
    · exact ⟨s.workers.length, x, pool_spawn_iff.2 (Or.inl ⟨rfl, rfl⟩), hxp⟩
  apart {w w' p y y'} hy hy' hyp hyp' := by
    rcases pool_spawn_iff.1 hy with ⟨hw, rfl⟩ | hold
    · rcases pool_spawn_iff.1 hy' with ⟨hw', -⟩ | hold'
      · rw [hw, hw']
      · exact absurd hyp (h.not_shared hb hold' hyp')
    · rcases pool_spawn_iff.1 hy' with ⟨-, rfl⟩ | hold'
      · exact absurd hyp' (h.not_shared hb hold hyp)
      · exact h.apart hold hold' hyp hyp'
  asked {w y a} hy ha := by
    rcases pool_spawn_iff.1 hy with ⟨rfl, -⟩ | hy
    · have hlt := h.worker_lt _ ha
      exact absurd hlt (Nat.lt_irrefl _)
    · exact h.asked hy ha

/-- **A worker moves on.** -/
theorem Inv.moves (h : Inv s) {stage : Stage Response} {es : List (Event Response)}
    {said : List Status} (hm : Moves s s' w x stage es said) (hx : s.workers[w]? = some x)
    (htrace : stage.trace w = x.stage.trace w ++ es)
    (hsaid : stage.said = x.stage.said ++ said) (hmine : ∀ e ∈ es, e.worker = w)
    (hasked : ∀ a, .queried w a ∈ es → x.Asked a) : Inv s' where
  client_lt {v y} hy := by
    obtain ⟨z, hz, hclient, -⟩ := hm.before hx hy
    rw [← hclient, hm.clients]
    exact h.client_lt hz
  trace {v y} hy := by
    rw [eventsOf_of_append hm.events]
    rcases (hm.worker_iff hx).1 hy with ⟨rfl, rfl⟩ | ⟨hne, hold⟩
    · have hall : es.filter (·.worker == v) = es :=
        List.filter_eq_self.2 fun e he => by simp [hmine e he]
      rw [hall, h.trace hx, htrace]
    · have hnone : es.filter (·.worker == v) = [] :=
        List.filter_eq_nil_iff.2 fun e he => by simp [hmine e he, hne.symm]
      rw [hnone, List.append_nil, h.trace hold]
  worker_lt e he := by
    rw [hm.workers, List.length_set]
    rw [hm.events] at he
    rcases List.mem_append.1 he with he | he
    · exact h.worker_lt e he
    · rw [hmine e he]
      exact lt_of_pool hx
  said {v p y} hy hyp := by
    rw [hm.promises]
    rcases (hm.worker_iff hx).1 hy with ⟨rfl, rfl⟩ | ⟨hne, hold⟩
    · rw [if_pos hyp, h.said hx hyp, hsaid]
      rfl
    · have hother : x.callback.promise ≠ some p := fun hxp => hne (h.apart hold hx hyp hxp)
      rw [if_neg hother, h.said hold hyp]
      simp
  owned p hp := by
    obtain ⟨v, z, hz, hzp⟩ := h.owned p (hm.promise_lt hp)
    obtain ⟨stage', hy⟩ := hm.after hx hz
    exact ⟨v, _, hy, hzp⟩
  apart {v v' p y y'} hy hy' hyp hyp' := by
    obtain ⟨z, hz, -, hcb⟩ := hm.before hx hy
    obtain ⟨z', hz', -, hcb'⟩ := hm.before hx hy'
    exact h.apart hz hz' (by rw [hcb, hyp]) (by rw [hcb', hyp'])
  asked {v y a} hy ha := by
    rw [hm.events] at ha
    rcases (hm.worker_iff hx).1 hy with ⟨rfl, rfl⟩ | ⟨hne, hold⟩
    · have hxa : x.Asked a := by
        rcases List.mem_append.1 ha with ha | ha
        · exact h.asked hx ha
        · exact hasked a ha
      exact hxa
    · rcases List.mem_append.1 ha with ha | ha
      · exact h.asked hold ha
      · exact absurd (hmine _ ha) hne

/-- **Every step keeps the invariant.** -/
theorem Inv.step (h : Inv s) (l : Label κ Request Response) : Inv (s.step l) := by
  cases l with
  | newClient impl =>
      refine h.of_clients ?_
      rw [List.length_append]
      exact Nat.le_add_right _ _
  | reconnect i impl => exact h.own i _
  | copyOwner i => exact h.own i _
  | dropOwner i => exact h.own i _
  | queryAsync i request timeoutMs callback =>
      unfold State.step
      simp only
      split
      · rename_i ha
        exact h.spawn ha rfl (Or.inl ⟨rfl, rfl⟩)
      · exact h
  | queryAsyncFuture i request timeoutMs =>
      unfold State.step
      simp only
      split
      · rename_i ha
        exact h.spawn ha rfl (Or.inr ⟨rfl, rfl⟩)
      · exact h
  | worker w action =>
      cases hx : s.workers[w]? with
      | none =>
          simp only [State.step, hx]
          exact h
      | some x =>
          simp only [State.step, hx]
          rcases act_cases s w x action with
            ⟨hsame, -⟩ | ⟨stage, es, said, hm, -, ht, hs, hmine, ha⟩
          · rw [hsame]
            exact h
          · exact h.moves hm hx ht hs hmine ha

theorem queries_inv (ls : List (Label κ Request Response)) : Inv (queries.run ls) :=
  Machine.run_invariant (I := fun s : State κ Request Response => Inv s) inv_init
    (fun _ l h => h.step l) ls

/-! ### Exactly one callback -/

theorem Stage.countP_trace_le (stage : Stage Response) (w : ℕ) :
    (stage.trace w).countP Event.isCalled ≤ 1 := by
  cases stage with
  | finished answer => cases answer <;> exact Nat.le_refl 1
  | _ => first | exact Nat.le_refl 1 | exact Nat.zero_le 1

theorem Stage.length_said_le (stage : Stage Response) : stage.said.length ≤ 1 := by
  cases stage with
  | finished answer => cases answer <;> exact Nat.le_refl 1
  | _ => first | exact Nat.le_refl 1 | exact Nat.zero_le 1

/-- What a finished worker did, and what it handed to its callback: the answer of
its own `Query` if it found the client, the canceled answer if not. -/
def Worker.Done (x : Worker κ Request Response) (w : ℕ) (a : Answer Response)
    (s : State κ Request Response) : Prop :=
  (s.eventsOf w = [.locked w true, .queried w a, .called w a] ∧ x.Asked a) ∨
    (s.eventsOf w = [.locked w false, .called w a] ∧ a = canceled)

theorem Inv.done (h : Inv s) (hx : s.workers[w]? = some x) (hf : x.stage.isFinished = true) :
    ∃ a, x.Done w a s ∧ x.stage.said = [a.status] := by
  have htrace := h.trace hx
  cases hst : x.stage with
  | finished answer =>
      rw [hst] at htrace
      cases answer with
      | none => exact ⟨canceled, Or.inr ⟨htrace, rfl⟩, rfl⟩
      | some a =>
          have hmem : .queried w a ∈ s.eventsOf w := by
            rw [htrace]
            simp [Stage.trace]
          exact ⟨a, Or.inl ⟨htrace, h.asked hx (List.mem_filter.1 hmem).1⟩, rfl⟩
  | _ =>
      rw [hst] at hf
      cases hf

/-! ### Every request has a worker -/

/-- What a `QueryAsync` and the first steps of its worker do: a request on a client that
is there gets a worker of its own, with the callback of the user or a promise of its own;
the worker finds the client exactly if it is still there, and then asks it as it is. -/
structure Launches (s : State κ Request Response) : Prop where
  callback : ∀ (i : ℕ) (request : Request) (timeoutMs : ℤ) (callback : κ), s.alive i = true →
    (s.step (.queryAsync i request timeoutMs callback)).workers =
      s.workers ++ [⟨i, request, timeoutMs, .user callback, .spawned⟩]
  future : ∀ (i : ℕ) (request : Request) (timeoutMs : ℤ), s.alive i = true →
    (s.step (.queryAsyncFuture i request timeoutMs)).workers =
        s.workers ++ [⟨i, request, timeoutMs, .setPromise s.promises.length, .spawned⟩] ∧
      (s.step (.queryAsyncFuture i request timeoutMs)).promises = s.promises ++ [[]]
  locks : ∀ (w : ℕ) (x : Worker κ Request Response), s.workers[w]? = some x →
    x.stage = .spawned →
      (s.step (.worker w .lock)).eventsOf w = [.locked w (s.alive x.client)]
  asks : ∀ (w : ℕ) (x : Worker κ Request Response) (c : ClientObject) (now : ℤ)
    (rpc : Rpc Request Response), s.workers[w]? = some x → x.stage = .locked →
      s.clients[x.client]? = some c →
        let answer := query c.impl now x.timeoutMs rpc x.request default
        (s.step (.worker w (.query now rpc))).eventsOf w =
          [.locked w true, .queried w ⟨answer.1, answer.2⟩]

theorem Inv.launches (h : Inv s) : Launches s where
  callback i request timeoutMs callback ha := by simp [State.step, ha, State.queryAsync]
  future i request timeoutMs ha := by
    simp [State.step, ha, State.queryAsyncFuture, State.queryAsync]
  locks w x hx hst := by
    have hnone : s.eventsOf w = [] := by rw [h.trace hx, hst, Stage.trace]
    have hevents : (s.step (.worker w .lock)).events =
        s.events ++ [.locked w (s.alive x.client)] := by
      cases ha : s.alive x.client <;> simp [State.step, hx, State.act, hst, ha, State.advance]
    rw [eventsOf_of_append hevents, hnone]
    simp [Event.worker]
  asks w x c now rpc hx hst hc := by
    intro answer
    have hlocked : s.eventsOf w = [.locked w true] := by rw [h.trace hx, hst, Stage.trace]
    have hevents : (s.step (.worker w (.query now rpc))).events =
        s.events ++ [.queried w ⟨answer.1, answer.2⟩] := by
      simp [State.step, hx, State.act, hst, hc, State.advance, answer]
    rw [eventsOf_of_append hevents, hlocked]
    simp [Event.worker]

/-- A step leaves a worker what it captured. -/
theorem exists_worker_step (hx : s.workers[w]? = some x) (l : Label κ Request Response) :
    ∃ stage, (s.step l).workers[w]? = some { x with stage := stage } := by
  have hown (i : ℕ) (f : ClientObject → ClientObject) : (s.own i f).workers = s.workers := by
    unfold State.own
    split
    · split <;> rfl
    · rfl
  have hspawn {s' : State κ Request Response} (b : Bool) (h : s'.workers[w]? = some x) :
      (if b then s' else s).workers[w]? = some x := by
    cases b with
    | true => exact h
    | false => exact hx
  cases l with
  | newClient impl => exact ⟨x.stage, hx⟩
  | reconnect i impl => exact ⟨x.stage, (congrArg (·[w]?) (hown i _)).trans hx⟩
  | copyOwner i => exact ⟨x.stage, (congrArg (·[w]?) (hown i _)).trans hx⟩
  | dropOwner i => exact ⟨x.stage, (congrArg (·[w]?) (hown i _)).trans hx⟩
  | queryAsync i request timeoutMs callback =>
      exact ⟨x.stage, hspawn _ (pool_spawn_iff.2 (Or.inr hx))⟩
  | queryAsyncFuture i request timeoutMs =>
      exact ⟨x.stage, hspawn _ (pool_spawn_iff.2 (Or.inr hx))⟩
  | worker v action =>
      cases hv : s.workers[v]? with
      | none =>
          simp only [State.step, hv]
          exact ⟨x.stage, hx⟩
      | some y =>
          simp only [State.step, hv]
          rcases act_cases s v y action with ⟨hsame, -⟩ | ⟨stage, es, said, hm, -⟩
          · rw [hsame]
            exact ⟨x.stage, hx⟩
          · exact hm.after hv hx

/-- What a request has launched stays, whatever happens then. -/
theorem exists_worker_runFrom (hx : s.workers[w]? = some x) (ls : List (Label κ Request Response)) :
    ∃ stage, (queries.runFrom s ls).workers[w]? = some { x with stage := stage } := by
  induction ls generalizing s x with
  | nil => exact ⟨x.stage, hx⟩
  | cons l ls ih =>
      obtain ⟨stage, hstep⟩ := exists_worker_step hx l
      obtain ⟨stage', hrun⟩ := ih hstep
      exact ⟨stage', hrun⟩

/-! ### Every worker can finish -/

/-- **No step of a worker is stuck.**  A worker that has the steps before it
behind it has the step itself behind it afterwards. -/
theorem Inv.rank_lt_step (h : Inv s) (hx : s.workers[w]? = some x)
    (action : Action Request Response) (hr : action.rank ≤ x.stage.rank) :
    ∃ y, (s.step (.worker w action)).workers[w]? = some y ∧ action.rank < y.stage.rank := by
  have hstep : s.step (.worker w action) = s.act w x action := by simp only [State.step, hx]
  rw [hstep]
  rcases act_cases s w x action with ⟨hsame, hne⟩ | ⟨stage, es, said, hm, hlt, -⟩
  · have hne' := hne (h.client_lt hx)
    refine ⟨x, by rw [hsame, hx], ?_⟩
    omega
  · exact ⟨{ x with stage := stage }, (hm.worker_iff hx).2 (Or.inl ⟨rfl, rfl⟩), hlt⟩

/-- The four steps of the worker `w`. -/
def ownSteps (w : ℕ) (now : ℤ) (rpc : Rpc Request Response) : List (Label κ Request Response) :=
  [.worker w .lock, .worker w (.query now rpc), .worker w .call, .worker w .release]

/-- Its own steps bring a worker to its end, wherever it stands. -/
theorem Inv.finishes (h : Inv s) (hx : s.workers[w]? = some x) (now : ℤ)
    (rpc : Rpc Request Response) :
    ∃ stage, stage.isFinished = true ∧
      (queries.runFrom s (ownSteps w now rpc)).workers[w]? = some { x with stage := stage } := by
  obtain ⟨x₁, hx₁, hr₁⟩ := h.rank_lt_step hx .lock (Nat.zero_le _)
  have h₁ := h.step (.worker w .lock)
  obtain ⟨x₂, hx₂, hr₂⟩ := h₁.rank_lt_step hx₁ (.query now rpc) hr₁
  have h₂ := h₁.step (.worker w (.query now rpc))
  obtain ⟨x₃, hx₃, hr₃⟩ := h₂.rank_lt_step hx₂ .call hr₂
  have h₃ := h₂.step (.worker w .call)
  obtain ⟨x₄, hx₄, hr₄⟩ := h₃.rank_lt_step hx₃ .release hr₃
  obtain ⟨stage, hstage⟩ := exists_worker_runFrom hx (ownSteps w now rpc)
  obtain rfl : x₄ = { x with stage := stage } := Option.some.inj (hx₄.symm.trans hstage)
  exact ⟨stage, Stage.isFinished_of_rank hr₄, hstage⟩

/-- **Every request is called back once.**  In every state of every interleaving: a
request on a client that is there gets a worker of its own, which keeps its callback; no
callback was called twice; a worker that is done called its callback once, with the
answer of its own `Query` if the client was there when it locked its pointer and with
the canceled answer if not; and every promise has a worker, which sets it at most once,
and once it is done to the status its callback was handed.  No promise is abandoned: its
own steps bring a worker to its end, wherever it stands and whatever its peer answers. -/
theorem queries_calledOnce (ls : List (Label κ Request Response)) :
    let s : State κ Request Response := queries.run ls
    Launches s ∧
      (∀ w, (s.eventsOf w).countP Event.isCalled ≤ 1) ∧
      (∀ (w : ℕ) (x : Worker κ Request Response), s.workers[w]? = some x →
        x.stage.isFinished = true → ∃ a, x.Done w a s ∧
          ∀ p, x.callback = .setPromise p → s.promises[p]? = some [a.status]) ∧
      (∀ (p : ℕ) (values : List Status), s.promises[p]? = some values →
        values.length ≤ 1 ∧ ∃ (w : ℕ) (x : Worker κ Request Response),
          s.workers[w]? = some x ∧ x.callback = .setPromise p) ∧
      ∀ (w : ℕ) (x : Worker κ Request Response), s.workers[w]? = some x →
        (∀ ls', ∃ stage, (queries.run (ls ++ ls')).workers[w]? = some { x with stage := stage }) ∧
        ∀ now rpc, ∃ stage, stage.isFinished = true ∧
          (queries.run (ls ++ ownSteps w now rpc)).workers[w]? =
            some { x with stage := stage } := by
  intro s
  have h : Inv s := queries_inv ls
  refine ⟨h.launches, fun w => ?_, fun w x hx hf => ?_, fun p values hp => ?_,
    fun w x hx => ⟨fun ls' => ?_, fun now rpc => ?_⟩⟩
  · cases hw : s.workers[w]? with
    | none =>
        rw [h.eventsOf_none hw]
        exact Nat.zero_le 1
    | some x =>
        rw [h.trace hw]
        exact x.stage.countP_trace_le w
  · obtain ⟨a, hdone, hsaid⟩ := h.done hx hf
    refine ⟨a, hdone, fun p hp => ?_⟩
    rw [h.said hx (by rw [hp]; rfl), hsaid]
  · obtain ⟨w, x, hx, hxp⟩ := h.owned p (lt_of_pool hp)
    have hvalues : some values = some x.stage.said := hp.symm.trans (h.said hx hxp)
    refine ⟨?_, w, x, hx, x.callback.eq_of_promise hxp⟩
    rw [Option.some.inj hvalues]
    exact x.stage.length_said_le
  · rw [Machine.run_append]
    exact exists_worker_runFrom hx ls'
  · rw [Machine.run_append]
    exact h.finishes hx now rpc

end Inv

end Async
end Client
end ClientSdk
