/-
# Stopping from inside a notification

`source/robot/client/client_callback_server.cpp`: `Stop` against the handlers
that run the message callback, where the callback may call the object it is
notified by.

The owner of the object and any number of handlers take their steps in any
order.  A handler runs the program of the callback it was started with: a
program says, from the replies so far, which operation comes next, or that the
callback is done.  `Stop` clears `running_`, and then waits in `Shutdown` until
no handler of the server is running any more; if none is, it is the `Stop` of an
object alone (`impl_stop_of_quiet`).  A start whose server replaces one with
running handlers waits for them, too, in the destructor of the old server.

A handler that called `Stop` on its own server waits for itself, and so does
whoever else waits for that server (`WaitCycle`).
-/

import ClientSdk.Callback.Lifecycle
import ClientSdk.Lib.Pool

namespace ClientSdk
namespace Callback
namespace Deadlock

open Common Lib

/-- A public operation of the object. -/
inductive PublicOp (κ : Type) where
  | start (listenAddress : String) (port : ℤ)
  | startWithAutoPort (listenAddress : String)
  | stop
  | isRunning
  | getListenAddress
  | getListenPort
  | setSubscriptionMessageCallback (callback : Option κ)
  | getClientEndpoint

/-- What an operation gives back. -/
inductive Reply where
  | unit
  | status (status : Status) (assignedPort : ℤ)
  | bool (value : Bool)
  | number (value : ℤ)
  | text (value : String)

/-- The program of a callback, with states `τ`: where it starts on a
notification, and from each state the next operation with what its reply leads
to, or nothing if it is done. -/
structure Program (κ ν τ : Type) where
  init : κ → ν → τ
  next : τ → Option (PublicOp κ × (Reply → τ))

/-- The program that calls the operations of a list in order. -/
def straight {κ ν : Type} (table : κ → List (PublicOp κ)) :
    Program κ ν (List (PublicOp κ)) where
  init callback _ := table callback
  next
    | [] => none
    | op :: ops => some (op, fun _ => ops)

/-- How far a handler is. -/
inductive Stage (τ : Type) where
  /-- It runs the callback. -/
  | running (at_ : τ)
  /-- It called `Stop`, and waits in `Shutdown` of the server with this service. -/
  | stopping (server : Option ℕ) (at_ : τ)
  /-- It answered the notification. -/
  | returned

/-- A handler of the server with this service. -/
structure Handler (τ : Type) where
  server : Option ℕ
  stage : Stage τ

/-- The handler has not returned. -/
def Handler.active {τ : Type} (x : Handler τ) : Bool :=
  match x.stage with
  | .returned => false
  | _ => true

/-- The object, the server its owner waits for in `Stop`, and the handlers. -/
structure System (κ ν τ : Type) where
  object : ClientCallbackServer κ ν := {}
  owner : Option (Option ℕ) := none
  handlers : List (Handler τ) := []

/-- A step of the owner, of gRPC or of a handler.  A start and a copy of a
callback meet what is given with the step. -/
inductive Label (κ ν : Type) where
  /-- The owner calls an operation. -/
  | owner (op : PublicOp κ) (env : StartEnv ν) (copy : Except StdException Unit)
  /-- The `Shutdown` the owner waits in returns, if it can. -/
  | ownerResumes
  /-- A notification arrives at the live server. -/
  | deliver (notification : ν)
  /-- The handler `h` calls its next operation, or returns. -/
  | handler (h : ℕ) (env : StartEnv ν) (copy : Except StdException Unit)
  /-- The `Shutdown` the handler `h` waits in returns, if it can. -/
  | handlerResumes (h : ℕ)

/-- What comes of calling an operation: it returns, it raises, it waits in
`Shutdown` of a server, or it waits for a server to be replaced. -/
inductive Outcome (κ ν : Type) where
  | replies (reply : Reply) (object : ClientCallbackServer κ ν)
  | raises (object : ClientCallbackServer κ ν)
  | stops (server : Option ℕ) (object : ClientCallbackServer κ ν)
  | waits

variable {κ ν τ : Type}

namespace System

/-- A handler of the server is running. -/
def busy (server : Option ℕ) (s : System κ ν τ) : Bool :=
  s.handlers.any fun x => x.server == server && x.active

/-- Someone is in `Shutdown` of the server. -/
def shuttingDown (server : Option ℕ) (s : System κ ν τ) : Bool :=
  s.owner == some server || s.handlers.any fun x =>
    match x.stage with
    | .stopping server' _ => server' == server
    | _ => false

/-- The start gets as far as assigning `server_`, and the server held has
running handlers. -/
def replacesBusy (env : StartEnv ν) (s : System κ ν τ) : Bool :=
  !s.object.impl.running && env.storeAddress.toBool && env.makeService.toBool &&
    env.buildAndStart.toBool && s.object.impl.server.any fun server => s.busy server.service

/-- What comes of a start. -/
def started (env : StartEnv ν)
    (start : StartEnv ν → ClientCallbackServer κ ν →
      Except StdException Status × ClientCallbackServer κ ν)
    (s : System κ ν τ) : Outcome κ ν :=
  if s.replacesBusy env then .waits
  else
    match start { env with early := [] } s.object with
    | (.ok status, c) => .replies (.status status c.assignedPort) c
    | (.error _, c) => .raises c

/-- What comes of calling `op`. -/
def call (op : PublicOp κ) (env : StartEnv ν) (copy : Except StdException Unit)
    (s : System κ ν τ) : Outcome κ ν :=
  match op with
  | .start listenAddress port => s.started env (start listenAddress port)
  | .startWithAutoPort listenAddress => s.started env (startWithAutoPort listenAddress)
  | .stop =>
      match s.object.impl.server with
      | some server => .stops server.service s.object.clearRunning
      | none => .replies .unit s.object.clearRunning
  | .isRunning => .replies (.bool s.object.isRunning) s.object
  | .getListenAddress => .replies (.text s.object.getListenAddress) s.object
  | .getListenPort => .replies (.number s.object.getListenPort) s.object
  | .setSubscriptionMessageCallback callback =>
      match setSubscriptionMessageCallback callback copy s.object with
      | (.ok (), c) => .replies .unit c
      | (.error _, c) => .raises c
  | .getClientEndpoint => .replies (.text s.object.getClientEndpoint) s.object

/-- `Shutdown` of the server returns, and the thread is joined. -/
def finishStop (server : Option ℕ) (s : System κ ν τ) : System κ ν τ :=
  if s.object.impl.server.any (·.service == server) then
    { s with object := s.object.shutdownServer.joinThread }
  else { s with object := s.object.joinThread }

/-- The handler `h` is now `x`. -/
def setHandler (h : ℕ) (x : Handler τ) (s : System κ ν τ) : System κ ν τ :=
  { s with handlers := s.handlers.set h x }

/-- The owner calls an operation, if it is not in `Stop`. -/
def ownerCalls (op : PublicOp κ) (env : StartEnv ν) (copy : Except StdException Unit)
    (s : System κ ν τ) : System κ ν τ :=
  if s.owner.isSome then s
  else
    match s.call op env copy with
    | .replies _ c | .raises c => { s with object := c }
    | .stops server c => { s with object := c, owner := some server }
    | .waits => s

/-- The `Stop` of the owner goes on once no handler of its server is running. -/
def ownerResumes (s : System κ ν τ) : System κ ν τ :=
  match s.owner with
  | some server => if s.busy server then s else { s.finishStop server with owner := none }
  | none => s

/-- A handler is started by the live server, unless that is being shut down, if
the service registered with it holds a callback. -/
def deliver (p : Program κ ν τ) (n : ν) (s : System κ ν τ) : System κ ν τ :=
  match s.object.impl.liveServer with
  | some server =>
      if s.shuttingDown server.service then s
      else
        match (s.object.registered server).bind (·.messageCallback) with
        | some callback =>
            { s with handlers := s.handlers ++ [⟨server.service, .running (p.init callback n)⟩] }
        | none => s
  | none => s

/-- The handler `h` goes on with the program; an exception is caught and ends
it. -/
def handlerCalls (p : Program κ ν τ) (h : ℕ) (env : StartEnv ν)
    (copy : Except StdException Unit) (s : System κ ν τ) : System κ ν τ :=
  match s.handlers[h]? with
  | some ⟨own, .running t⟩ =>
      match p.next t with
      | none => s.setHandler h ⟨own, .returned⟩
      | some (op, k) =>
          match s.call op env copy with
          | .replies reply c => { s.setHandler h ⟨own, .running (k reply)⟩ with object := c }
          | .raises c => { s.setHandler h ⟨own, .returned⟩ with object := c }
          | .stops server c =>
              { s.setHandler h ⟨own, .stopping server (k .unit)⟩ with object := c }
          | .waits => s
  | _ => s

/-- The `Stop` of the handler `h` goes on once no handler of its server is
running. -/
def handlerResumes (h : ℕ) (s : System κ ν τ) : System κ ν τ :=
  match s.handlers[h]? with
  | some ⟨own, .stopping server t⟩ =>
      if s.busy server then s else (s.finishStop server).setHandler h ⟨own, .running t⟩
  | _ => s

/-- One step. -/
def step (p : Program κ ν τ) (s : System κ ν τ) : Label κ ν → System κ ν τ
  | .owner op env copy => s.ownerCalls op env copy
  | .ownerResumes => s.ownerResumes
  | .deliver n => s.deliver p n
  | .handler h env copy => s.handlerCalls p h env copy
  | .handlerResumes h => s.handlerResumes h

end System

/-- An object, its owner and its handlers from the construction on. -/
def interleaving (p : Program κ ν τ) : Machine (System κ ν τ) (Label κ ν) where
  init := {}
  next := System.step p

/-- **A `Stop` that finds no handler running** is the `Stop` of an object alone. -/
theorem impl_stop_of_quiet {s : System κ ν τ} (env : StartEnv ν) (copy : Except StdException Unit)
    (howner : s.owner = none) (hquiet : ∀ server, s.busy server = false) :
    (s.ownerCalls .stop env copy).ownerResumes.object.impl = (s.object.stop []).impl := by
  cases hs : s.object.impl.server with
  | some server =>
      have hcalls : s.ownerCalls .stop env copy =
          { s with object := s.object.clearRunning, owner := some server.service } := by
        simp [System.ownerCalls, howner, System.call, hs]
      have hbusy : (s.ownerCalls .stop env copy).busy server.service = false := by
        rw [hcalls]
        exact hquiet server.service
      rw [impl_stop_of_some [] hs]
      rw [hcalls] at hbusy ⊢
      simp only [System.ownerResumes, hbusy]
      simp [System.finishStop, ClientCallbackServer.clearRunning,
        ClientCallbackServer.shutdownServer, ClientCallbackServer.joinThread, hs]
  | none =>
      rw [impl_stop_of_none [] hs]
      simp [System.ownerCalls, howner, System.call, hs, System.ownerResumes,
        ClientCallbackServer.clearRunning]

/-! ### Wait cycles -/

/-- Somebody who can call `Stop`. -/
inductive Thread where
  | owner
  | handler (h : ℕ)

/-- The server in whose `Shutdown` the thread is. -/
def System.stops (s : System κ ν τ) : Thread → Option (Option ℕ)
  | .owner => s.owner
  | .handler h =>
      match s.handlers[h]? with
      | some ⟨_, .stopping server _⟩ => some server
      | _ => none

/-- The thread is blocked in `Shutdown` and waits for the handler `h`, which is
running on that server. -/
def System.WaitsFor (s : System κ ν τ) (thread : Thread) (h : ℕ) : Prop :=
  ∃ server x, s.stops thread = some server ∧ s.handlers[h]? = some x ∧ x.server = server ∧
    x.active = true

/-- A `Stop` blocked in `Shutdown` waits for a handler that is itself blocked in
a `Stop`. -/
def WaitCycle (s : System κ ν τ) : Prop :=
  ∃ thread h h', s.WaitsFor thread h ∧ s.WaitsFor (.handler h) h'

variable {p : Program κ ν τ} {s : System κ ν τ}

/-! ### What a step does to the handlers -/

@[simp] theorem handlers_finishStop (server : Option ℕ) :
    (s.finishStop server).handlers = s.handlers := by
  unfold System.finishStop
  split <;> rfl

/-- Only `Stop` waits in `Shutdown`. -/
theorem call_stops {op : PublicOp κ} {env : StartEnv ν} {copy : Except StdException Unit}
    {server : Option ℕ} {c : ClientCallbackServer κ ν}
    (h : s.call op env copy = .stops server c) : op = .stop := by
  have hstarted (start : StartEnv ν → ClientCallbackServer κ ν →
      Except StdException Status × ClientCallbackServer κ ν) :
      s.started env start ≠ .stops server c := by
    unfold System.started
    split
    · nofun
    · split <;> nofun
  cases op with
  | stop => rfl
  | start listenAddress port => exact absurd h (hstarted _)
  | startWithAutoPort listenAddress => exact absurd h (hstarted _)
  | setSubscriptionMessageCallback callback =>
      unfold System.call at h
      simp only at h
      split at h <;> cases h
  | _ => cases h

theorem ownerCalls_handlers (op : PublicOp κ) (env : StartEnv ν)
    (copy : Except StdException Unit) : (s.ownerCalls op env copy).handlers = s.handlers := by
  unfold System.ownerCalls
  split
  · rfl
  · split <;> rfl

theorem ownerResumes_handlers : s.ownerResumes.handlers = s.handlers := by
  unfold System.ownerResumes
  split
  · split
    · rfl
    · exact handlers_finishStop _
  · rfl

/-- What comes of the handlers in one step: nothing, one more of them, or one that
goes on. -/
inductive Evolves (p : Program κ ν τ) (s : System κ ν τ) : List (Handler τ) → Prop where
  | same : Evolves p s s.handlers
  | delivered (server : Option ℕ) (callback : κ) (n : ν) :
      Evolves p s (s.handlers ++ [⟨server, .running (p.init callback n)⟩])
  | returned {h : ℕ} {own : Option ℕ} {t : τ} (hx : s.handlers[h]? = some ⟨own, .running t⟩) :
      Evolves p s (s.handlers.set h ⟨own, .returned⟩)
  | replied {h : ℕ} {own : Option ℕ} {t : τ} {op : PublicOp κ} {k : Reply → τ}
      (hx : s.handlers[h]? = some ⟨own, .running t⟩) (hnext : p.next t = some (op, k))
      (reply : Reply) : Evolves p s (s.handlers.set h ⟨own, .running (k reply)⟩)
  | stopped {h : ℕ} {own : Option ℕ} {t : τ} {k : Reply → τ}
      (hx : s.handlers[h]? = some ⟨own, .running t⟩) (hnext : p.next t = some (.stop, k))
      (server : Option ℕ) : Evolves p s (s.handlers.set h ⟨own, .stopping server (k .unit)⟩)
  | resumed {h : ℕ} {own server : Option ℕ} {t : τ}
      (hx : s.handlers[h]? = some ⟨own, .stopping server t⟩) (hbusy : s.busy server = false) :
      Evolves p s (s.handlers.set h ⟨own, .running t⟩)

theorem handlerCalls_evolves (h : ℕ) (env : StartEnv ν) (copy : Except StdException Unit) :
    Evolves p s (s.handlerCalls p h env copy).handlers := by
  unfold System.handlerCalls
  split
  · rename_i own t hx
    split
    · exact .returned hx
    · rename_i op k hnext
      split
      · rename_i reply c hcall
        exact .replied hx hnext reply
      · exact .returned hx
      · rename_i server c hcall
        rw [call_stops hcall] at hnext
        exact .stopped hx hnext server
      · exact .same
  · exact .same

theorem handlerResumes_evolves (h : ℕ) : Evolves p s (s.handlerResumes h).handlers := by
  unfold System.handlerResumes
  split
  · rename_i own server t hx
    split
    · exact .same
    · rename_i hbusy
      rw [System.setHandler, handlers_finishStop]
      exact .resumed hx (Bool.eq_false_iff.2 hbusy)
  · exact .same

theorem deliver_evolves (n : ν) : Evolves p s (s.deliver p n).handlers := by
  unfold System.deliver
  split
  · split
    · exact .same
    · split
      · rename_i callback _
        exact .delivered _ callback n
      · exact .same
  · exact .same

/-- **Every step does one of these things to the handlers.** -/
theorem step_evolves (p : Program κ ν τ) (s : System κ ν τ) (l : Label κ ν) :
    Evolves p s (s.step p l).handlers := by
  cases l with
  | owner op env copy =>
      rw [System.step, ownerCalls_handlers]
      exact .same
  | ownerResumes =>
      rw [System.step, ownerResumes_handlers]
      exact .same
  | deliver n => exact deliver_evolves n
  | handler h env copy => exact handlerCalls_evolves h env copy
  | handlerResumes h => exact handlerResumes_evolves h

/-! ### Programs that do not stop the object -/

/-- The states a program gets to, with any replies. -/
inductive Program.Reaches (p : Program κ ν τ) : τ → Prop where
  | init (callback : κ) (n : ν) : Reaches p (p.init callback n)
  | reply {t : τ} {op : PublicOp κ} {k : Reply → τ} (h : Reaches p t)
      (hnext : p.next t = some (op, k)) (r : Reply) : Reaches p (k r)

/-- The program never calls `Stop`, whatever the replies. -/
def Program.StopFree (p : Program κ ν τ) : Prop :=
  ∀ t k, p.Reaches t → p.next t ≠ some (.stop, k)

/-- The handler runs the program, or has returned. -/
def Handler.Follows (p : Program κ ν τ) (x : Handler τ) : Prop :=
  match x.stage with
  | .running t => p.Reaches t
  | .stopping _ _ => False
  | .returned => True

/-- Every handler runs the program or has returned; none is in `Stop`. -/
def NoneStopping (p : Program κ ν τ) (s : System κ ν τ) : Prop :=
  ∀ x ∈ s.handlers, x.Follows p

/-- **Handlers of a stop-free program stay out of `Stop`.** -/
theorem NoneStopping.step (hp : p.StopFree) (h : NoneStopping p s) (l : Label κ ν) :
    NoneStopping p (s.step p l) := by
  have hset {i : ℕ} {x : Handler τ} (hx : x.Follows p) : ∀ y ∈ s.handlers.set i x, y.Follows p := by
    intro y hy
    rcases List.mem_or_eq_of_mem_set hy with hy | rfl
    · exact h y hy
    · exact hx
  have hevolves := step_evolves p s l
  unfold NoneStopping
  generalize (s.step p l).handlers = handlers at hevolves ⊢
  cases hevolves with
  | same => exact h
  | delivered server callback n =>
      intro x hx
      rcases List.mem_append.1 hx with hx | hx
      · exact h x hx
      · obtain rfl := List.mem_singleton.1 hx
        exact Program.Reaches.init callback n
  | returned hx => exact hset trivial
  | replied hx hnext reply =>
      have ht : p.Reaches _ := h _ (List.mem_of_getElem? hx)
      exact hset (ht.reply hnext reply)
  | stopped hx hnext server => exact absurd hnext (hp _ _ (h _ (List.mem_of_getElem? hx)))
  | resumed hx hbusy => exact (h _ (List.mem_of_getElem? hx)).elim

/-- Without a handler in `Stop` there is no wait cycle. -/
theorem NoneStopping.no_waitCycle (h : NoneStopping p s) : ¬ WaitCycle s := by
  rintro ⟨thread, i, i', -, server, x, hstops, -⟩
  unfold System.stops at hstops
  simp only at hstops
  split at hstops
  · rename_i own server' t hx
    exact h _ (List.mem_of_getElem? hx)
  · cases hstops

/-- **A stop-free program leads to no wait cycle.** -/
theorem Program.StopFree.no_waitCycle (hp : p.StopFree) (ls : List (Label κ ν)) :
    ¬ WaitCycle ((interleaving p).run ls) := by
  have hnone : NoneStopping p ((interleaving p).run ls) :=
    Machine.run_invariant (I := NoneStopping p) (fun _ hx => absurd hx List.not_mem_nil)
      (fun _ l h => h.step hp l) ls
  exact hnone.no_waitCycle

/-- A list of operations without `Stop` is stop-free. -/
theorem straight_stopFree {table : κ → List (PublicOp κ)}
    (h : ∀ callback, .stop ∉ table callback) :
    (straight table : Program κ ν (List (PublicOp κ))).StopFree := by
  have hreach (t : List (PublicOp κ))
      (ht : (straight table : Program κ ν (List (PublicOp κ))).Reaches t) : .stop ∉ t := by
    induction ht with
    | init callback n => exact h callback
    | @reply t op k _ hnext r ih =>
        cases t with
        | nil => cases hnext
        | cons op' ops =>
            obtain ⟨rfl, rfl⟩ := Prod.mk.inj (Option.some.inj hnext)
            exact fun hm => ih (List.mem_cons_of_mem _ hm)
  intro t k ht hnext
  cases t with
  | nil => cases hnext
  | cons op ops =>
      obtain ⟨rfl, -⟩ := Prod.mk.inj (Option.some.inj hnext)
      exact hreach _ ht List.mem_cons_self

/-! ### A handler that stops its own server -/

/-- The handler `h` is in `Stop` on the server that runs it. -/
def SelfStopping (h : ℕ) (s : System κ ν τ) : Prop :=
  ∃ server t, s.handlers[h]? = some ⟨server, .stopping server t⟩

variable {h : ℕ}

/-- It waits for itself. -/
theorem SelfStopping.waitCycle (hs : SelfStopping h s) : WaitCycle s := by
  obtain ⟨server, t, hx⟩ := hs
  have hself : s.WaitsFor (.handler h) h := by
    refine ⟨server, _, ?_, hx, rfl, rfl⟩
    unfold System.stops
    simp only [hx]
  exact ⟨.handler h, h, h, hself, hself⟩

/-- The server of a handler in `Stop` is busy. -/
theorem busy_of_stopping {server : Option ℕ} {t : τ}
    (hx : s.handlers[h]? = some ⟨server, .stopping server t⟩) : s.busy server = true :=
  List.any_eq_true.2 ⟨_, List.mem_of_getElem? hx, by simp [Handler.active]⟩

/-- **A handler that waits for itself waits for ever.** -/
theorem SelfStopping.step (hs : SelfStopping h s) (l : Label κ ν) :
    SelfStopping h (s.step p l) := by
  obtain ⟨server, t, hx⟩ := hs
  -- A step sets the entry of another handler: this one is neither running nor free to resume.
  have hset {i : ℕ} {x y : Handler τ} (hy : s.handlers[i]? = some y)
      (hne : y ≠ ⟨server, .stopping server t⟩) :
      (s.handlers.set i x)[h]? = some ⟨server, .stopping server t⟩ := by
    refine (pool_set_iff hy).2 (Or.inr ⟨?_, hx⟩)
    rintro rfl
    exact hne (Option.some.inj (hy.symm.trans hx))
  refine ⟨server, t, ?_⟩
  have hevolves := step_evolves p s l
  generalize (s.step p l).handlers = handlers at hevolves ⊢
  cases hevolves with
  | same => exact hx
  | delivered server' callback n => exact pool_spawn_iff.2 (Or.inr hx)
  | returned hy => exact hset hy nofun
  | replied hy hnext reply => exact hset hy nofun
  | stopped hy hnext server' => exact hset hy nofun
  | resumed hy hbusy =>
      refine hset hy fun heq => ?_
      obtain ⟨rfl, hstage⟩ := Handler.mk.inj heq
      obtain ⟨rfl, rfl⟩ := Stage.stopping.inj hstage
      rw [busy_of_stopping hx] at hbusy
      cases hbusy

theorem SelfStopping.runFrom (hs : SelfStopping h s) (ls : List (Label κ ν)) :
    SelfStopping h ((interleaving p).runFrom s ls) := by
  induction ls generalizing s with
  | nil => exact hs
  | cons l ls ih => exact ih (hs.step l)

/-! ### Programs that do -/

section Straight

variable {table : κ → List (PublicOp κ)} {server : GrpcServer} {op : PublicOp κ}
  {ops : List (PublicOp κ)} {s : System κ ν (List (PublicOp κ))}

/-- The owner is in `Stop`, and waits for the one handler there is, which has
`ops` still to call. -/
structure Draining (server : GrpcServer) (ops : List (PublicOp κ))
    (s : System κ ν (List (PublicOp κ))) : Prop where
  held : s.object.impl.server = some server
  running : s.object.impl.running = false
  owner : s.owner = some server.service
  handlers : s.handlers = [⟨server.service, .running ops⟩]

/-- A start that cannot even store its address. -/
def outOfMemory : StartEnv ν := { untroubled with storeAddress := .error (.other "std::bad_alloc") }

/-- An operation other than `Stop`, called while the owner is draining and
raising nothing, replies and leaves the server and `running_` alone. -/
theorem Draining.call (h : Draining server ops s) (hop : op ≠ .stop) :
    ∃ reply c, s.call op outOfMemory (.ok ()) = .replies reply c ∧
      c.impl.server = some server ∧ c.impl.running = false := by
  have hbusy : s.replacesBusy (outOfMemory : StartEnv ν) = false := by
    simp [System.replacesBusy, outOfMemory, Except.toBool]
  have hstart (listenAddress : String) (port : ℤ)
      (record : ClientCallbackServer κ ν → ClientCallbackServer κ ν) :
      startServer listenAddress port record { (outOfMemory : StartEnv ν) with early := [] }
        s.object = (.ok (startFailed (.other "std::bad_alloc")), s.object) := by
    simp [startServer, h.running, outOfMemory]
  cases op with
  | stop => exact absurd rfl hop
  | start listenAddress port =>
      refine ⟨.status (startFailed (.other "std::bad_alloc")) s.object.assignedPort, s.object, ?_,
        h.held, h.running⟩
      simp only [System.call, System.started, hbusy, start, hstart]
      rfl
  | startWithAutoPort listenAddress =>
      refine ⟨.status (startFailed (.other "std::bad_alloc")) s.object.assignedPort, s.object, ?_,
        h.held, h.running⟩
      simp only [System.call, System.started, hbusy, startWithAutoPort, hstart]
      rfl
  | setSubscriptionMessageCallback callback =>
      refine ⟨.unit, { s.object with
        impl.messageCallback := callback
        events := s.object.events ++ [.callbackSet callback] }, ?_, h.held, h.running⟩
      simp only [System.call, setSubscriptionMessageCallback, h.running]
      rfl
  | _ => exact ⟨_, s.object, rfl, h.held, h.running⟩

/-- The handler calls its next operation. -/
theorem Draining.next (h : Draining server (op :: ops) s) (hop : op ≠ .stop) :
    Draining server ops (s.handlerCalls (straight table) 0 outOfMemory (.ok ())) := by
  obtain ⟨reply, c, hcall, hheld, hrun⟩ := h.call hop
  unfold System.handlerCalls
  simp only [h.handlers, List.getElem?_cons_zero, straight, hcall]
  refine ⟨hheld, hrun, h.owner, ?_⟩
  simp [System.setHandler, h.handlers]

/-- The handler calls `Stop`. -/
theorem Draining.stop (h : Draining server (.stop :: ops) s) :
    SelfStopping 0 (s.handlerCalls (straight table) 0 outOfMemory (.ok ())) := by
  have hcall : s.call .stop outOfMemory (.ok ()) =
      .stops server.service s.object.clearRunning := by
    simp only [System.call, h.held]
  unfold System.handlerCalls
  simp only [h.handlers, List.getElem?_cons_zero, straight, hcall]
  exact ⟨server.service, ops, by simp [System.setHandler, h.handlers]⟩

variable (table) in
/-- The handler calls all that comes before `Stop`, and `Stop`. -/
theorem Draining.selfStopping {before after : List (PublicOp κ)} (hb : .stop ∉ before)
    (h : Draining server (before ++ .stop :: after) s) :
    ∃ ls, SelfStopping 0 ((interleaving (straight table)).runFrom s ls) := by
  induction before generalizing s with
  | nil => exact ⟨[.handler 0 outOfMemory (.ok ())], h.stop⟩
  | cons op before ih =>
      have hop : op ≠ .stop := fun he => hb (he ▸ List.mem_cons_self)
      obtain ⟨ls, hls⟩ := ih (fun hm => hb (List.mem_cons_of_mem _ hm)) (h.next hop)
      exact ⟨.handler 0 outOfMemory (.ok ()) :: ls, hls⟩

/-- The owner sets the callback and starts the server, a notification arrives,
and the owner calls `Stop` while its handler runs. -/
def overtaken (callback : κ) (n : ν) : List (Label κ ν) :=
  [.owner (.setSubscriptionMessageCallback (some callback)) untroubled (.ok ()),
    .owner (.start "127.0.0.1" 50052) untroubled (.ok ()), .deliver n,
    .owner .stop untroubled (.ok ())]

theorem draining_overtaken (callback : κ) (n : ν) :
    Draining { service := some 0, host := "127.0.0.1", port := 50052 } (table callback)
      ((interleaving (straight table)).run (overtaken callback n)) where
  held := rfl
  running := rfl
  owner := rfl
  handlers := rfl

end Straight

/-- **Which callbacks can deadlock with `Stop`.**  A program that never calls
`Stop` leads to no wait cycle, whatever the replies it gets and whatever the
order of the steps.  A list of operations leads to one exactly if `Stop` is among
them, and then, in some order of the steps, to one that is never left again. -/
theorem interleaving_waitCycle :
    (∀ p : Program κ ν τ, p.StopFree → ∀ ls, ¬ WaitCycle ((interleaving p).run ls)) ∧
    ∀ (table : κ → List (PublicOp κ)) (_ : ν), (∃ callback, .stop ∈ table callback) ↔
      ∃ ls : List (Label κ ν), ∀ more,
        WaitCycle ((interleaving (straight table)).run (ls ++ more)) := by
  refine ⟨fun p hp ls => hp.no_waitCycle ls, fun table n => ⟨fun hstop => ?_, fun hcycle => ?_⟩⟩
  · obtain ⟨callback, hstop⟩ := hstop
    obtain ⟨before, after, htable, hb⟩ := List.eq_append_cons_of_mem hstop
    have hdrain : Draining { service := some 0, host := "127.0.0.1", port := 50052 }
        (before ++ .stop :: after)
        ((interleaving (straight table)).run (overtaken callback n)) :=
      htable ▸ draining_overtaken callback n
    obtain ⟨ls, hself⟩ := hdrain.selfStopping table hb
    refine ⟨overtaken callback n ++ ls, fun more => ?_⟩
    rw [List.append_assoc, Machine.run_append, Machine.runFrom_append]
    exact (hself.runFrom more).waitCycle
  · by_contra hno
    obtain ⟨ls, hls⟩ := hcycle
    exact (straight_stopFree (not_exists.1 hno)).no_waitCycle (ls ++ []) (hls [])

/-- A callback that asks whether the object runs lets `Stop` of the owner end. -/
theorem interleaving_waitCycle_isRunning :
    ¬ WaitCycle ((interleaving (straight fun _ : Unit => [.isRunning])).run
      (overtaken () () ++ [.handler 0 outOfMemory (.ok ()), .handler 0 outOfMemory (.ok ()),
        .ownerResumes])) :=
  interleaving_waitCycle.1 _ (straight_stopFree fun _ => by simp) _

/-- A callback that stops the object it is notified by deadlocks with the owner
stopping it. -/
theorem interleaving_waitCycle_stop :
    WaitCycle ((interleaving (straight fun _ : Unit => [.stop])).run
      (overtaken () () ++ [.handler 0 outOfMemory (.ok ())])) :=
  ⟨.owner, 0, 0, ⟨some 0, ⟨some 0, .stopping (some 0) []⟩, rfl, rfl, rfl, rfl⟩,
    ⟨some 0, ⟨some 0, .stopping (some 0) []⟩, rfl, rfl, rfl, rfl⟩⟩

end Deadlock
end Callback
end ClientSdk
