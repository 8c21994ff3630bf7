/-
# The life of a callback server

`source/robot/client/client_callback_server.cpp`: `Start`, `StartWithAutoPort`,
`Stop`, `SetSubscriptionMessageCallback` and the destructor, called in any
order, with any outcome of each step of a start and any notifications arriving
in between.

A start of an object that is not running goes one of three ways
(`startServer_cases`): it fails before a server is built
and leaves one of four partly written objects (`Failed`), it builds a server
and its thread, or it builds a server and cannot make the thread.  In the last
case it reports an error and the object runs all the same, without a thread to
join.

Over every history (`history_inv`) an object runs exactly if the server it
holds is live, the thread is joinable only while it runs, and the service
registered with a live server is the one held.
-/

import ClientSdk.Callback.Server
import ClientSdk.Lib.Machine

namespace ClientSdk
namespace Callback

open Common Lib

variable {κ ν : Type} {c c' : ClientCallbackServer κ ν} {listenAddress : String} {port : ℤ}
  {env : StartEnv ν}

/-! ### What the steps leave alone -/

namespace ClientCallbackServer

@[simp] theorem impl_log (es : List (Event κ ν)) : (c.log es).impl = c.impl := rfl

@[simp] theorem events_log (es : List (Event κ ν)) : (c.log es).events = c.events ++ es := rfl

/-- A notification changes the events of an object and nothing else of it. -/
@[simp] theorem impl_deliver (d : Delivery ν) : (c.deliver d).impl = c.impl := by
  unfold deliver
  split
  · rfl
  · split <;> rfl

@[simp] theorem assignedPort_deliver (d : Delivery ν) :
    (c.deliver d).assignedPort = c.assignedPort := by
  unfold deliver
  split
  · rfl
  · split <;> rfl

@[simp] theorem impl_deliverAll (ds : List (Delivery ν)) : (c.deliverAll ds).impl = c.impl := by
  induction ds generalizing c with
  | nil => rfl
  | cons d ds ih => exact ih.trans (impl_deliver d)

@[simp] theorem assignedPort_deliverAll (ds : List (Delivery ν)) :
    (c.deliverAll ds).assignedPort = c.assignedPort := by
  induction ds generalizing c with
  | nil => rfl
  | cons d ds ih => exact ih.trans (assignedPort_deliver d)

end ClientCallbackServer

/-! ### The exits of a start -/

/-- A server comes out of the start. -/
structure StartEnv.Builds (env : StartEnv ν) : Prop where
  storeAddress : env.storeAddress = .ok ()
  makeService : env.makeService = .ok ()
  buildAndStart : env.buildAndStart = .ok true

/-- The object once a start has recorded its arguments. -/
def prepared (listenAddress : String) (port : ℤ) (c : ClientCallbackServer κ ν) :
    ClientCallbackServer κ ν := (c.setListenAddress listenAddress).setListenPort port

/-- The object once a start has its server and the early notifications are
dealt with. -/
def serving (listenAddress : String) (port : ℤ) (env : StartEnv ν)
    (c : ClientCallbackServer κ ν) : ClientCallbackServer κ ν :=
  ((prepared listenAddress port c).newService.newServer listenAddress
    (env.boundPort port)).deliverAll env.early

/-- The object once `running_` is set. -/
def live (listenAddress : String) (port : ℤ)
    (record : ClientCallbackServer κ ν → ClientCallbackServer κ ν) (env : StartEnv ν)
    (c : ClientCallbackServer κ ν) : ClientCallbackServer κ ν :=
  (record (serving listenAddress port env c)).setRunning

/-- What a start leaves that builds no server. -/
inductive Failed (listenAddress : String) (port : ℤ) (env : StartEnv ν)
    (c : ClientCallbackServer κ ν) : ClientCallbackServer κ ν → Prop where
  | address (e : StdException) (h : env.storeAddress = .error e) :
      Failed listenAddress port env c c
  | service (h : env.storeAddress = .ok ()) :
      Failed listenAddress port env c (prepared listenAddress port c)
  | builder (h : env.storeAddress = .ok ()) :
      Failed listenAddress port env c (prepared listenAddress port c).newService
  | null (h : env.storeAddress = .ok ()) :
      Failed listenAddress port env c (prepared listenAddress port c).newService.dropServer

section Exits

variable {record : ClientCallbackServer κ ν → ClientCallbackServer κ ν}

/-- A running object refuses to start. -/
theorem startServer_of_running (h : c.impl.running = true) :
    startServer listenAddress port record env c = (.ok alreadyRunning, c) := by
  simp [startServer, h]

/-- A start that builds no server reports an error. -/
theorem startServer_of_not_builds (hrun : c.impl.running = false) (h : ¬ env.Builds) :
    ∃ status c', startServer listenAddress port record env c = (.ok status, c') ∧
      status.ok = false ∧ Failed listenAddress port env c c' := by
  cases ha : env.storeAddress with
  | error e =>
      refine ⟨startFailed e, c, ?_, by simp [startFailed], .address e ha⟩
      simp [startServer, hrun, ha]
  | ok u =>
      cases hs : env.makeService with
      | error e =>
          refine ⟨startFailed e, _, ?_, by simp [startFailed], .service ha⟩
          simp [startServer, hrun, ha, hs, prepared]
      | ok u =>
          cases hb : env.buildAndStart with
          | error e =>
              refine ⟨startFailed e, _, ?_, by simp [startFailed], .builder ha⟩
              simp [startServer, hrun, ha, hs, hb, prepared]
          | ok built =>
              cases built with
              | false =>
                  refine ⟨notStarted, _, ?_, by simp [notStarted], .null ha⟩
                  simp [startServer, hrun, ha, hs, hb, prepared]
              | true => exact absurd ⟨ha, hs, hb⟩ h

/-- A start that cannot make its thread reports an error and leaves the object
running. -/
theorem startServer_of_thread_error {e : StdException} (hrun : c.impl.running = false)
    (h : env.Builds) (ht : env.makeThread = .error e) :
    startServer listenAddress port record env c =
      (.ok (startFailed e), live listenAddress port record env c) := by
  simp [startServer, hrun, h.storeAddress, h.makeService, h.buildAndStart, ht, live, serving,
    prepared]

/-- A start that succeeds. -/
theorem startServer_of_thread (hrun : c.impl.running = false) (h : env.Builds)
    (ht : env.makeThread = .ok ()) :
    startServer listenAddress port record env c =
      (.ok {}, (live listenAddress port record env c).newThread) := by
  simp [startServer, hrun, h.storeAddress, h.makeService, h.buildAndStart, ht, live, serving,
    prepared]

/-- **The exits of a start**, with what each of them reports and leaves. -/
theorem startServer_cases (listenAddress : String) (port : ℤ)
    (record : ClientCallbackServer κ ν → ClientCallbackServer κ ν) (env : StartEnv ν)
    (c : ClientCallbackServer κ ν) :
    (c.impl.running = true ∧
      startServer listenAddress port record env c = (.ok alreadyRunning, c)) ∨
    (c.impl.running = false ∧ ¬ env.Builds ∧ ∃ status c',
      startServer listenAddress port record env c = (.ok status, c') ∧ status.ok = false ∧
        Failed listenAddress port env c c') ∨
    (c.impl.running = false ∧ env.Builds ∧ ∃ e : StdException,
      startServer listenAddress port record env c =
        (.ok (startFailed e), live listenAddress port record env c)) ∨
    (c.impl.running = false ∧ env.Builds ∧
      startServer listenAddress port record env c =
        (.ok {}, (live listenAddress port record env c).newThread)) := by
  cases hrun : c.impl.running with
  | true => exact Or.inl ⟨rfl, startServer_of_running hrun⟩
  | false =>
      by_cases h : env.Builds
      · cases ht : env.makeThread with
        | error e =>
            exact Or.inr (Or.inr (Or.inl ⟨rfl, h, e, startServer_of_thread_error hrun h ht⟩))
        | ok u => exact Or.inr (Or.inr (Or.inr ⟨rfl, h, startServer_of_thread hrun h ht⟩))
      · exact Or.inr (Or.inl ⟨rfl, h, startServer_of_not_builds hrun h⟩)

end Exits

/-! ### Histories -/

/-- One thing that happens to an object. -/
inductive Operation (κ ν : Type) where
  | start (listenAddress : String) (port : ℤ) (env : StartEnv ν)
  | startWithAutoPort (listenAddress : String) (assignedPort : ℤ) (env : StartEnv ν)
  | stop (draining : List (Delivery ν))
  | setCallback (callback : Option κ) (copy : Except StdException Unit)
  | deliver (d : Delivery ν)

/-- The object after it. -/
def Operation.perform : Operation κ ν → ClientCallbackServer κ ν → ClientCallbackServer κ ν
  | .start listenAddress port env, c => (Callback.start listenAddress port env c).2
  | .startWithAutoPort listenAddress assignedPort env, c =>
      (Callback.startWithAutoPort listenAddress env (c.setAssignedPort assignedPort)).2
  | .stop draining, c => c.stop draining
  | .setCallback callback copy, c => (setSubscriptionMessageCallback callback copy c).2
  | .deliver d, c => c.deliver d

/-- An object from its construction on. -/
def history : Machine (ClientCallbackServer κ ν) (Operation κ ν) where
  init := {}
  next c op := op.perform c

/-- What holds of an object between two operations. -/
structure Inv (i : Impl κ) : Prop where
  /-- It runs exactly if its server is live. -/
  running : i.running = i.liveServer.isSome
  /-- Its thread is joinable only while it runs. -/
  thread : i.serverThread = true → i.running = true
  /-- The service registered with a live server is the one held. -/
  service : ∀ s, i.liveServer = some s →
    ∃ service, i.serviceImpl = some service ∧ s.service = some service.id
  /-- A live server is bound to the recorded address, and to the recorded port
  unless that is 0. -/
  bound : ∀ s, i.liveServer = some s →
    s.host = i.listenAddress ∧ (i.listenPort ≠ 0 → i.listenPort = s.port)

/-- An object without a live server, without a thread and not running. -/
structure Idle (i : Impl κ) : Prop where
  running : i.running = false
  liveServer : i.liveServer = none
  serverThread : i.serverThread = false

theorem Idle.inv {i : Impl κ} (h : Idle i) : Inv i where
  running := by rw [h.running, h.liveServer]; rfl
  thread ht := by rw [h.serverThread] at ht; cases ht
  service s hs := by rw [h.liveServer] at hs; cases hs
  bound s hs := by rw [h.liveServer] at hs; cases hs

theorem Inv.idle {i : Impl κ} (h : Inv i) (hrun : i.running = false) : Idle i where
  running := hrun
  liveServer := by
    have hnone := h.running
    rw [hrun] at hnone
    exact Option.isNone_iff_eq_none.1 (by simpa using hnone.symm)
  serverThread := by
    cases ht : i.serverThread with
    | false => rfl
    | true => rw [h.thread ht] at hrun; cases hrun

/-- A start that builds no server leaves an idle object idle. -/
theorem Idle.failed (h : Idle c.impl) (hf : Failed listenAddress port env c c') :
    Idle c'.impl := by
  cases hf with
  | address e he => exact h
  | service he => exact ⟨h.running, h.liveServer, h.serverThread⟩
  | builder he => exact ⟨h.running, h.liveServer, h.serverThread⟩
  | null he => exact ⟨h.running, rfl, h.serverThread⟩

/-- The members of an object whose start built a server bound to `bound` and
recorded the port `recorded`. -/
def liveImpl (listenAddress : String) (recorded bound : ℤ) (c : ClientCallbackServer κ ν) :
    Impl κ :=
  { c.impl with
    server := some { service := some c.made, host := listenAddress, port := bound }
    serviceImpl := some ⟨c.made, c.impl.messageCallback⟩
    listenAddress := listenAddress
    listenPort := recorded
    running := true }

theorem impl_live_start :
    (live listenAddress port id env c).impl =
      liveImpl listenAddress port (env.boundPort port) c := by
  simp [live, serving, ClientCallbackServer.setRunning, liveImpl, prepared,
    ClientCallbackServer.newServer, ClientCallbackServer.newService,
    ClientCallbackServer.setListenPort, ClientCallbackServer.setListenAddress]

theorem impl_live_auto :
    (live listenAddress 0 (fun c => (c.setAssignedPort (env.boundPort 0)).setListenPort
      (env.boundPort 0)) env c).impl =
      liveImpl listenAddress (env.boundPort 0) (env.boundPort 0) c := by
  simp [live, serving, ClientCallbackServer.setRunning, liveImpl, prepared,
    ClientCallbackServer.newServer, ClientCallbackServer.newService,
    ClientCallbackServer.setListenPort, ClientCallbackServer.setListenAddress,
    ClientCallbackServer.setAssignedPort]

/-- An object is in order with the server a start built, with its thread or
without. -/
theorem inv_liveImpl {recorded bound : ℤ} (thread : Bool)
    (h : recorded ≠ 0 → recorded = bound) :
    Inv { liveImpl listenAddress recorded bound c with serverThread := thread } where
  running := rfl
  thread _ := rfl
  service s hs := by
    obtain rfl := Option.some.inj hs
    exact ⟨_, rfl, rfl⟩
  bound s hs := by
    obtain rfl := Option.some.inj hs
    exact ⟨rfl, h⟩

/-- **A start keeps the invariant**, if the port it records is the port of its
server or 0. -/
theorem Inv.startServer {record : ClientCallbackServer κ ν → ClientCallbackServer κ ν}
    {recorded : ℤ} (h : Inv c.impl) (hr : recorded ≠ 0 → recorded = env.boundPort port)
    (hl : (live listenAddress port record env c).impl =
      liveImpl listenAddress recorded (env.boundPort port) c) :
    Inv (Callback.startServer listenAddress port record env c).2.impl := by
  rcases startServer_cases listenAddress port record env c with
    ⟨-, he⟩ | ⟨hrun, -, status, c', he, -, hf⟩ | ⟨hrun, -, e, he⟩ | ⟨hrun, -, he⟩ <;> rw [he]
  · exact h
  · exact ((h.idle hrun).failed hf).inv
  · rw [hl]
    exact inv_liveImpl c.impl.serverThread hr
  · change Inv { (live listenAddress port record env c).impl with serverThread := true }
    rw [hl]
    exact inv_liveImpl true hr

theorem StartEnv.boundPort_of_ne (env : StartEnv ν) (h : port ≠ 0) : env.boundPort port = port :=
  if_neg h

theorem StartEnv.boundPort_zero_pos (env : StartEnv ν) : 0 < env.boundPort 0 :=
  env.pickedPort.2

/-- `Stop` of an object that holds a server, live or not. -/
theorem stop_of_some {s : GrpcServer} (draining : List (Delivery ν))
    (h : c.impl.server = some s) :
    c.stop draining =
      ((c.clearRunning.deliverAll draining).shutdownServer.joinThread).log [.stopped] := by
  simp [ClientCallbackServer.stop, ClientCallbackServer.clearRunning, h]

/-- `Stop` of an object that never held a server, or lost it to a failed start. -/
theorem stop_of_none (draining : List (Delivery ν)) (h : c.impl.server = none) :
    c.stop draining = c.clearRunning.log [.stopped] := by
  simp [ClientCallbackServer.stop, ClientCallbackServer.clearRunning, h]

theorem impl_stop_of_some {s : GrpcServer} (draining : List (Delivery ν))
    (h : c.impl.server = some s) :
    (c.stop draining).impl =
      { c.impl with
        running := false
        server := some { s with isShutdown := true }
        serverThread := false } := by
  rw [stop_of_some draining h]
  simp [ClientCallbackServer.clearRunning, ClientCallbackServer.joinThread,
    ClientCallbackServer.shutdownServer, h]

theorem impl_stop_of_none (draining : List (Delivery ν)) (h : c.impl.server = none) :
    (c.stop draining).impl = { c.impl with running := false } := by
  rw [stop_of_none draining h]
  rfl

/-- **`Stop` leaves an object idle**, whatever it was doing. -/
theorem Inv.stop (h : Inv c.impl) (draining : List (Delivery ν)) :
    Idle (c.stop draining).impl := by
  cases hs : c.impl.server with
  | some s =>
      rw [impl_stop_of_some draining hs]
      exact ⟨rfl, rfl, rfl⟩
  | none =>
      have hlive : c.impl.liveServer = none := by simp [Impl.liveServer, hs]
      have hrun : c.impl.running = false := by rw [h.running, hlive]; rfl
      rw [impl_stop_of_none draining hs]
      exact ⟨rfl, hlive, (h.idle hrun).serverThread⟩

/-- A callback set while the object runs is refused. -/
theorem setSubscriptionMessageCallback_of_running (hrun : c.impl.running = true)
    (callback : Option κ) (copy : Except StdException Unit) :
    setSubscriptionMessageCallback callback copy c = (.error setWhileRunning, c) :=
  if_pos hrun

/-- What setting a callback does. -/
theorem setSubscriptionMessageCallback_cases (callback : Option κ)
    (copy : Except StdException Unit) (c : ClientCallbackServer κ ν) :
    (∃ e, setSubscriptionMessageCallback callback copy c = (.error e, c)) ∨
    c.impl.running = false ∧ setSubscriptionMessageCallback callback copy c =
      (.ok (), { c with
        impl.messageCallback := callback
        events := c.events ++ [.callbackSet callback] }) := by
  cases hrun : c.impl.running with
  | true => exact Or.inl ⟨_, setSubscriptionMessageCallback_of_running hrun callback copy⟩
  | false =>
      cases copy with
      | error e => exact Or.inl ⟨e, by simp [setSubscriptionMessageCallback, hrun]⟩
      | ok u => exact Or.inr ⟨rfl, by simp [setSubscriptionMessageCallback, hrun]⟩

/-- **Every operation keeps the invariant.** -/
theorem Inv.perform (h : Inv c.impl) (op : Operation κ ν) : Inv (op.perform c).impl := by
  cases op with
  | start listenAddress port env =>
      exact h.startServer (fun hp => (env.boundPort_of_ne hp).symm) impl_live_start
  | startWithAutoPort listenAddress assignedPort env =>
      exact Inv.startServer (c := c.setAssignedPort assignedPort) h (fun _ => rfl) impl_live_auto
  | stop draining => exact (h.stop draining).inv
  | setCallback callback copy =>
      rcases setSubscriptionMessageCallback_cases callback copy c with ⟨e, he⟩ | ⟨-, he⟩
      · rw [Operation.perform, he]
        exact h
      · rw [Operation.perform, he]
        exact ⟨h.running, h.thread, h.service, h.bound⟩
  | deliver d =>
      rw [Operation.perform, ClientCallbackServer.impl_deliver]
      exact h

theorem inv_init : Inv (history.init : ClientCallbackServer κ ν).impl :=
  Idle.inv ⟨rfl, rfl, rfl⟩

/-- **The invariant holds after every history.** -/
theorem history_inv (ops : List (Operation κ ν)) : Inv (history.run ops).impl :=
  Machine.run_invariant (I := fun c : ClientCallbackServer κ ν => Inv c.impl) inv_init
    (fun _ op h => h.perform op) ops

/-! ### The server and its thread -/

/-- No server started while another one is live, and no thread object assigned
to or destroyed while it is joinable. -/
def Event.Safe : Event κ ν → Prop
  | .serverStarted whileLive => whileLive = false
  | .threadAssigned whileJoinable | .threadDestroyed whileJoinable => whileJoinable = false
  | _ => True

/-- The object `c'` did what `c` did, and then safe things only. -/
def SafelyExtends (c c' : ClientCallbackServer κ ν) : Prop :=
  ∃ es : List (Event κ ν), c'.events = c.events ++ es ∧ ∀ e ∈ es, e.Safe

theorem SafelyExtends.refl (c : ClientCallbackServer κ ν) : SafelyExtends c c :=
  ⟨[], (List.append_nil _).symm, nofun⟩

theorem SafelyExtends.trans {c₁ c₂ c₃ : ClientCallbackServer κ ν} (h : SafelyExtends c₁ c₂)
    (h' : SafelyExtends c₂ c₃) : SafelyExtends c₁ c₃ := by
  obtain ⟨es, he, hs⟩ := h
  obtain ⟨es', he', hs'⟩ := h'
  exact ⟨es ++ es', by rw [he', he, List.append_assoc],
    List.forall_mem_append.2 ⟨hs, hs'⟩⟩

/-- One safe event more. -/
theorem SafelyExtends.event (e : Event κ ν) (he : e.Safe) (h : c'.events = c.events ++ [e]) :
    SafelyExtends c c' :=
  ⟨[e], h, by simpa using he⟩

theorem safe_onSubscriptionMessage (service : ClientCallbackServiceImpl κ) (d : Delivery ν) :
    ∀ e ∈ (service.onSubscriptionMessage d : List (Event κ ν)), e.Safe := by
  unfold ClientCallbackServiceImpl.onSubscriptionMessage
  split
  · simp [Event.Safe]
  · split <;> simp [Event.Safe]

theorem safelyExtends_deliver (c : ClientCallbackServer κ ν) (d : Delivery ν) :
    SafelyExtends c (c.deliver d) := by
  unfold ClientCallbackServer.deliver
  split
  · exact .refl c
  · split
    · rename_i service _
      exact ⟨_, rfl, List.forall_mem_cons.2 ⟨trivial, safe_onSubscriptionMessage service d⟩⟩
    · exact ⟨_, rfl, by simp [Event.Safe]⟩

theorem safelyExtends_deliverAll (c : ClientCallbackServer κ ν) (ds : List (Delivery ν)) :
    SafelyExtends c (c.deliverAll ds) := by
  induction ds generalizing c with
  | nil => exact .refl c
  | cons d ds ih => exact (safelyExtends_deliver c d).trans (ih (c.deliver d))

theorem safelyExtends_stop (c : ClientCallbackServer κ ν) (draining : List (Delivery ν)) :
    SafelyExtends c (c.stop draining) := by
  cases hs : c.impl.server with
  | some s =>
      rw [stop_of_some draining hs]
      refine SafelyExtends.trans (safelyExtends_deliverAll c.clearRunning draining) ?_
      exact .event .stopped trivial rfl
  | none =>
      rw [stop_of_none draining hs]
      exact .event .stopped trivial rfl

/-- The server a start builds is the only live one. -/
theorem Idle.safelyExtends_serving (h : Idle c.impl) :
    SafelyExtends c (serving listenAddress port env c) := by
  refine SafelyExtends.trans ?_ (safelyExtends_deliverAll _ env.early)
  refine .event (.serverStarted c.impl.liveServer.isSome) ?_ rfl
  rw [h.liveServer]
  rfl

/-- **A start of an object in order is safe**, if recording the port is. -/
theorem Inv.safelyExtends_startServer
    {record : ClientCallbackServer κ ν → ClientCallbackServer κ ν} (h : Inv c.impl)
    (hevents : ∀ c, (record c).events = c.events)
    (hthread : ∀ c, (record c).impl.serverThread = c.impl.serverThread) :
    SafelyExtends c (Callback.startServer listenAddress port record env c).2 := by
  rcases startServer_cases listenAddress port record env c with
    ⟨-, he⟩ | ⟨hrun, -, status, c', he, -, hf⟩ | ⟨hrun, -, e, he⟩ | ⟨hrun, -, he⟩ <;> rw [he]
  · exact .refl c
  · cases hf <;> exact .refl c
  · obtain ⟨es, hes, hsafe⟩ := (h.idle hrun).safelyExtends_serving
    exact ⟨es, (hevents _).trans hes, hsafe⟩
  · have hidle := h.idle hrun
    obtain ⟨es, hes, hsafe⟩ := hidle.safelyExtends_serving
    have hlive : SafelyExtends c (live listenAddress port record env c) :=
      ⟨es, (hevents _).trans hes, hsafe⟩
    refine hlive.trans (.event (.threadAssigned c.impl.serverThread) hidle.serverThread ?_)
    have hsame : (live listenAddress port record env c).impl.serverThread =
        c.impl.serverThread := by
      refine (hthread _).trans ?_
      simp [Callback.serving, prepared, ClientCallbackServer.newServer,
        ClientCallbackServer.newService, ClientCallbackServer.setListenPort,
        ClientCallbackServer.setListenAddress]
    rw [← hsame]
    rfl

/-- **Every operation of an object in order is safe.** -/
theorem Inv.safelyExtends_perform (h : Inv c.impl) (op : Operation κ ν) :
    SafelyExtends c (op.perform c) := by
  cases op with
  | start listenAddress port env =>
      exact h.safelyExtends_startServer (fun _ => rfl) fun _ => rfl
  | startWithAutoPort listenAddress assignedPort env =>
      exact Inv.safelyExtends_startServer (c := c.setAssignedPort assignedPort) h
        (fun _ => rfl) fun _ => rfl
  | stop draining => exact safelyExtends_stop c draining
  | setCallback callback copy =>
      rcases setSubscriptionMessageCallback_cases callback copy c with ⟨e, he⟩ | ⟨-, he⟩
      · rw [Operation.perform, he]
        exact .refl c
      · rw [Operation.perform, he]
        exact .event (.callbackSet callback) trivial rfl
  | deliver d => exact safelyExtends_deliver c d

/-- The events of every history are safe. -/
theorem history_events_safe (ops : List (Operation κ ν)) :
    ∀ e ∈ (history.run ops).events, e.Safe := by
  have hboth := Machine.run_invariant
    (I := fun c : ClientCallbackServer κ ν => Inv c.impl ∧ ∀ e ∈ c.events, e.Safe)
    (M := history) ⟨inv_init, nofun⟩ (fun c op ⟨hi, hs⟩ => ⟨hi.perform op, ?_⟩) ops
  · exact hboth.2
  · obtain ⟨es, hes, hsafe⟩ := hi.safelyExtends_perform op
    change ∀ e ∈ (op.perform c).events, e.Safe
    rw [hes]
    exact List.forall_mem_append.2 ⟨hs, hsafe⟩

/-- **The life of a callback server.**  After every history: the thread object
was never assigned to while joinable, and is not joinable when it is destroyed,
whenever that is; a running object holds a server; an object runs exactly if
its server is live; and no server was started next to a live one. -/
theorem history_lifecycle (ops : List (Operation κ ν)) :
    let c : ClientCallbackServer κ ν := history.run ops
    (∀ e ∈ c.events, e.Safe) ∧
      (∀ draining, ∀ e ∈ (c.destroy draining).events, e.Safe) ∧
      (c.isRunning = true → c.impl.server.isSome = true) ∧
      (c.isRunning = true ↔ c.impl.liveServer.isSome = true) := by
  intro c
  have hi : Inv c.impl := history_inv ops
  have hs : ∀ e ∈ c.events, e.Safe := history_events_safe ops
  have hrun : c.isRunning = c.impl.liveServer.isSome := hi.running
  refine ⟨hs, fun draining => ?_, fun h => ?_, by rw [hrun]⟩
  · obtain ⟨es, hes, hsafe⟩ := safelyExtends_stop c draining
    have hend : (c.destroy draining).events =
        (c.events ++ es) ++ [.threadDestroyed (c.stop draining).impl.serverThread] := by
      rw [← hes]
      rfl
    rw [hend]
    refine List.forall_mem_append.2 ⟨List.forall_mem_append.2 ⟨hs, hsafe⟩, ?_⟩
    simpa [Event.Safe] using (hi.stop draining).serverThread
  · rw [hrun] at h
    obtain ⟨s, hlive⟩ := Option.isSome_iff_exists.1 h
    rw [(Option.filter_eq_some_iff.1 hlive).1]
    rfl

end Callback
end ClientSdk
