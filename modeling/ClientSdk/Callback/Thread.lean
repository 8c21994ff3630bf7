/-
# The server thread

`source/robot/client/client_callback_server.cpp`: the thread a start launches, which
prints where the server listens and waits for its shutdown, and `Stop`, which joins it.
The two starts differ in it: the thread of `Start` catches what its own steps raise, that
of `StartWithAutoPort` does not, and ends the process.

The thread reads `listen_address_`, `listen_port_` and `server_` without a lock while the
owner goes on.  Nothing is lost by it (`threaded_lifecycle`): the members are those of
its own start as long as it lives, and the object goes through the same states as with
operations that are one step each, which is how `Callback.Server` has them.
-/

import ClientSdk.Callback.Lifecycle

namespace ClientSdk
namespace Callback

open Common Lib

variable {κ ν : Type}

/-- How far a thread is. -/
inductive ThreadStage where
  /-- It is to print where the server listens. -/
  | launched
  /-- It is to wait on `server_`. -/
  | printed
  /-- It is in `Wait` of the server with this service. -/
  | waiting (service : Option ℕ)
  | ended
deriving DecidableEq

/-- A server thread: whether it catches what its steps raise, the address, the port and
the service of the start that launched it, and how far it is. -/
structure ServerThread where
  guarded : Bool
  address : String
  port : ℤ
  service : Option ℕ
  stage : ThreadStage := .launched

/-- What a thread did. -/
inductive Remark where
  /-- It printed an address and a port. -/
  | printed (t : ServerThread) (address : String) (port : ℤ)
  /-- It called `Wait` on what `server_` held. -/
  | waited (t : ServerThread) (server : Option GrpcServer)
  /-- It caught an exception. -/
  | caught (t : ServerThread) (e : StdException)
  /-- An exception left it, which ends the process. -/
  | escaped (t : ServerThread) (e : StdException)

/-- The object, the thread it has not joined, whether the owner is at the join of `Stop`,
whether the process is over, and what its threads did. -/
structure ThreadedServer (κ ν : Type) where
  object : ClientCallbackServer κ ν := {}
  thread : Option ServerThread := none
  joining : Bool := false
  aborted : Bool := false
  log : List Remark := []

/-- A step of the owner or of the thread.  Printing raises what is given with the
step. -/
inductive ThreadedStep (κ ν : Type) where
  /-- The owner calls an operation, or a notification arrives. -/
  | calls (op : Operation κ ν)
  /-- The join of `Stop` returns, if it can. -/
  | joins
  /-- The thread goes on. -/
  | thread (print : Except StdException Unit)

namespace ThreadedServer

variable (w : ThreadedServer κ ν)

/-- A start returns, and has launched its thread if it succeeded. -/
def launches (guarded : Bool) (address : String) (port : ℤ) :
    Except StdException Status × ClientCallbackServer κ ν → ThreadedServer κ ν
  | (.ok status, c) =>
      if status.ok then
        { w with
          object := c
          thread := some { guarded, address, port, service := c.impl.server.bind (·.service) } }
      else { w with object := c }
  | (.error _, c) => { w with object := c }

/-- `Stop`, up to the join. -/
def stops (draining : List (Delivery ν)) : ThreadedServer κ ν :=
  let c := w.object.clearRunning
  if c.impl.server.isSome then
    { w with object := (c.deliverAll draining).shutdownServer, joining := true }
  else { w with object := c.log [.stopped] }

/-- An operation is called, out of `Stop`. -/
def calls : Operation κ ν → ThreadedServer κ ν
  | .start listenAddress port env =>
      w.launches true listenAddress port (start listenAddress port env w.object)
  | .startWithAutoPort listenAddress assignedPort env =>
      w.launches false listenAddress (env.boundPort 0)
        (startWithAutoPort listenAddress env (w.object.setAssignedPort assignedPort))
  | .stop draining => w.stops draining
  | .setCallback callback copy =>
      { w with object := (Operation.setCallback callback copy).perform w.object }
  | .deliver d => { w with object := w.object.deliver d }

/-- `Stop` goes on behind the join, once the thread has ended or if there is none. -/
def joins : ThreadedServer κ ν :=
  match w.thread with
  | none => { w with object := w.object.joinThread.log [.stopped], joining := false }
  | some t =>
      if t.stage = .ended then
        { w with object := w.object.joinThread.log [.stopped], joining := false, thread := none }
      else w

/-- The thread `t` takes its next step. -/
def goesOn (print : Except StdException Unit) (t : ServerThread) : ThreadedServer κ ν :=
  match t.stage with
  | .launched =>
      match print with
      | .ok () =>
          { w with
            thread := some { t with stage := .printed }
            log := w.log ++ [.printed t w.object.impl.listenAddress w.object.impl.listenPort] }
      | .error e =>
          if t.guarded then
            { w with thread := some { t with stage := .ended }, log := w.log ++ [.caught t e] }
          else { w with aborted := true, log := w.log ++ [.escaped t e] }
  | .printed =>
      { w with
        thread := some { t with stage := .waiting (w.object.impl.server.bind (·.service)) }
        log := w.log ++ [.waited t w.object.impl.server] }
  | .waiting service =>
      if w.object.impl.server.any fun s => s.service == service && s.isShutdown then
        { w with thread := some { t with stage := .ended } }
      else w
  | .ended => w

/-- One step, unless the process is over. -/
def next : ThreadedStep κ ν → ThreadedServer κ ν
  | .calls op => if w.aborted || w.joining then w else w.calls op
  | .joins => if w.joining && !w.aborted then w.joins else w
  | .thread print =>
      match w.thread with
      | some t => if w.aborted then w else w.goesOn print t
      | none => w

/-- The object as it is once `Stop` is over. -/
def settled : ClientCallbackServer κ ν :=
  if w.joining then w.object.joinThread.log [.stopped] else w.object

end ThreadedServer

/-- An object, its owner and its threads from the construction on. -/
def threaded : Machine (ThreadedServer κ ν) (ThreadedStep κ ν) where
  init := {}
  next := ThreadedServer.next

/-! ### The object goes through a history -/

section Settled

variable {w : ThreadedServer κ ν}

@[simp] theorem object_launches (guarded : Bool) (address : String) (port : ℤ)
    (r : Except StdException Status × ClientCallbackServer κ ν) :
    (w.launches guarded address port r).object = r.2 := by
  unfold ThreadedServer.launches
  split
  · split <;> rfl
  · rfl

@[simp] theorem joining_launches (guarded : Bool) (address : String) (port : ℤ)
    (r : Except StdException Status × ClientCallbackServer κ ν) :
    (w.launches guarded address port r).joining = w.joining := by
  unfold ThreadedServer.launches
  split
  · split <;> rfl
  · rfl

/-- `Stop`, up to the join, is on its way to what `Stop` does. -/
theorem settled_stops (hj : w.joining = false) (draining : List (Delivery ν)) :
    (w.stops draining).settled = w.object.stop draining := by
  unfold ThreadedServer.stops ClientCallbackServer.stop
  simp only
  split
  · rfl
  · simp [ThreadedServer.settled, hj]

theorem settled_joins (hj : w.joining = true) : w.joins.settled = w.settled := by
  unfold ThreadedServer.joins
  split
  · simp [ThreadedServer.settled, hj]
  · split
    · simp [ThreadedServer.settled, hj]
    · rfl

theorem object_goesOn (print : Except StdException Unit) (t : ServerThread) :
    (w.goesOn print t).object = w.object ∧ (w.goesOn print t).joining = w.joining := by
  unfold ThreadedServer.goesOn
  split
  · split
    · exact ⟨rfl, rfl⟩
    · split <;> exact ⟨rfl, rfl⟩
  · exact ⟨rfl, rfl⟩
  · split <;> exact ⟨rfl, rfl⟩
  · exact ⟨rfl, rfl⟩

end Settled

/-! ### The thread against the members it reads -/

/-- The members are those of the start that launched the thread. -/
structure ServerThread.Owns (t : ServerThread) (i : Impl κ) : Prop where
  address : i.listenAddress = t.address
  port : i.listenPort = t.port
  server : ∃ server, i.server = some server ∧ server.service = t.service ∧
    server.host = t.address ∧ (t.port ≠ 0 → server.port = t.port)
  waiting : ∀ service, t.stage = .waiting service → service = t.service

/-- What a thread did was right: it printed the address and the port of its start, waited
on the server its start built, and let an exception out only unguarded. -/
def Remark.Faithful : Remark → Prop
  | .printed t address port => address = t.address ∧ port = t.port
  | .waited t server => ∃ s, server = some s ∧ s.service = t.service ∧ s.host = t.address ∧
      (t.port ≠ 0 → s.port = t.port)
  | .caught t _ => t.guarded = true
  | .escaped t _ => t.guarded = false

/-- What holds between the object and its thread. -/
structure Joined (w : ThreadedServer κ ν) : Prop where
  order : Inv w.settled.impl
  joinable : w.object.impl.serverThread = w.thread.isSome
  down : w.joining = true →
    ∃ server, w.object.impl.server = some server ∧ server.isShutdown = true
  thread : ∀ t, w.thread = some t → t.Owns w.object.impl
  log : ∀ r ∈ w.log, r.Faithful
  aborted : w.aborted = true → ∃ t e, Remark.escaped t e ∈ w.log

section Keeps

variable {w : ThreadedServer κ ν}

theorem Joined.inv (h : Joined w) (hj : w.joining = false) : Inv w.object.impl := by
  have horder := h.order
  rwa [ThreadedServer.settled, hj] at horder

/-- Out of `Stop`, an object with a thread runs. -/
theorem Joined.running (h : Joined w) (hj : w.joining = false) {t : ServerThread}
    (ht : w.thread = some t) : w.object.impl.running = true :=
  (h.inv hj).thread (by rw [h.joinable, ht]; rfl)

/-- An object that does not run has no thread. -/
theorem Joined.thread_none (h : Joined w) (hj : w.joining = false)
    (hrun : w.object.impl.running = false) : w.thread = none := by
  cases ht : w.thread with
  | none => rfl
  | some t =>
      rw [h.running hj ht] at hrun
      cases hrun

/-- **A start** launches its thread when there is no other one. -/
theorem Joined.launches (h : Joined w) (hj : w.joining = false) {c : ClientCallbackServer κ ν}
    (hc : c.impl = w.object.impl) {listenAddress : String} {port recorded : ℤ}
    {record : ClientCallbackServer κ ν → ClientCallbackServer κ ν} {env : StartEnv ν}
    (hr : recorded ≠ 0 → recorded = env.boundPort port)
    (hl : (live listenAddress port record env c).impl =
      liveImpl listenAddress recorded (env.boundPort port) c) (guarded : Bool) :
    Joined (w.launches guarded listenAddress recorded
      (startServer listenAddress port record env c)) := by
  have hinv : Inv c.impl := hc ▸ h.inv hj
  have horder : Inv (w.launches guarded listenAddress recorded
      (startServer listenAddress port record env c)).settled.impl := by
    have hstart := hinv.startServer hr hl
    simp only [ThreadedServer.settled, joining_launches, hj, object_launches]
    exact hstart
  rcases startServer_cases listenAddress port record env c with
    ⟨-, he⟩ | ⟨hrun, -, status, c', he, hok, hf⟩ | ⟨hrun, -, e, he⟩ | ⟨hrun, -, he⟩
  · -- Refused: the members are as they were.
    have hw : w.launches guarded listenAddress recorded
        (startServer listenAddress port record env c) = { w with object := c } := by
      rw [he]
      rfl
    rw [hw] at horder ⊢
    exact ⟨horder, hc ▸ h.joinable, fun hjoin => hc ▸ h.down hjoin,
      fun t ht => hc ▸ h.thread t ht, h.log, h.aborted⟩
  · have hw : w.launches guarded listenAddress recorded
        (startServer listenAddress port record env c) = { w with object := c' } := by
      rw [he]
      simp [ThreadedServer.launches, hok]
    have hnone := h.thread_none hj (hc ▸ hrun)
    rw [hw] at horder ⊢
    refine ⟨horder, ?_, fun hjoin => ?_, fun t ht => ?_, h.log, h.aborted⟩
    · rw [((hinv.idle hrun).failed hf).serverThread, hnone]
      rfl
    · rw [hj] at hjoin
      cases hjoin
    · rw [hnone] at ht
      cases ht
  · have hw : w.launches guarded listenAddress recorded
        (startServer listenAddress port record env c) =
          { w with object := live listenAddress port record env c } := by
      rw [he]
      rfl
    have hnone := h.thread_none hj (hc ▸ hrun)
    rw [hw] at horder ⊢
    refine ⟨horder, ?_, fun hjoin => ?_, fun t ht => ?_, h.log, h.aborted⟩
    · show (live listenAddress port record env c).impl.serverThread = w.thread.isSome
      rw [hl, hnone]
      exact (hinv.idle hrun).serverThread
    · rw [hj] at hjoin
      cases hjoin
    · rw [hnone] at ht
      cases ht
  · have himpl : (live listenAddress port record env c).newThread.impl =
        { liveImpl listenAddress recorded (env.boundPort port) c with serverThread := true } := by
      rw [← hl]
      rfl
    have hw : w.launches guarded listenAddress recorded
        (startServer listenAddress port record env c) =
          { w with
            object := (live listenAddress port record env c).newThread
            thread := some ⟨guarded, listenAddress, recorded, some c.made, .launched⟩ } := by
      rw [he]
      simp only [ThreadedServer.launches, himpl]
      rfl
    rw [hw] at horder ⊢
    refine ⟨horder, rfl, fun hjoin => ?_, fun t ht => ?_, h.log, h.aborted⟩
    · rw [hj] at hjoin
      cases hjoin
    · obtain rfl := Option.some.inj ht
      rw [himpl]
      exact ⟨rfl, rfl, ⟨_, rfl, rfl, rfl, fun hp => (hr hp).symm⟩, fun _ hs => by cases hs⟩

/-- An operation beside which the members a thread reads stay as they are. -/
theorem Joined.beside (h : Joined w) (hj : w.joining = false) {c : ClientCallbackServer κ ν}
    (hc : ∃ callback, c.impl = { w.object.impl with messageCallback := callback }) :
    Joined { w with object := c } := by
  obtain ⟨callback, hc⟩ := hc
  have hinv := h.inv hj
  refine ⟨?_, ?_, fun hjoin => ?_, fun t ht => ?_, h.log, h.aborted⟩
  · simp only [ThreadedServer.settled, hj]
    show Inv c.impl
    rw [hc]
    exact ⟨hinv.running, hinv.thread, hinv.service, hinv.bound⟩
  · show c.impl.serverThread = w.thread.isSome
    rw [hc]
    exact h.joinable
  · rw [hj] at hjoin
    cases hjoin
  · have hown := h.thread t ht
    show t.Owns c.impl
    rw [hc]
    exact ⟨hown.address, hown.port, hown.server, hown.waiting⟩

/-- **`Stop`, up to the join**, leaves the thread the server it waits on. -/
theorem Joined.stops (h : Joined w) (hj : w.joining = false) (draining : List (Delivery ν)) :
    Joined (w.stops draining) := by
  have horder : Inv (w.stops draining).settled.impl := by
    rw [settled_stops hj]
    exact ((h.inv hj).stop draining).inv
  cases hs : w.object.impl.server with
  | none =>
      have hw : w.stops draining = { w with object := w.object.clearRunning.log [.stopped] } := by
        simp [ThreadedServer.stops, ClientCallbackServer.clearRunning, hs]
      have hnone : w.thread = none := by
        cases ht : w.thread with
        | none => rfl
        | some t =>
            obtain ⟨server, hserver, -⟩ := (h.thread t ht).server
            rw [hs] at hserver
            cases hserver
      rw [hw] at horder ⊢
      refine ⟨horder, h.joinable, fun hjoin => ?_, fun t ht => ?_, h.log, h.aborted⟩
      · rw [hj] at hjoin
        cases hjoin
      · rw [hnone] at ht
        cases ht
  | some server =>
      have hw : w.stops draining =
          { w with
            object := (w.object.clearRunning.deliverAll draining).shutdownServer
            joining := true } := by
        simp [ThreadedServer.stops, ClientCallbackServer.clearRunning, hs]
      have himpl : ((w.object.clearRunning.deliverAll draining).shutdownServer).impl =
          { w.object.impl with
            running := false
            server := some { server with isShutdown := true } } := by
        simp [ClientCallbackServer.shutdownServer, ClientCallbackServer.clearRunning, hs]
      rw [hw] at horder ⊢
      refine ⟨horder, ?_, fun _ => ?_, fun t ht => ?_, h.log, h.aborted⟩
      · rw [himpl]
        exact h.joinable
      · rw [himpl]
        exact ⟨_, rfl, rfl⟩
      · obtain ⟨haddress, hport, ⟨server', hserver, hrest⟩, hwaiting⟩ := h.thread t ht
        obtain rfl : server = server' := Option.some.inj (hs.symm.trans hserver)
        rw [himpl]
        exact ⟨haddress, hport, ⟨_, rfl, hrest⟩, hwaiting⟩

theorem Joined.calls (h : Joined w) (hj : w.joining = false) (op : Operation κ ν) :
    Joined (w.calls op) := by
  cases op with
  | start listenAddress port env =>
      exact h.launches hj rfl (fun hp => (env.boundPort_of_ne hp).symm) impl_live_start true
  | startWithAutoPort listenAddress assignedPort env =>
      exact h.launches (c := w.object.setAssignedPort assignedPort) hj rfl (fun _ => rfl)
        impl_live_auto false
  | stop draining => exact h.stops hj draining
  | setCallback callback copy =>
      refine h.beside hj ?_
      rcases setSubscriptionMessageCallback_cases callback copy w.object with ⟨e, he⟩ | ⟨-, he⟩
      · exact ⟨w.object.impl.messageCallback, by rw [Operation.perform, he]⟩
      · exact ⟨callback, by rw [Operation.perform, he]⟩
  | deliver d =>
      exact h.beside hj ⟨w.object.impl.messageCallback, by rw [ClientCallbackServer.impl_deliver]⟩

/-- `Stop` goes on behind the join. -/
theorem Joined.joins (h : Joined w) (hj : w.joining = true) : Joined w.joins := by
  have horder : Inv w.joins.settled.impl := by
    rw [settled_joins hj]
    exact h.order
  have hover : Inv (ThreadedServer.settled { w with
        object := w.object.joinThread.log [.stopped], joining := false, thread := none }).impl →
      Joined { w with
        object := w.object.joinThread.log [.stopped], joining := false, thread := none } :=
    fun horder => ⟨horder, rfl, fun hjoin => (by cases hjoin), fun t ht => (by cases ht), h.log,
      h.aborted⟩
  unfold ThreadedServer.joins at horder ⊢
  split
  · rename_i hnone
    have hw : { w with object := w.object.joinThread.log [.stopped], joining := false } =
        { w with
          object := w.object.joinThread.log [.stopped], joining := false, thread := none } := by
      rw [hnone]
    rw [hw]
    refine hover ?_
    simpa [hnone] using horder
  · rename_i t ht
    split
    · rename_i hended
      refine hover ?_
      simpa [ht, hended] using horder
    · exact h

/-- The thread gets to another stage, with remarks that are faithful. -/
theorem Joined.stage (h : Joined w) {t : ServerThread} (ht : w.thread = some t)
    (stage : ThreadStage) (more : List Remark) (hmore : ∀ r ∈ more, r.Faithful)
    (hstage : ∀ service, stage = .waiting service → service = t.service) :
    Joined { w with thread := some { t with stage := stage }, log := w.log ++ more } where
  order := h.order
  joinable := by
    show w.object.impl.serverThread = true
    rw [h.joinable, ht]
    rfl
  down := h.down
  thread t' ht' := by
    obtain rfl := Option.some.inj ht'
    have hown := h.thread t ht
    exact ⟨hown.address, hown.port, hown.server, hstage⟩
  log := List.forall_mem_append.2 ⟨h.log, hmore⟩
  aborted ha := by
    obtain ⟨t', e, hmem⟩ := h.aborted ha
    exact ⟨t', e, List.mem_append_left _ hmem⟩

/-- **The thread goes on**: what it reads is its own. -/
theorem Joined.goesOn (h : Joined w) {t : ServerThread} (ht : w.thread = some t)
    (print : Except StdException Unit) : Joined (w.goesOn print t) := by
  have hown := h.thread t ht
  unfold ThreadedServer.goesOn
  split
  · split
    · refine h.stage ht .printed _ (List.forall_mem_singleton.2 ⟨hown.address, hown.port⟩) ?_
      exact fun service hs => by cases hs
    · rename_i e
      split
      · rename_i hguarded
        refine h.stage ht .ended _ (List.forall_mem_singleton.2 hguarded) ?_
        exact fun service hs => by cases hs
      · rename_i hguarded
        refine ⟨h.order, h.joinable, h.down, h.thread, ?_, fun _ => ?_⟩
        · exact List.forall_mem_append.2
            ⟨h.log, List.forall_mem_singleton.2 (Bool.eq_false_iff.2 hguarded)⟩
        · exact ⟨t, e, List.mem_append_right _ List.mem_cons_self⟩
  · obtain ⟨server, hserver, hservice, hrest⟩ := hown.server
    refine h.stage ht _ _ (List.forall_mem_singleton.2 ⟨server, hserver, hservice, hrest⟩) ?_
    intro service hs
    rw [← ThreadStage.waiting.inj hs, hserver]
    exact hservice
  · split
    · have hended := h.stage ht .ended [] (List.forall_mem_nil _) fun service hs => by cases hs
      rwa [List.append_nil] at hended
    · exact h
  · exact h

theorem Joined.next (h : Joined w) (l : ThreadedStep κ ν) : Joined (w.next l) := by
  cases l with
  | calls op =>
      unfold ThreadedServer.next
      simp only
      split
      · exact h
      · rename_i hcond
        have hj : w.joining = false := by
          cases hj : w.joining with
          | false => rfl
          | true => simp [hj] at hcond
        exact h.calls hj op
  | joins =>
      unfold ThreadedServer.next
      simp only
      split
      · rename_i hcond
        exact h.joins (Bool.and_eq_true_iff.1 hcond).1
      · exact h
  | thread print =>
      unfold ThreadedServer.next
      simp only
      split
      · rename_i t ht
        split
        · exact h
        · exact h.goesOn ht print
      · exact h

/-- The steps a thread has left once its server is shut down. -/
def ThreadStage.left : ThreadStage → ℕ
  | .launched => 3
  | .printed => 2
  | .waiting _ => 1
  | .ended => 0

/-- A thread whose server is shut down gets on, if printing does not raise. -/
theorem Joined.progress (h : Joined w) (hj : w.joining = true) (ha : w.aborted = false)
    {t : ServerThread} (ht : w.thread = some t) (hended : t.stage ≠ .ended) :
    ∃ t', (w.next (.thread (.ok ()))).thread = some t' ∧ t'.stage.left < t.stage.left ∧
      (w.next (.thread (.ok ()))).joining = true ∧
      (w.next (.thread (.ok ()))).aborted = false ∧
      (w.next (.thread (.ok ()))).settled = w.settled := by
  have hnext : w.next (.thread (.ok ())) = w.goesOn (.ok ()) t := by
    simp [ThreadedServer.next, ht, ha]
  have hsettled : (w.goesOn (.ok ()) t).settled = w.settled := by
    obtain ⟨hobject, hjoining⟩ := object_goesOn (w := w) (.ok ()) t
    simp only [ThreadedServer.settled, hobject, hjoining]
  have hjoining : (w.goesOn (.ok ()) t).joining = true := (object_goesOn (.ok ()) t).2.trans hj
  rw [hnext]
  cases hs : t.stage with
  | launched =>
      refine ⟨{ t with stage := .printed }, ?_, by simp [ThreadStage.left], hjoining, ?_,
        hsettled⟩
      · simp [ThreadedServer.goesOn, hs]
      · simpa [ThreadedServer.goesOn, hs] using ha
  | printed =>
      refine ⟨{ t with stage := .waiting (w.object.impl.server.bind (·.service)) }, ?_,
        by simp [ThreadStage.left], hjoining, ?_, hsettled⟩
      · simp [ThreadedServer.goesOn, hs]
      · simpa [ThreadedServer.goesOn, hs] using ha
  | waiting service =>
      obtain ⟨server, hserver, hdown⟩ := h.down hj
      have hown := h.thread t ht
      obtain ⟨server', hserver', hservice, -⟩ := hown.server
      obtain rfl : server = server' := Option.some.inj (hserver.symm.trans hserver')
      have hwaits : (w.object.impl.server.any fun s => s.service == service && s.isShutdown) =
          true := by
        simp [hserver, hdown, hservice, hown.waiting service hs]
      have hgoes : w.goesOn (.ok ()) t = { w with thread := some { t with stage := .ended } } := by
        simp [ThreadedServer.goesOn, hs, hwaits]
      rw [hgoes] at hjoining hsettled ⊢
      exact ⟨_, rfl, by simp [ThreadStage.left], hjoining, ha, hsettled⟩
  | ended => exact absurd hs hended

/-- The join returns if no thread is left, or one that has ended. -/
theorem over_joins (hj : w.joining = true) (ha : w.aborted = false)
    (hover : ∀ t, w.thread = some t → t.stage = .ended) :
    (w.next .joins).joining = false ∧ (w.next .joins).object = w.settled := by
  have hnext : w.next .joins = w.joins := by simp [ThreadedServer.next, hj, ha]
  have hsettled : w.settled = w.object.joinThread.log [.stopped] := by
    simp [ThreadedServer.settled, hj]
  rw [hnext, hsettled]
  unfold ThreadedServer.joins
  split
  · exact ⟨rfl, rfl⟩
  · rename_i t ht
    rw [if_pos (hover t ht)]
    exact ⟨rfl, rfl⟩

/-- **The join can return**, whatever the thread is at, and leaves what `Stop` leaves. -/
theorem Joined.ends (h : Joined w) (hj : w.joining = true) (ha : w.aborted = false) :
    ∃ more, (threaded.runFrom w more).joining = false ∧
      (threaded.runFrom w more).object = w.settled := by
  cases ht : w.thread with
  | none => exact ⟨[.joins], over_joins hj ha fun t hsome => by rw [ht] at hsome; cases hsome⟩
  | some t =>
      -- By induction on the steps the thread has left.
      induction hn : t.stage.left using Nat.strongRecOn generalizing w t with
      | ind n ih =>
          by_cases hended : t.stage = .ended
          · refine ⟨[.joins], over_joins hj ha fun t' ht' => ?_⟩
            obtain rfl : t = t' := Option.some.inj (ht.symm.trans ht')
            exact hended
          · obtain ⟨t', ht', hlt, hj', ha', hsame⟩ := h.progress hj ha ht hended
            obtain ⟨more, hjoining, hobject⟩ := ih _ (hn ▸ hlt) (h.next _) hj' ha' t' ht' rfl
            exact ⟨.thread (.ok ()) :: more, hjoining, hobject.trans hsame⟩

end Keeps

end Callback
end ClientSdk
