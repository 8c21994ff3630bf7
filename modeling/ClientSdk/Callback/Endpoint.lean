/-
# The endpoint a callback server hands out

`source/robot/client/client_callback_server.cpp`: `GetClientEndpoint` and
`GetListenPort` over the whole life of an object.

The endpoint is put together from the recorded address and port, and is empty
if the address is empty or the port is 0 (`Impl.Unrecorded`).  While the object
runs, a non-empty endpoint is where its server is bound.  Two laws about it can
be asked of every state of a history:

* a non-empty endpoint is that of a live server (`EndpointLive`).  `Stop` clears
  nothing and `Start` records its arguments before it has a server, so the law
  is kept exactly by the operations of `KeepsEndpointLive`;
* a running object tells where its server is bound (`EndpointTold`).  `Start`
  records the port it was asked for, so the law is kept exactly by the
  operations of `KeepsEndpointTold`.
-/

import ClientSdk.Callback.Lifecycle

namespace ClientSdk
namespace Callback

open Common Lib

variable {κ ν : Type} {c : ClientCallbackServer κ ν} {listenAddress : String} {port : ℤ}
  {env : StartEnv ν}

/-! ### The recorded address and port -/

/-- The address or the port that stands for no endpoint. -/
def Impl.Unrecorded (i : Impl κ) : Prop := i.listenAddress = "" ∨ i.listenPort = 0

instance (i : Impl κ) : Decidable i.Unrecorded := inferInstanceAs (Decidable (_ ∨ _))

/-- The endpoint of the address `host` and the port `port`. -/
def endpoint (host : String) (port : ℤ) : String := host ++ ":" ++ toString port

/-- An endpoint is never the empty string: it has a colon in it. -/
theorem endpoint_ne_empty (host : String) (port : ℤ) : endpoint host port ≠ "" := by
  intro h
  have hlen := congrArg String.length h
  rw [endpoint, String.length_append, String.length_append] at hlen
  have hcolon : ":".length = 1 := rfl
  have hempty : "".length = 0 := rfl
  omega

theorem getClientEndpoint_of_unrecorded (h : c.impl.Unrecorded) : c.getClientEndpoint = "" := by
  unfold ClientCallbackServer.getClientEndpoint
  rcases h with h | h <;> simp [h]

theorem getClientEndpoint_of_not_unrecorded (h : ¬ c.impl.Unrecorded) :
    c.getClientEndpoint = endpoint c.impl.listenAddress c.impl.listenPort := by
  obtain ⟨ha, hp⟩ := not_or.1 h
  simp [ClientCallbackServer.getClientEndpoint, ha, hp, endpoint]

theorem getClientEndpoint_eq_empty_iff : c.getClientEndpoint = "" ↔ c.impl.Unrecorded := by
  constructor
  · intro h
    by_contra hu
    rw [getClientEndpoint_of_not_unrecorded hu] at h
    exact endpoint_ne_empty _ _ h
  · exact getClientEndpoint_of_unrecorded

/-- The recorded address and port of a running object are where its server is
bound, if they make an endpoint. -/
theorem Inv.bound_of_running (h : Inv c.impl) (hrun : c.impl.running = true)
    (hu : ¬ c.impl.Unrecorded) :
    ∃ s, c.impl.liveServer = some s ∧ s.host = c.impl.listenAddress ∧
      s.port = c.impl.listenPort := by
  rw [h.running] at hrun
  obtain ⟨s, hs⟩ := Option.isSome_iff_exists.1 hrun
  obtain ⟨hhost, hport⟩ := h.bound s hs
  exact ⟨s, hs, hhost, (hport (not_or.1 hu).2).symm⟩

/-! ### The two laws -/

/-- A non-empty endpoint is that of a live server. -/
def EndpointLive (c : ClientCallbackServer κ ν) : Prop :=
  c.getClientEndpoint ≠ "" →
    ∃ s, c.impl.liveServer = some s ∧ c.getClientEndpoint = endpoint s.host s.port

/-- A running object has a live server, and its port and its endpoint tell where
that server is bound. -/
def EndpointTold (c : ClientCallbackServer κ ν) : Prop :=
  c.isRunning = true →
    ∃ s, c.impl.liveServer = some s ∧ c.getListenPort = s.port ∧
      c.getClientEndpoint = endpoint c.getListenAddress s.port

/-- The first law, from what is recorded. -/
theorem Inv.endpointLive_iff (h : Inv c.impl) :
    EndpointLive c ↔ (c.impl.running = false → c.impl.Unrecorded) := by
  constructor
  · intro hl hrun
    by_contra hu
    obtain ⟨s, hs, -⟩ := hl fun he => hu (getClientEndpoint_eq_empty_iff.1 he)
    rw [(h.idle hrun).liveServer] at hs
    cases hs
  · intro hl he
    have hu : ¬ c.impl.Unrecorded := fun hu => he (getClientEndpoint_of_unrecorded hu)
    have hrun : c.impl.running = true := by
      by_contra hrun
      exact hu (hl (Bool.eq_false_iff.2 hrun))
    obtain ⟨s, hs, hhost, hport⟩ := h.bound_of_running hrun hu
    exact ⟨s, hs, by rw [getClientEndpoint_of_not_unrecorded hu, hhost, hport]⟩

/-- The second law, from what is recorded. -/
theorem Inv.endpointTold_iff (h : Inv c.impl) :
    EndpointTold c ↔ (c.impl.running = true → ¬ c.impl.Unrecorded) := by
  constructor
  · intro ht hrun hu
    obtain ⟨s, -, -, he⟩ := ht hrun
    rw [getClientEndpoint_of_unrecorded hu] at he
    exact endpoint_ne_empty _ _ he.symm
  · intro ht hrun
    have hu := ht hrun
    obtain ⟨s, hs, -, hport⟩ := h.bound_of_running hrun hu
    exact ⟨s, hs, hport.symm, by
      rw [getClientEndpoint_of_not_unrecorded hu, hport, ClientCallbackServer.getListenAddress]⟩

/-! ### What a start records -/

section Start

variable {record : ClientCallbackServer κ ν → ClientCallbackServer κ ν} {recorded : ℤ}

/-- A start that could not store the address records nothing. -/
theorem startServer_recorded_of_address_error {e : StdException} (hrun : c.impl.running = false)
    (ha : env.storeAddress = .error e) :
    (startServer listenAddress port record env c).2 = c := by
  simp [startServer, hrun, ha]

/-- A start that stored the address and builds no server leaves its arguments
recorded. -/
theorem startServer_recorded_of_not_builds (listenAddress : String) (port : ℤ)
    (record : ClientCallbackServer κ ν → ClientCallbackServer κ ν) (hrun : c.impl.running = false)
    (ha : env.storeAddress = .ok ()) (h : ¬ env.Builds) :
    let i := (startServer listenAddress port record env c).2.impl
    i.running = false ∧ i.listenAddress = listenAddress ∧ i.listenPort = port := by
  have hcases : ∃ status c', startServer listenAddress port record env c = (.ok status, c') ∧
      status.ok = false ∧ Failed listenAddress port env c c' :=
    startServer_of_not_builds hrun h
  obtain ⟨status, c', he, -, hf⟩ := hcases
  rw [he]
  cases hf with
  | address e hne =>
      rw [ha] at hne
      cases hne
  | service he => exact ⟨hrun, rfl, rfl⟩
  | builder he => exact ⟨hrun, rfl, rfl⟩
  | null he => exact ⟨hrun, rfl, rfl⟩

/-- A start that builds a server leaves the object running, whether or not it
reports an error. -/
theorem startServer_recorded_of_builds (hrun : c.impl.running = false) (h : env.Builds)
    (hl : (live listenAddress port record env c).impl =
      liveImpl listenAddress recorded (env.boundPort port) c) :
    let i := (startServer listenAddress port record env c).2.impl
    i.running = true ∧ i.listenAddress = listenAddress ∧ i.listenPort = recorded := by
  cases ht : env.makeThread with
  | error e =>
      rw [startServer_of_thread_error hrun h ht, hl]
      exact ⟨rfl, rfl, rfl⟩
  | ok u =>
      rw [startServer_of_thread hrun h ht]
      show (live listenAddress port record env c).impl.running = true ∧
        (live listenAddress port record env c).impl.listenAddress = listenAddress ∧
        (live listenAddress port record env c).impl.listenPort = recorded
      rw [hl]
      exact ⟨rfl, rfl, rfl⟩

end Start

/-! ### The endpoint of a server that is gone -/

/-- What keeps the first law: a `Stop` of an object without an endpoint, and a
`Start` that is refused, builds its server, could not even store its address, or
was given arguments that make no endpoint. -/
def KeepsEndpointLive (c : ClientCallbackServer κ ν) : Operation κ ν → Prop
  | .start listenAddress port env =>
      c.impl.running = true ∨ env.Builds ∨ (∃ e, env.storeAddress = .error e) ∨
        listenAddress = "" ∨ port = 0
  | .stop _ => c.impl.Unrecorded
  | _ => True

/-- The members of an object after `Stop` that the endpoint is made of. -/
theorem recorded_stop (draining : List (Delivery ν)) (c : ClientCallbackServer κ ν) :
    (c.stop draining).impl.listenAddress = c.impl.listenAddress ∧
      (c.stop draining).impl.listenPort = c.impl.listenPort := by
  cases hs : c.impl.server with
  | some s =>
      rw [impl_stop_of_some draining hs]
      exact ⟨rfl, rfl⟩
  | none =>
      rw [impl_stop_of_none draining hs]
      exact ⟨rfl, rfl⟩

theorem unrecorded_stop_iff (draining : List (Delivery ν)) :
    (c.stop draining).impl.Unrecorded ↔ c.impl.Unrecorded := by
  obtain ⟨ha, hp⟩ := recorded_stop draining c
  rw [Impl.Unrecorded, Impl.Unrecorded, ha, hp]

/-- A start of an object that hands out no stale endpoint. -/
theorem endpointLive_startServer_iff
    {record : ClientCallbackServer κ ν → ClientCallbackServer κ ν} {recorded : ℤ}
    (h : Inv c.impl) (hl : EndpointLive c) (hr : recorded ≠ 0 → recorded = env.boundPort port)
    (himpl : (live listenAddress port record env c).impl =
      liveImpl listenAddress recorded (env.boundPort port) c) :
    EndpointLive (startServer listenAddress port record env c).2 ↔
      c.impl.running = true ∨ env.Builds ∨ (∃ e, env.storeAddress = .error e) ∨
        listenAddress = "" ∨ port = 0 := by
  have hi : Inv (startServer listenAddress port record env c).2.impl := h.startServer hr himpl
  cases hrun : c.impl.running with
  | true =>
      rw [startServer_of_running hrun]
      exact iff_of_true hl (Or.inl rfl)
  | false =>
      by_cases hb : env.Builds
      · obtain ⟨hrun', -⟩ := startServer_recorded_of_builds hrun hb himpl
        refine iff_of_true (hi.endpointLive_iff.2 fun hf => ?_) (Or.inr (Or.inl hb))
        rw [hrun'] at hf
        cases hf
      · cases ha : env.storeAddress with
        | error e =>
            rw [startServer_recorded_of_address_error hrun ha]
            exact iff_of_true hl (Or.inr (Or.inr (Or.inl ⟨e, rfl⟩)))
        | ok u =>
            obtain ⟨hrun', hla, hlp⟩ :=
              startServer_recorded_of_not_builds listenAddress port record hrun ha hb
            rw [hi.endpointLive_iff, Impl.Unrecorded, hrun', hla, hlp]
            simp [hb]

/-- **The first law, one operation at a time.** -/
theorem Inv.endpointLive_perform_iff (h : Inv c.impl) (hl : EndpointLive c)
    (op : Operation κ ν) : EndpointLive (op.perform c) ↔ KeepsEndpointLive c op := by
  cases op with
  | start listenAddress port env =>
      exact endpointLive_startServer_iff h hl (fun hp => (env.boundPort_of_ne hp).symm)
        impl_live_start
  | startWithAutoPort listenAddress assignedPort env =>
      -- Port 0 is recorded until there is a server, and makes no endpoint.
      refine iff_of_true ?_ trivial
      exact (endpointLive_startServer_iff (c := c.setAssignedPort assignedPort) h hl
        (fun _ => rfl) impl_live_auto).2 (Or.inr (Or.inr (Or.inr (Or.inr rfl))))
  | stop draining =>
      have hidle : Idle (c.stop draining).impl := h.stop draining
      rw [Operation.perform, hidle.inv.endpointLive_iff, unrecorded_stop_iff]
      exact ⟨fun hu => hu hidle.running, fun hu _ => hu⟩
  | setCallback callback copy =>
      refine iff_of_true ?_ trivial
      rcases setSubscriptionMessageCallback_cases callback copy c with ⟨e, he⟩ | ⟨-, he⟩ <;>
        rw [Operation.perform, he] <;> exact hl
  | deliver d =>
      refine iff_of_true ?_ trivial
      rw [(h.perform (.deliver d)).endpointLive_iff, Operation.perform,
        ClientCallbackServer.impl_deliver]
      exact h.endpointLive_iff.1 hl

/-- **When no endpoint outlives its server.**  In every state of a history a
non-empty endpoint is that of a live server, exactly if no `Stop` meets an object
with an endpoint and no `Start` of an idle object fails after it recorded
arguments that make one. -/
theorem history_endpointLive_iff (ops : List (Operation κ ν)) :
    history.EveryState EndpointLive ops ↔
      history.EveryStep (fun c op _ => KeepsEndpointLive c op) ops :=
  Machine.everyState_iff (I := fun c : ClientCallbackServer κ ν => Inv c.impl) inv_init
    (fun h => absurd rfl h) (fun _ op hi => hi.perform op)
    (fun _ op hi hl => hi.endpointLive_perform_iff hl op) ops

/-- An object started and stopped still hands out its endpoint. -/
theorem history_endpointLive_stopped :
    ¬ (history : Machine (ClientCallbackServer Unit Unit) _).EveryState EndpointLive
      [.start "127.0.0.1" 50052 untroubled, .stop []] := by
  intro h
  have hlast := h [.start "127.0.0.1" 50052 untroubled, .stop []] [] rfl
  obtain ⟨s, hs, -⟩ := hlast (by decide)
  cases hs

/-! ### The endpoint of a running server -/

/-- What keeps the second law: a start that is refused or builds no server, or
that is given an address, and for `Start` a port other than 0. -/
def KeepsEndpointTold (c : ClientCallbackServer κ ν) : Operation κ ν → Prop
  | .start listenAddress port env =>
      c.impl.running = true ∨ ¬ env.Builds ∨ (listenAddress ≠ "" ∧ port ≠ 0)
  | .startWithAutoPort listenAddress _ env =>
      c.impl.running = true ∨ ¬ env.Builds ∨ listenAddress ≠ ""
  | _ => True

/-- A start of an object that tells where it is bound while it runs. -/
theorem endpointTold_startServer_iff
    {record : ClientCallbackServer κ ν → ClientCallbackServer κ ν} {recorded : ℤ}
    (h : Inv c.impl) (ht : EndpointTold c) (hr : recorded ≠ 0 → recorded = env.boundPort port)
    (himpl : (live listenAddress port record env c).impl =
      liveImpl listenAddress recorded (env.boundPort port) c) :
    EndpointTold (startServer listenAddress port record env c).2 ↔
      c.impl.running = true ∨ ¬ env.Builds ∨ (listenAddress ≠ "" ∧ recorded ≠ 0) := by
  have hi : Inv (startServer listenAddress port record env c).2.impl := h.startServer hr himpl
  cases hrun : c.impl.running with
  | true =>
      rw [startServer_of_running hrun]
      exact iff_of_true ht (Or.inl rfl)
  | false =>
      by_cases hb : env.Builds
      · obtain ⟨hrun', hla, hlp⟩ := startServer_recorded_of_builds hrun hb himpl
        rw [hi.endpointTold_iff, Impl.Unrecorded, hrun', hla, hlp]
        simp [hb]
      · obtain ⟨status, c', he, -, hf⟩ := startServer_of_not_builds hrun hb
        have hidle : Idle c'.impl := (h.idle hrun).failed hf
        rw [he]
        refine iff_of_true (fun hrun' => ?_) (Or.inr (Or.inl hb))
        rw [ClientCallbackServer.isRunning, hidle.running] at hrun'
        cases hrun'

/-- **The second law, one operation at a time.** -/
theorem Inv.endpointTold_perform_iff (h : Inv c.impl) (ht : EndpointTold c)
    (op : Operation κ ν) : EndpointTold (op.perform c) ↔ KeepsEndpointTold c op := by
  cases op with
  | start listenAddress port env =>
      exact endpointTold_startServer_iff h ht (fun hp => (env.boundPort_of_ne hp).symm)
        impl_live_start
  | startWithAutoPort listenAddress assignedPort env =>
      refine (endpointTold_startServer_iff (c := c.setAssignedPort assignedPort) h ht
        (fun _ => rfl) impl_live_auto).trans ?_
      have hpos := env.boundPort_zero_pos
      have hne : env.boundPort 0 ≠ 0 := by omega
      simp [KeepsEndpointTold, hne, ClientCallbackServer.setAssignedPort]
  | stop draining =>
      refine iff_of_true (fun hrun => ?_) trivial
      rw [Operation.perform, ClientCallbackServer.isRunning, (h.stop draining).running] at hrun
      cases hrun
  | setCallback callback copy =>
      refine iff_of_true ?_ trivial
      rcases setSubscriptionMessageCallback_cases callback copy c with ⟨e, he⟩ | ⟨-, he⟩ <;>
        rw [Operation.perform, he] <;> exact ht
  | deliver d =>
      refine iff_of_true ?_ trivial
      rw [(h.perform (.deliver d)).endpointTold_iff, Operation.perform,
        ClientCallbackServer.impl_deliver]
      exact h.endpointTold_iff.1 ht

/-- What `CreateCallbackServer` does to the object it makes. -/
def creation (listenAddress : String) (port : ℤ) (messageCallback : Option κ)
    (copy : Except StdException Unit) (env : StartEnv ν) : List (Operation κ ν) :=
  let started : Operation κ ν :=
    if port = 0 then .startWithAutoPort listenAddress 0 env else .start listenAddress port env
  match messageCallback, copy with
  | none, _ => [started]
  | some _, .ok () => [.setCallback messageCallback copy, started]
  | some _, .error _ => [.setCallback messageCallback copy]

/-- **The object of `CreateCallbackServer` is one with a history** of the other
operations. -/
theorem createCallbackServer_eq_run (listenAddress : String) (port : ℤ)
    (messageCallback : Option κ) (copy : Except StdException Unit) (env : StartEnv ν) :
    (createCallbackServer listenAddress port messageCallback copy env).2 =
      history.run (creation listenAddress port messageCallback copy env) := by
  unfold createCallbackServer creation
  by_cases hp : port = 0
  · cases messageCallback with
    | none => simp [hp, Machine.run, history, Operation.perform,
      ClientCallbackServer.setAssignedPort]
    | some callback =>
        cases copy <;> simp [hp, Machine.run, history, Operation.perform,
          setSubscriptionMessageCallback, ClientCallbackServer.setAssignedPort]
  · cases messageCallback with
    | none => simp [hp, Machine.run, history, Operation.perform]
    | some callback =>
        cases copy <;> simp [hp, Machine.run, history, Operation.perform,
          setSubscriptionMessageCallback]

/-- **When a running object tells where it is bound.**  It does in every state of
a history, exactly if no `Start` that builds a server is given the empty address
or port 0 and no `StartWithAutoPort` that does is given the empty address.  An
object of `CreateCallbackServer` is no exception. -/
theorem history_endpointTold_iff :
    (∀ ops : List (Operation κ ν), history.EveryState EndpointTold ops ↔
      history.EveryStep (fun c op _ => KeepsEndpointTold c op) ops) ∧
    ∀ (listenAddress : String) (port : ℤ) (messageCallback : Option κ)
      (copy : Except StdException Unit) (env : StartEnv ν) (ops : List (Operation κ ν)),
      history.runFrom (createCallbackServer listenAddress port messageCallback copy env).2 ops =
        history.run (creation listenAddress port messageCallback copy env ++ ops) := by
  refine ⟨fun ops => ?_, fun listenAddress port messageCallback copy env ops => ?_⟩
  · exact Machine.everyState_iff (I := fun c : ClientCallbackServer κ ν => Inv c.impl) inv_init
      nofun (fun _ op hi => hi.perform op)
      (fun _ op hi ht => hi.endpointTold_perform_iff ht op) ops
  · rw [createCallbackServer_eq_run, Machine.run_append]

/-- An object started on port 0 runs and hands out no endpoint. -/
theorem history_endpointTold_portZero :
    ¬ (history : Machine (ClientCallbackServer Unit Unit) _).EveryState EndpointTold
      [.start "127.0.0.1" 0 untroubled] := by
  intro h
  have hlast := h [.start "127.0.0.1" 0 untroubled] [] rfl
  obtain ⟨s, hs, hport, -⟩ := hlast rfl
  obtain rfl := Option.some.inj hs
  exact absurd hport (by decide)

end Callback
end ClientSdk
