/-
# Starts that fail

`source/robot/client/client_callback_server.cpp`: what a caller of `Start` or
`StartWithAutoPort` can observe of the object once the call reported an error.

A refused call changes nothing, and neither does one that cannot even store the
address.  From there on the arguments are recorded, and no exit takes them back: a
start that builds no server leaves its address and port behind, and one that cannot
make its thread leaves an object that runs.  `Traceless` are the calls that nothing
is seen of all the same.
-/

import ClientSdk.Callback.Endpoint

namespace ClientSdk
namespace Callback

open Common Lib

variable {κ ν : Type} {c c' : ClientCallbackServer κ ν} {listenAddress : String} {port : ℤ}
  {env : StartEnv ν}

/-! ### What a caller observes -/

/-- What the methods of an object tell, and the variable given to
`StartWithAutoPort`. -/
structure Observation where
  isRunning : Bool
  listenAddress : String
  listenPort : ℤ
  clientEndpoint : String
  assignedPort : ℤ
deriving DecidableEq, Repr

/-- What a caller observes of an object. -/
def observe (c : ClientCallbackServer κ ν) : Observation :=
  ⟨c.isRunning, c.getListenAddress, c.getListenPort, c.getClientEndpoint, c.assignedPort⟩

theorem observe_prepared_iff :
    observe (prepared listenAddress port c) = observe c ↔
      c.impl.listenAddress = listenAddress ∧ c.impl.listenPort = port := by
  constructor
  · intro h
    have haddress := congrArg Observation.listenAddress h
    have hport := congrArg Observation.listenPort h
    exact ⟨haddress.symm, hport.symm⟩
  · rintro ⟨rfl, rfl⟩
    rfl

/-- A start that builds no server leaves the object as it was or, from where it
stored the address on, with its arguments recorded. -/
theorem Failed.observe (hf : Failed listenAddress port env c c') :
    (∃ e, env.storeAddress = .error e) ∧ c' = c ∨
      env.storeAddress = .ok () ∧
        Callback.observe c' = Callback.observe (prepared listenAddress port c) := by
  cases hf with
  | address e h => exact Or.inl ⟨⟨e, h⟩, rfl⟩
  | service h => exact Or.inr ⟨h, rfl⟩
  | builder h => exact Or.inr ⟨h, rfl⟩
  | null h => exact Or.inr ⟨h, rfl⟩

/-- A start whose server is built is running, whatever it records. -/
theorem observe_live (listenAddress : String) (port : ℤ)
    (record : ClientCallbackServer κ ν → ClientCallbackServer κ ν) (env : StartEnv ν)
    (c : ClientCallbackServer κ ν) :
    (observe (live listenAddress port record env c)).isRunning = true := rfl

/-! ### Calls that nothing is seen of -/

/-- A call that is refused, succeeds, cannot store the address, or builds no server
and was given the address and the port that are recorded already. -/
def Traceless (c : ClientCallbackServer κ ν) (listenAddress : String) (port : ℤ)
    (env : StartEnv ν) : Prop :=
  c.impl.running = true ∨ (env.Builds ∧ env.makeThread = .ok ()) ∨
    (∃ e, env.storeAddress = .error e) ∨
    (¬ env.Builds ∧ c.impl.listenAddress = listenAddress ∧ c.impl.listenPort = port)

/-- If the outcome of a call is an error, nothing is seen of it. -/
def HarmlessError (c : ClientCallbackServer κ ν)
    (outcome : Except StdException Status × ClientCallbackServer κ ν) : Prop :=
  ∀ status, outcome.1 = .ok status → status.ok = false → observe outcome.2 = observe c

/-- **Which starts fail without a trace.** -/
theorem harmlessError_startServer_iff
    (record : ClientCallbackServer κ ν → ClientCallbackServer κ ν) :
    HarmlessError c (startServer listenAddress port record env c) ↔
      Traceless c listenAddress port env := by
  cases hrun : c.impl.running with
  | true =>
      rw [startServer_of_running hrun]
      exact iff_of_true (fun _ _ _ => rfl) (Or.inl hrun)
  | false =>
      have hidle : ¬ c.impl.running = true := by simp [hrun]
      by_cases hb : env.Builds
      · cases ht : env.makeThread with
        | ok u =>
            rw [startServer_of_thread hrun hb ht]
            refine iff_of_true ?_ (Or.inr (Or.inl ⟨hb, ht⟩))
            rintro status ⟨rfl⟩ herr
            cases herr
        | error e =>
            -- The object runs, and reports an error.
            rw [startServer_of_thread_error hrun hb ht]
            refine iff_of_false (fun h => ?_) ?_
            · have hsame := congrArg Observation.isRunning (h _ rfl (Status.ok_error _ _))
              exact hidle (hsame.symm.trans (observe_live listenAddress port record env c))
            · rintro (h | ⟨-, h⟩ | ⟨e', h⟩ | ⟨h, -⟩)
              · exact hidle h
              · rw [ht] at h
                cases h
              · rw [hb.storeAddress] at h
                cases h
              · exact h hb
      · have hcases : ∃ status c', startServer listenAddress port record env c = (.ok status, c') ∧
            status.ok = false ∧ Failed listenAddress port env c c' :=
          startServer_of_not_builds hrun hb
        obtain ⟨status, c', he, herr, hf⟩ := hcases
        rw [he]
        have hharmless : HarmlessError c (.ok status, c') ↔ observe c' = observe c := by
          constructor
          · intro h
            exact h status rfl herr
          · intro h status' _ _
            exact h
        rw [hharmless]
        rcases hf.observe with ⟨hstore, rfl⟩ | ⟨hstore, hobs⟩
        · exact iff_of_true rfl (Or.inr (Or.inr (Or.inl hstore)))
        · rw [hobs, observe_prepared_iff, Traceless, hrun, hstore]
          simp [hb]

/-! ### Histories -/

/-- If `op` is a start that reports an error, nothing is seen of it.  The variable
given to `StartWithAutoPort` is the caller's. -/
def HarmlessFailure (c : ClientCallbackServer κ ν) : Operation κ ν → Prop
  | .start listenAddress port env => HarmlessError c (start listenAddress port env c)
  | .startWithAutoPort listenAddress assignedPort env =>
      HarmlessError (c.setAssignedPort assignedPort)
        (startWithAutoPort listenAddress env (c.setAssignedPort assignedPort))
  | _ => True

/-- The starts are traceless; the one on a port of the system's choice records port 0
until it has a server. -/
def LeavesNoTrace (c : ClientCallbackServer κ ν) : Operation κ ν → Prop
  | .start listenAddress port env => Traceless c listenAddress port env
  | .startWithAutoPort listenAddress _ env => Traceless c listenAddress 0 env
  | _ => True

/-- **Failed starts, one operation at a time.** -/
theorem harmlessFailure_iff (op : Operation κ ν) :
    HarmlessFailure c op ↔ LeavesNoTrace c op := by
  cases op with
  | start listenAddress port env => exact harmlessError_startServer_iff id
  | startWithAutoPort listenAddress assignedPort env => exact harmlessError_startServer_iff _
  | stop draining => exact Iff.rfl
  | setCallback callback copy => exact Iff.rfl
  | deliver d => exact Iff.rfl

/-- **When failed starts leave no trace.**  In every history a start that reports an
error changes nothing its caller observes, exactly if each start is refused,
succeeds, cannot store the address, or builds no server and was given the address
and the port that are recorded already. -/
theorem history_harmlessFailure_iff (ops : List (Operation κ ν)) :
    history.EveryStep (fun c op _ => HarmlessFailure c op) ops ↔
      history.EveryStep (fun c op _ => LeavesNoTrace c op) ops :=
  Machine.everyStep_iff (I := fun c : ClientCallbackServer κ ν => Inv c.impl) inv_init
    (fun _ op hi => hi.perform op) (fun _ op _ => harmlessFailure_iff op) ops

/-- A start that builds no server. -/
def unavailable : StartEnv ν := { untroubled with buildAndStart := .ok false }

/-- A start that cannot make its thread. -/
def threadless : StartEnv ν :=
  { untroubled with makeThread := .error (.other "Resource temporarily unavailable") }

/-- A new object hands out the endpoint of a start that failed, and it runs after one
that could not make its thread. -/
theorem history_harmlessFailure_fresh :
    ¬ (history : Machine (ClientCallbackServer Unit Unit) _).EveryStep
        (fun c op _ => HarmlessFailure c op) [.start "127.0.0.1" 50052 unavailable] ∧
      ¬ (history : Machine (ClientCallbackServer Unit Unit) _).EveryStep
        (fun c op _ => HarmlessFailure c op) [.start "127.0.0.1" 50052 threadless] := by
  constructor
  · intro h
    have hsame : HarmlessFailure _ _ := h [] _ [] rfl
    exact absurd (hsame notStarted rfl rfl) (by decide)
  · intro h
    have hsame : HarmlessFailure _ _ := h [] _ [] rfl
    exact absurd (hsame _ rfl rfl) (by decide)

end Callback
end ClientSdk
