/-
# `Stop` returns

`source/robot/client/client_callback_server.cpp`: a `Stop` of the owner that waits for
notification handlers, with callbacks that leave starting and stopping to the owner and
whose runs end.

While the owner is in `Stop` no handler is added, and each step of a running handler
brings it nearer to its end, which a measure of the program counts (`Program.Descends`).
So `Stop` returns under every schedule that gives each handler the steps it has left,
whatever else it does in between (`interleaving_stopReturns`).
-/

import ClientSdk.Callback.Lifetime

namespace ClientSdk
namespace Callback
namespace Deadlock

open Common Lib

variable {κ ν τ : Type}

/-- Each operation of the program brings `m` down, whatever the reply. -/
def Program.Descends (p : Program κ ν τ) (m : τ → ℕ) : Prop :=
  ∀ t op k r, p.next t = some (op, k) → m (k r) < m t

/-- The steps a handler has left at most. -/
def Handler.left (m : τ → ℕ) (x : Handler τ) : ℕ :=
  match x.stage with
  | .running t | .stopping _ t => m t + 1
  | .returned => 0

/-- The step is one of the handler `h`. -/
def Label.isHandler (h : ℕ) : Label κ ν → Bool
  | .handler i _ _ => i == h
  | _ => false

section Steps

variable {p : Program κ ν τ} {m : τ → ℕ} {s : System κ ν τ} {id : Option ℕ}

/-- A handler with no steps left has returned. -/
theorem inactive_of_left {x : Handler τ} (h : x.left m = 0) : x.active = false := by
  obtain ⟨own, stage⟩ := x
  cases stage with
  | running t => cases h
  | stopping server t => cases h
  | returned => rfl

/-- **A step of a running handler** of a hands-off program leaves it fewer. -/
theorem handlerCalls_left (hp : p.HandsOff) (hm : p.Descends m) (hfollows : NoneStopping p s)
    {i : ℕ} {x x' : Handler τ} (env : StartEnv ν) (copy : Except StdException Unit)
    (hx : s.handlers[i]? = some x)
    (hx' : (s.handlerCalls p i env copy).handlers[i]? = some x') : x'.left m ≤ x.left m - 1 := by
  have hset {stage : Stage τ} {own : Option ℕ}
      (h : (s.handlers.set i ⟨own, stage⟩)[i]? = some x') : x' = ⟨own, stage⟩ := by
    rcases (pool_set_iff hx).1 h with ⟨-, he⟩ | ⟨hne, -⟩
    · exact he
    · exact absurd rfl hne
  obtain ⟨own, stage⟩ := x
  cases stage with
  | stopping server t => exact (hfollows _ (List.mem_of_getElem? hx)).elim
  | returned =>
      have hsame : s.handlerCalls p i env copy = s := by
        simp [System.handlerCalls, hx]
      rw [hsame, hx] at hx'
      obtain rfl := Option.some.inj hx'
      exact Nat.le_refl 0
  | running t =>
      have ht : p.Reaches t := hfollows _ (List.mem_of_getElem? hx)
      show x'.left m ≤ m t
      cases hnext : p.next t with
      | none =>
          simp only [System.handlerCalls, hx, hnext, System.setHandler] at hx'
          rw [hset hx']
          exact Nat.zero_le _
      | some step =>
          obtain ⟨op, k⟩ := step
          obtain ⟨c, -, ⟨reply, hc⟩ | hc⟩ :=
            call_of_not_manages (s := s) (hp t op k ht hnext) env copy
          · simp only [System.handlerCalls, hx, hnext, hc, System.setHandler] at hx'
            rw [hset hx']
            exact hm t op k reply hnext
          · simp only [System.handlerCalls, hx, hnext, hc, System.setHandler] at hx'
            rw [hset hx']
            exact Nat.zero_le _

/-- While the owner is in `Stop` no handler is added. -/
theorem deliver_of_stopping (h : Kept s) (howner : s.owner = some id) (n : ν) :
    s.deliver p n = s := by
  obtain ⟨-, server, hs, rfl⟩ := h.waited id howner
  unfold System.deliver
  split
  · rename_i server' hlive
    obtain rfl : server = server' :=
      Option.some.inj (hs.symm.trans (Option.filter_eq_some_iff.1 hlive).1)
    rw [if_pos (by simp [System.shuttingDown, howner])]
  · rfl

/-- What the owner's `Shutdown` returns to: an idle object. -/
theorem ownerResumes_idle (h : Kept s) (howner : s.owner = some id) :
    s.ownerResumes = s ∧ s.busy id = true ∨
      s.ownerResumes.owner = none ∧ Idle s.ownerResumes.object.impl := by
  cases hbusy : s.busy id with
  | true => exact Or.inl ⟨by simp [System.ownerResumes, howner, hbusy], rfl⟩
  | false =>
      have hresumes : s.ownerResumes = { s.finishStop id with owner := none } := by
        simp [System.ownerResumes, howner, hbusy]
      have hkept : Kept s.ownerResumes := h.ownerResumes
      have hnone : s.ownerResumes.owner = none := by rw [hresumes]
      have hrun : s.ownerResumes.object.impl.running = false := by
        rw [hresumes]
        show (s.finishStop id).object.impl.running = false
        obtain ⟨hstopped, -⟩ := h.waited id howner
        unfold System.finishStop
        split <;> exact hstopped
      exact Or.inr ⟨hnone, (hkept.order hnone).idle hrun⟩

theorem handlerCalls_owner (i : ℕ) (env : StartEnv ν) (copy : Except StdException Unit) :
    (s.handlerCalls p i env copy).owner = s.owner := by
  unfold System.handlerCalls
  split
  · split
    · rfl
    · split <;> rfl
  · rfl

theorem handlerCalls_handlers_ne {i j : ℕ} (hij : i ≠ j) (env : StartEnv ν)
    (copy : Except StdException Unit) :
    (s.handlerCalls p i env copy).handlers[j]? = s.handlers[j]? := by
  unfold System.handlerCalls
  split
  · split
    · exact List.getElem?_set_ne hij
    · split
      · exact List.getElem?_set_ne hij
      · exact List.getElem?_set_ne hij
      · exact List.getElem?_set_ne hij
      · rfl
  · rfl

theorem handlerCalls_of_none {i : ℕ} (hx : s.handlers[i]? = none) (env : StartEnv ν)
    (copy : Except StdException Unit) : s.handlerCalls p i env copy = s := by
  simp [System.handlerCalls, hx]

/-- **One step while the owner is in `Stop`**: it ends with an idle object, or goes on with
the handlers there are, and the one whose step it is has fewer left. -/
theorem step_stopping (hp : p.HandsOff) (hm : p.Descends m) (h : Kept s)
    (hfollows : NoneStopping p s) (howner : s.owner = some id) (l : Label κ ν) :
    ((s.step p l).owner = none ∧ Idle (s.step p l).object.impl) ∨
    (s.step p l).owner = some id ∧ ∀ i x', (s.step p l).handlers[i]? = some x' →
      ∃ x, s.handlers[i]? = some x ∧
        x'.left m ≤ x.left m - (if l.isHandler i then 1 else 0) := by
  have hsame (he : s.step p l = s) (hl : ∀ i, l.isHandler i = false) :
      (s.step p l).owner = some id ∧ ∀ i x', (s.step p l).handlers[i]? = some x' →
        ∃ x, s.handlers[i]? = some x ∧
          x'.left m ≤ x.left m - (if l.isHandler i then 1 else 0) := by
    rw [he]
    refine ⟨howner, fun i x' hx' => ⟨x', hx', ?_⟩⟩
    rw [hl]
    exact Nat.le_refl _
  cases l with
  | owner op env copy =>
      refine Or.inr (hsame ?_ fun _ => rfl)
      simp [System.step, System.ownerCalls, howner]
  | ownerResumes =>
      rcases ownerResumes_idle h howner with ⟨he, -⟩ | hidle
      · exact Or.inr (hsame he fun _ => rfl)
      · exact Or.inl hidle
  | deliver n => exact Or.inr (hsame (deliver_of_stopping h howner n) fun _ => rfl)
  | handlerResumes i =>
      refine Or.inr (hsame ?_ fun _ => rfl)
      rw [System.step, System.handlerResumes]
      split
      · rename_i hx
        exact (hfollows _ (List.mem_of_getElem? hx)).elim
      · rfl
  | handler i env copy =>
      refine Or.inr ⟨(handlerCalls_owner i env copy).trans howner, fun j x' hx' => ?_⟩
      by_cases hij : i = j
      · subst hij
        cases hx : s.handlers[i]? with
        | none =>
            rw [System.step, handlerCalls_of_none hx, hx] at hx'
            cases hx'
        | some x =>
            refine ⟨x, rfl, ?_⟩
            rw [if_pos (by simp [Label.isHandler])]
            exact handlerCalls_left hp hm hfollows env copy hx hx'
      · rw [System.step, handlerCalls_handlers_ne hij] at hx'
        refine ⟨x', hx', ?_⟩
        rw [if_neg (by simp [Label.isHandler, hij])]
        exact Nat.le_refl _

/-- From a state in which the owner is in `Stop`, under a schedule with the steps the
handlers have left.  The induction is on the schedule. -/
theorem stop_returns (hp : p.HandsOff) (hm : p.Descends m) (h : Kept s)
    (hfollows : NoneStopping p s) (howner : s.owner = some id) (more : List (Label κ ν))
    (hfair : ∀ i x, s.handlers[i]? = some x → x.left m ≤ more.countP (Label.isHandler i)) :
    ∃ pre post, more ++ [.ownerResumes] = pre ++ post ∧
      ((interleaving p).runFrom s pre).owner = none ∧
      Idle ((interleaving p).runFrom s pre).object.impl := by
  induction more generalizing s with
  | nil =>
      have hquiet : s.busy id = false := by
        refine Bool.eq_false_iff.2 fun hbusy => ?_
        obtain ⟨x, hx, hactive⟩ := List.any_eq_true.1 hbusy
        obtain ⟨i, hi⟩ := List.getElem?_of_mem hx
        have hleft : x.left m = 0 := Nat.le_zero.1 (hfair i x hi)
        rw [inactive_of_left hleft, Bool.and_false] at hactive
        cases hactive
      rcases ownerResumes_idle h howner with ⟨-, hbusy⟩ | hidle
      · rw [hquiet] at hbusy
        cases hbusy
      · exact ⟨[.ownerResumes], [], rfl, hidle⟩
  | cons l more ih =>
      rcases step_stopping hp hm h hfollows howner l with hidle | ⟨howner', hhandlers⟩
      · exact ⟨[l], more ++ [.ownerResumes], rfl, hidle⟩
      · obtain ⟨pre, post, heq, hend⟩ := ih (h.step hp hfollows l)
          (hfollows.step hp.stopFree l) howner' fun i x' hx' => by
            obtain ⟨x, hx, hle⟩ := hhandlers i x' hx'
            have hcount := hfair i x hx
            rw [List.countP_cons] at hcount
            omega
        exact ⟨l :: pre, post, by rw [List.cons_append, heq]; rfl, hend⟩

end Steps

/-- **`Stop` returns.**  With a program that leaves starting and stopping to the owner and
whose runs end, from every state in which the owner is in `Stop`, and under every schedule
that gives each handler the steps it has left, whatever else happens in between: `Stop`
returns, and the object is idle then. -/
theorem interleaving_stopReturns {p : Program κ ν τ} {m : τ → ℕ} (hp : p.HandsOff)
    (hm : p.Descends m) (ls more : List (Label κ ν)) {id : Option ℕ}
    (howner : ((interleaving p).run ls).owner = some id)
    (hfair : ∀ i x, ((interleaving p).run ls).handlers[i]? = some x →
      x.left m ≤ more.countP (Label.isHandler i)) :
    ∃ pre post, more ++ [.ownerResumes] = pre ++ post ∧
      ((interleaving p).run (ls ++ pre)).owner = none ∧
      Idle ((interleaving p).run (ls ++ pre)).object.impl := by
  obtain ⟨hfollows, hkept⟩ := hp.keeps ls
  obtain ⟨pre, post, heq, hend⟩ := stop_returns hp hm hkept hfollows howner more hfair
  exact ⟨pre, post, heq, by rw [Machine.run_append]; exact hend⟩

/-- A list of operations gets shorter. -/
theorem straight_descends (table : κ → List (PublicOp κ)) :
    (straight table : Program κ ν (List (PublicOp κ))).Descends List.length := by
  intro t op k r hnext
  cases t with
  | nil => cases hnext
  | cons op' ops =>
      obtain ⟨-, rfl⟩ := Prod.mk.inj (Option.some.inj hnext)
      exact Nat.lt_succ_self _

/-- A callback that asks whether the object runs has two steps, and then `Stop` returns. -/
theorem interleaving_stopReturns_isRunning :
    ∃ pre post, [.handler 0 outOfMemory (.ok ()), .deliver (), .handler 0 outOfMemory (.ok ())] ++
        [.ownerResumes] = pre ++ post ∧
      ((interleaving (straight fun _ : Unit => [.isRunning])).run
        (overtaken () () ++ pre)).owner = none ∧
      Idle ((interleaving (straight fun _ : Unit => [.isRunning])).run
        (overtaken () () ++ pre)).object.impl :=
  interleaving_stopReturns
    (straight_handsOff fun _ op hm => by rw [List.mem_singleton.1 hm]; rfl)
    (straight_descends _) (overtaken () ()) _ rfl fun i x hx => by
      obtain ⟨rfl, rfl⟩ : i = 0 ∧ x = ⟨some 0, .running [.isRunning]⟩ := by
        cases i with
        | zero => exact ⟨rfl, (Option.some.inj hx).symm⟩
        | succ i => cases hx
      decide

end Deadlock
end Callback
end ClientSdk
