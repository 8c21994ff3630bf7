/-
# Services asked over a network that loses things

A service keeps a state and answers requests from it, one after the other
(`Service.after`, `Service.answers`).  Services under many addresses are one service
whose requests carry an address (`Service.each`), and each address keeps the state its
own requests lead to (`Service.after_each`).

On its way a request may be lost, and so may its answer (`Fate`).  A log of attempts
says what was asked for and what became of it; what arrived is a part of what was
asked for, in its order, and what was answered is a part of what arrived
(`arrived_sublist`, `answered_sublist`).

A service that answers like another, step by step and under a relation of their
states, answers like it over every list of requests (`Service.answers_eq`).
-/

import Mathlib.Data.List.Basic
import Mathlib.Logic.Function.Basic

namespace ClientSdk
namespace Lib

variable {σ τ ι Q Q' A : Type*}

/-- What a request makes of the state of a service, and its answer. -/
structure Service (σ Q A : Type*) where
  serve : σ → Q → σ × A

namespace Service

/-- The answers to the requests `qs`, in order, from the state `s`. -/
def answers (S : Service σ Q A) : σ → List Q → List A
  | _, [] => []
  | s, q :: qs => (S.serve s q).2 :: S.answers (S.serve s q).1 qs

variable (S : Service σ Q A)

/-- The state after the requests `qs`, in order, from the state `s`. -/
def after (s : σ) (qs : List Q) : σ := qs.foldl (fun s q => (S.serve s q).1) s

@[simp] theorem after_nil (s : σ) : S.after s [] = s := rfl

@[simp] theorem after_cons (s : σ) (q : Q) (qs : List Q) :
    S.after s (q :: qs) = S.after (S.serve s q).1 qs := rfl

theorem after_append (s : σ) (qs rs : List Q) :
    S.after s (qs ++ rs) = S.after (S.after s qs) rs := List.foldl_append

theorem answers_append (s : σ) (qs rs : List Q) :
    S.answers s (qs ++ rs) = S.answers s qs ++ S.answers (S.after s qs) rs := by
  induction qs generalizing s with
  | nil => rfl
  | cons q qs ih =>
      rw [List.cons_append, answers, answers, ih]
      rfl

/-! ### Addresses -/

/-- The service of many, each under an address. -/
def each [DecidableEq ι] : Service (ι → σ) (ι × Q) A where
  serve states q :=
    (Function.update states q.1 (S.serve (states q.1) q.2).1, (S.serve (states q.1) q.2).2)

/-- The requests to the address `i`. -/
def addressed [DecidableEq ι] (i : ι) (qs : List (ι × Q)) : List Q :=
  qs.filterMap fun q => if q.1 = i then some q.2 else none

/-- **Addresses do not disturb each other.**  Each keeps the state its own requests
lead to. -/
theorem after_each [DecidableEq ι] (states : ι → σ) (qs : List (ι × Q)) (i : ι) :
    S.each.after states qs i = S.after (states i) (addressed i qs) := by
  induction qs generalizing states with
  | nil => rfl
  | cons q qs ih =>
      rw [after_cons, ih]
      by_cases h : q.1 = i
      · subst h
        simp [Service.each, addressed]
      · have hne : i ≠ q.1 := fun he => h he.symm
        simp [Service.each, addressed, h, hne]

/-! ### Simulation -/

variable {S} {T : Service τ Q' A}

/-- **The simulation rule.**  Let the answers to admissible requests agree and the
states stay related.  Then so they do over every list of them. -/
theorem answers_eq {g : Q → Q'} {Rel : σ → τ → Prop} {admissible : Q → Prop}
    (h : ∀ s t q, Rel s t → admissible q →
      (S.serve s q).2 = (T.serve t (g q)).2 ∧ Rel (S.serve s q).1 (T.serve t (g q)).1)
    {s : σ} {t : τ} (hst : Rel s t) (qs : List Q) (hqs : ∀ q ∈ qs, admissible q) :
    S.answers s qs = T.answers t (qs.map g) ∧
      Rel (S.after s qs) (T.after t (qs.map g)) := by
  induction qs generalizing s t with
  | nil => exact ⟨rfl, hst⟩
  | cons q qs ih =>
      obtain ⟨hanswer, hrel⟩ := h s t q hst (hqs q List.mem_cons_self)
      obtain ⟨hanswers, hafter⟩ := ih hrel fun r hr => hqs r (List.mem_cons_of_mem q hr)
      refine ⟨?_, hafter⟩
      rw [List.map_cons, answers, answers, hanswer, hanswers]

end Service

/-! ### What becomes of a request -/

/-- What becomes of a request and its answer on the way. -/
inductive Fate where
  /-- The request does not arrive. -/
  | lost
  /-- The request arrives, its answer does not. -/
  | unanswered
  /-- The request and its answer arrive. -/
  | answered
deriving DecidableEq, Repr

/-- The request arrives. -/
def Fate.arrives (fate : Fate) : Bool := decide (fate ≠ .lost)

/-- A request that was made once, and what became of it. -/
structure Attempt (Q : Type*) where
  request : Q
  fate : Fate

/-- The requests of a log that arrived. -/
def arrived (log : List (Attempt Q)) : List Q :=
  (log.filter fun x => x.fate.arrives).map Attempt.request

/-- The requests of a log that were answered. -/
def answered (log : List (Attempt Q)) : List Q :=
  (log.filter fun x => x.fate == .answered).map Attempt.request

/-- **Nothing arrives that was not asked for**, or twice, or out of order. -/
theorem arrived_sublist (log : List (Attempt Q)) :
    (arrived log).Sublist (log.map Attempt.request) :=
  List.filter_sublist.map Attempt.request

/-- **Nothing is answered that did not arrive.** -/
theorem answered_sublist (log : List (Attempt Q)) : (answered log).Sublist (arrived log) := by
  refine List.Sublist.map Attempt.request ?_
  have hsub : (log.filter fun x => x.fate == .answered) =
      (log.filter fun x => x.fate.arrives).filter fun x => x.fate == .answered := by
    rw [List.filter_filter]
    refine List.filter_congr fun x _ => ?_
    cases x.fate <;> rfl
  rw [hsub]
  exact List.filter_sublist

end Lib
end ClientSdk
