/-
# Pools of threads

A pool is the list of the threads there are, each with its own state; its
number in the list is the thread's name.  A step of one thread sets its entry,
and a new thread is put at the end.
-/

import Mathlib.Data.List.Basic

namespace ClientSdk
namespace Lib

variable {α : Type*} {l : List α} {i j : ℕ} {old new x : α}

/-- After a step of thread `i`, what a thread `j` is at. -/
theorem pool_set_iff (h : l[i]? = some old) :
    (l.set i new)[j]? = some x ↔ (j = i ∧ x = new) ∨ (j ≠ i ∧ l[j]? = some x) := by
  have hi : i < l.length := (List.getElem?_eq_some_iff.1 h).1
  rw [List.getElem?_set]
  by_cases hij : i = j
  · subst hij
    simp [hi, eq_comm]
  · have hji : j ≠ i := fun h => hij h.symm
    simp [hij, hji]

/-- With a new thread, what a thread `j` is at. -/
theorem pool_spawn_iff :
    (l ++ [new])[j]? = some x ↔ (j = l.length ∧ x = new) ∨ l[j]? = some x := by
  rw [List.getElem?_append]
  by_cases hj : j < l.length
  · have hne : j ≠ l.length := by omega
    simp [hj, hne]
  · have hnone : l[j]? = none := List.getElem?_eq_none (by omega)
    rw [if_neg hj, hnone]
    by_cases hlen : j = l.length
    · subst hlen
      simp [eq_comm]
    · obtain ⟨k, hk⟩ : ∃ k, j - l.length = k + 1 := ⟨j - l.length - 1, by omega⟩
      simp [hlen, hk]

/-- The threads there are are the ones numbered below the length. -/
theorem lt_of_pool (h : l[i]? = some x) : i < l.length := (List.getElem?_eq_some_iff.1 h).1

end Lib
end ClientSdk
