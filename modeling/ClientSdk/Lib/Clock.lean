/-
# Operations under deadlines

Operations that take time, and an adversary who says how much: a `Clock` tells when the
`n`-th of them ends, from when it begins and the deadline it is under, if there is one.
A clock is in time if no operation ends before it begins, or after its deadline unless
it began there.

* operations under deadlines no later than `d` are over at `d`, or at once
  (`Stopwatch.through_le`);
* an operation under no deadline can be made to last (`Stopwatch.through_lasting`);
* over a run whose steps each take no more than their allowance, a clock advances by no
  more than all of them together (`Machine.run_le_add`).
-/

import ClientSdk.Lib.Machine
import Mathlib.Order.Lattice

namespace ClientSdk
namespace Lib

/-- When the `n`-th operation ends, from its deadline and when it begins. -/
abbrev Clock := ℕ → Option ℤ → ℤ → ℤ

/-- No operation ends before it begins, or later than at its deadline, however early that
is, unless it began later. -/
structure Clock.InTime (clock : Clock) : Prop where
  forward : ∀ n deadline now, now ≤ clock n deadline now
  inTime : ∀ n deadline now, clock n (some deadline) now ≤ max now deadline

/-- The instant, and how many operations there were so far. -/
structure Stopwatch where
  now : ℤ
  made : ℕ := 0

namespace Stopwatch

variable {clock : Clock} {w : Stopwatch}

/-- After one operation. -/
def tick (clock : Clock) (w : Stopwatch) (deadline : Option ℤ) : Stopwatch :=
  ⟨clock w.made deadline w.now, w.made + 1⟩

/-- After operations under the deadlines `ds`, one after the other. -/
def through (clock : Clock) (ds : List (Option ℤ)) (w : Stopwatch) : Stopwatch :=
  ds.foldl (tick clock) w

theorem le_through (h : clock.InTime) (ds : List (Option ℤ)) :
    w.now ≤ (w.through clock ds).now := by
  induction ds generalizing w with
  | nil => exact Int.le_refl _
  | cons d ds ih => exact Int.le_trans (h.forward w.made d w.now) ih

/-- **Operations under one deadline** are over by then, or at once. -/
theorem through_le (h : clock.InTime) {d : ℤ} {ds : List (Option ℤ)}
    (hds : ∀ d' ∈ ds, d' = some d) :
    (w.through clock ds).now ≤ max w.now d := by
  induction ds generalizing w with
  | nil => exact Int.le_max_left _ _
  | cons d' ds ih =>
      obtain rfl : d' = some d := hds _ List.mem_cons_self
      have hrest := ih (w := w.tick clock (some d)) fun d' h' =>
        hds d' (List.mem_cons_of_mem _ h')
      have hfirst : (w.tick clock (some d)).now ≤ max w.now d := h.inTime w.made d w.now
      have hafter : (w.through clock (some d :: ds)).now =
          ((w.tick clock (some d)).through clock ds).now := rfl
      omega

/-- Nothing takes time but what is under no deadline, and that lasts until `limit` is
over. -/
def lasting (limit : ℤ) : Clock
  | _, none, now => max now (limit + 1)
  | _, some _, now => now

theorem inTime_lasting (limit : ℤ) : (lasting limit).InTime where
  forward n deadline now := by
    cases deadline with
    | none => exact Int.le_max_left _ _
    | some d => exact Int.le_refl _
  inTime n deadline now := Int.le_max_left _ _

/-- **An operation under no deadline has no limit.** -/
theorem through_lasting (limit : ℤ) : limit < (w.through (lasting limit) [none]).now :=
  Int.lt_of_lt_of_le (Int.lt_succ limit) (Int.le_max_right _ _)

end Stopwatch

namespace Machine

variable {σ α : Type*} {M : Machine σ α}

/-- **The allowance rule.**  Under an invariant, let each step advance the clock reading
by its allowance at most.  Then a run advances it by all of them at most. -/
theorem run_le_add {I : σ → Prop} (now : σ → ℤ) {allowance : α → ℤ} (h0 : I M.init)
    (hs : ∀ s a, I s → I (M.next s a)) (as : List α)
    (h : M.EveryStep (fun s a s' => I s → now s' ≤ now s + allowance a) as) :
    now (M.run as) ≤ (as.map allowance).foldl (· + ·) (now M.init) := by
  induction as using List.reverseRecOn with
  | nil => exact Int.le_refl _
  | append_singleton as a ih =>
      obtain ⟨hbefore, hlast⟩ := everyStep_concat.1 h
      have hstep := hlast (run_invariant h0 hs as)
      have hrun := ih hbefore
      rw [run_concat, List.map_append, List.foldl_append]
      exact hstep.trans (Int.add_le_add_right hrun _)

/-- A clock reading that no step sets back is not set back by a run. -/
theorem le_runFrom (now : σ → ℤ) (h : ∀ s a, now s ≤ now (M.next s a)) (s : σ) (as : List α) :
    now s ≤ now (M.runFrom s as) := by
  induction as generalizing s with
  | nil => exact Int.le_refl _
  | cons a as ih => exact Int.le_trans (h s a) (ih _)

end Machine

end Lib
end ClientSdk
