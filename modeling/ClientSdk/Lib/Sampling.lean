/-
# Samples at regular instants

Something is looked at every `step` from `start` on, as long as the instant is
before `bound`.  What holds from an instant `r` on is seen exactly if the last look
is not before `r`.
-/

import Mathlib.Data.Int.Notation
import Mathlib.Data.Nat.Notation
import Mathlib.Order.Bounds.Basic

namespace ClientSdk
namespace Lib

/-- The instant `t` is one of the looks. -/
def Sampled (start step bound t : ℤ) : Prop := t < bound ∧ ∃ k : ℕ, t = start + k * step

/-- The last look there is, if there is one. -/
def lastSample (start step bound : ℤ) : ℤ := start + (bound - start - 1) / step * step

variable {start step bound t r : ℤ}

/-- The first look is at the start, and the others are those from one step on. -/
theorem sampled_iff (hstep : 0 < step) :
    Sampled start step bound t ↔
      start < bound ∧ (t = start ∨ Sampled (start + step) step bound t) := by
  constructor
  · rintro ⟨hlt, k, rfl⟩
    cases k with
    | zero =>
        have hzero : start + (0 : ℕ) * step = start := by simp
        rw [hzero] at hlt ⊢
        exact ⟨hlt, Or.inl rfl⟩
    | succ k =>
        have hnonneg : 0 ≤ (k : ℤ) * step := Int.mul_nonneg (by omega) hstep.le
        have hshift : start + ((k + 1 : ℕ) : ℤ) * step = start + step + k * step := by
          rw [Int.natCast_add, Int.natCast_one, Int.add_mul]
          omega
        rw [hshift] at hlt ⊢
        exact ⟨by omega, Or.inr ⟨hlt, k, rfl⟩⟩
  · rintro ⟨hlt, rfl | ⟨hlt', k, rfl⟩⟩
    · exact ⟨hlt, 0, by simp⟩
    · refine ⟨hlt', k + 1, ?_⟩
      rw [Int.natCast_add, Int.natCast_one, Int.add_mul]
      omega

theorem not_sampled (hstep : 0 < step) (h : bound ≤ start) : ¬ Sampled start step bound t := by
  rw [sampled_iff hstep]
  rintro ⟨hlt, -⟩
  omega

/-- The last look is one. -/
theorem sampled_lastSample (hstep : 0 < step) (h : start < bound) :
    Sampled start step bound (lastSample start step bound) := by
  have hdiv : (bound - start - 1) / step * step + (bound - start - 1) % step =
      bound - start - 1 := Int.ediv_mul_add_emod ..
  have hnonneg := Int.emod_nonneg (bound - start - 1) hstep.ne'
  have hquot : 0 ≤ (bound - start - 1) / step := Int.ediv_nonneg (by omega) hstep.le
  refine ⟨?_, ((bound - start - 1) / step).toNat, ?_⟩
  · unfold lastSample
    omega
  · rw [Int.toNat_of_nonneg hquot]
    rfl

/-- No look comes after it. -/
theorem Sampled.le_lastSample (hstep : 0 < step) (h : Sampled start step bound t) :
    t ≤ lastSample start step bound := by
  obtain ⟨hlt, k, rfl⟩ := h
  have hk : (k : ℤ) ≤ (bound - start - 1) / step := by
    rw [Int.le_ediv_iff_mul_le hstep]
    omega
  have hmul : (k : ℤ) * step ≤ (bound - start - 1) / step * step :=
    Int.mul_le_mul_of_nonneg_right hk hstep.le
  unfold lastSample
  omega

/-- The last look is less than a step before the bound. -/
theorem lastSample_margin (hstep : 0 < step) : bound - step ≤ lastSample start step bound := by
  have hdiv : (bound - start - 1) / step * step + (bound - start - 1) % step =
      bound - start - 1 := Int.ediv_mul_add_emod ..
  have hlt := Int.emod_lt_of_pos (bound - start - 1) hstep
  unfold lastSample
  omega

/-- The last look is the greatest one. -/
theorem isGreatest_sampled (hstep : 0 < step) (h : start < bound) :
    IsGreatest {t | Sampled start step bound t} (lastSample start step bound) :=
  ⟨sampled_lastSample hstep h, fun _ ht => ht.le_lastSample hstep⟩

/-- The look `t` is the first that finds `p`. -/
def FirstSampled (start step bound : ℤ) (p : ℤ → Prop) (t : ℤ) : Prop :=
  Sampled start step bound t ∧ p t ∧ ∀ t' < t, Sampled start step bound t' → ¬ p t'

theorem Sampled.start_le (hstep : 0 < step) (h : Sampled start step bound t) : start ≤ t := by
  obtain ⟨-, k, rfl⟩ := h
  have hnonneg : 0 ≤ (k : ℤ) * step := Int.mul_nonneg (by omega) hstep.le
  omega

/-- The first look finds it, or the first of the others that does. -/
theorem firstSampled_iff (hstep : 0 < step) {p : ℤ → Prop} :
    FirstSampled start step bound p t ↔
      start < bound ∧ (p start ∧ t = start ∨
        ¬ p start ∧ FirstSampled (start + step) step bound p t) := by
  constructor
  · rintro ⟨hs, hp, hfirst⟩
    obtain ⟨hlt, rfl | hs'⟩ := (sampled_iff hstep).1 hs
    · exact ⟨hlt, Or.inl ⟨hp, rfl⟩⟩
    · have hstart : start < t := by
        have hle := hs'.start_le hstep
        omega
      refine ⟨hlt, Or.inr ⟨?_, hs', hp, fun t' ht' hs'' => ?_⟩⟩
      · exact hfirst start hstart ((sampled_iff hstep).2 ⟨hlt, Or.inl rfl⟩)
      · exact hfirst t' ht' ((sampled_iff hstep).2 ⟨hlt, Or.inr hs''⟩)
  · rintro ⟨hlt, ⟨hp, rfl⟩ | ⟨hnot, hs, hp, hfirst⟩⟩
    · refine ⟨(sampled_iff hstep).2 ⟨hlt, Or.inl rfl⟩, hp, fun t' ht' hs' => ?_⟩
      have hle := hs'.start_le hstep
      omega
    · refine ⟨(sampled_iff hstep).2 ⟨hlt, Or.inr hs⟩, hp, fun t' ht' hs' => ?_⟩
      obtain ⟨-, rfl | hs''⟩ := (sampled_iff hstep).1 hs'
      · exact hnot
      · exact hfirst t' ht' hs''

theorem FirstSampled.unique {p : ℤ → Prop} {t' : ℤ} (h : FirstSampled start step bound p t)
    (h' : FirstSampled start step bound p t') : t = t' := by
  by_contra hne
  rcases Int.lt_or_gt_of_ne hne with hlt | hlt
  · exact h'.2.2 t hlt h.1 h.2.1
  · exact h.2.2 t' hlt h'.1 h'.2.1

/-- **What holds from `r` on is seen** exactly if the last of the looks is not before
`r`, unless it was seen before. -/
theorem exists_seen_iff {looks : Set ℤ} {last : ℤ} {p : ℤ → Prop}
    (hlast : IsGreatest looks last) (hp : ∀ t, r ≤ t → p t) :
    (∃ t ∈ looks, p t) ↔ r ≤ last ∨ ∃ t < r, t ∈ looks ∧ p t := by
  obtain ⟨hmem, hle⟩ := hlast
  constructor
  · rintro ⟨t, ht, hpt⟩
    by_cases hr : r ≤ t
    · exact Or.inl (hr.trans (hle ht))
    · exact Or.inr ⟨t, Int.not_le.1 hr, ht, hpt⟩
  · rintro (hr | ⟨t, -, ht, hpt⟩)
    · exact ⟨last, hmem, hp last hr⟩
    · exact ⟨t, ht, hpt⟩

end Lib
end ClientSdk
