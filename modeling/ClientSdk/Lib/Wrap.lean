/-
# Wrap-around

Arithmetic modulo `m` on the residues around zero: a result that does not fit
loses a multiple of `m`, which of them is counted by `laps`.  Where nothing is
lost the result is exact, and two results stand in the order of the exact ones
exactly if the distance of these covers what is lost between them.
-/

import Mathlib.Data.Int.Notation
import Mathlib.Data.Nat.Notation

namespace ClientSdk
namespace Lib

/-- `x` is one of the residues around zero. -/
def Fits (m : ℕ) (x : ℤ) : Prop := -(m : ℤ) ≤ 2 * x ∧ 2 * x < m

instance (m : ℕ) (x : ℤ) : Decidable (Fits m x) := inferInstanceAs (Decidable (_ ∧ _))

/-- How often `m` is lost when `x` wraps around. -/
def laps (m : ℕ) (x : ℤ) : ℤ := (2 * x + m) / (2 * m)

variable {m : ℕ} {x y : ℤ}

/-- What is left of `x` fits. -/
theorem fits_sub_laps (hm : 0 < m) (x : ℤ) : Fits m (x - m * laps m x) := by
  have hpos : (0 : ℤ) < 2 * m := by omega
  have hdiv : 2 * (m : ℤ) * laps m x + (2 * x + m) % (2 * m) = 2 * x + m :=
    Int.mul_ediv_add_emod ..
  rw [Int.mul_assoc] at hdiv
  have hnonneg := Int.emod_nonneg (2 * x + m) (Int.ne_of_gt hpos)
  have hlt := Int.emod_lt_of_pos (2 * x + m) hpos
  constructor <;> omega

/-- **What is left of `x`.** -/
theorem bmod_eq_sub_laps (hm : 0 < m) (x : ℤ) : x.bmod m = x - m * laps m x := by
  obtain ⟨hlow, hhigh⟩ := fits_sub_laps hm x
  have hleft : (x - m * laps m x).bmod m = x - m * laps m x :=
    Int.bmod_eq_of_le_mul_two (by omega) (by omega)
  rw [← hleft, Int.sub_mul_bmod_self_left]

/-- Nothing is lost of what fits, and of nothing else. -/
theorem laps_eq_zero_iff (hm : 0 < m) : laps m x = 0 ↔ Fits m x := by
  have hpos : (0 : ℤ) < 2 * m := by omega
  constructor
  · intro h
    simpa [h] using fits_sub_laps hm x
  · rintro ⟨hlow, hhigh⟩
    exact Int.ediv_eq_zero_of_lt (by omega) (by omega)

/-- **The result is exact** exactly if it fits. -/
theorem bmod_eq_self_iff (hm : 0 < m) : x.bmod m = x ↔ Fits m x := by
  rw [← laps_eq_zero_iff hm, bmod_eq_sub_laps hm]
  have hne : (m : ℤ) ≠ 0 := by omega
  constructor
  · intro h
    have hzero : (m : ℤ) * laps m x = 0 := by omega
    exact (Int.mul_eq_zero.1 hzero).resolve_left hne
  · intro h
    rw [h]
    omega

/-- Every result fits. -/
theorem fits_bmod (hm : 0 < m) (x : ℤ) : Fits m (x.bmod m) := by
  rw [bmod_eq_sub_laps hm]
  exact fits_sub_laps hm x

/-- **The order of two results.**  It is that of the exact ones exactly if their
distance covers what is lost between them. -/
theorem bmod_le_bmod_iff (hm : 0 < m) :
    x.bmod m ≤ y.bmod m ↔ m * (laps m y - laps m x) ≤ y - x := by
  rw [bmod_eq_sub_laps hm, bmod_eq_sub_laps hm, Int.mul_sub]
  constructor <;> intro h <;> omega

end Lib
end ClientSdk
