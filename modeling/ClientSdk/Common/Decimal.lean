/-
# What `std::stoi` accepts

`std::stoi` reads a number from the front of a string.  `Spelling` is the grammar
of what it accepts: white space, an optional sign, decimal digits, and a rest that
does not go on with a digit.  `stoi_ok_iff` says that it gives `v` for exactly the
strings that have a spelling of `v`, within `int`.

The decimal form `std::to_string` gives is one of the spellings, the one with
nothing around it (`stoi_toString`); there are others of every number, with blanks
in front, leading zeros, or any text behind.
-/

import ClientSdk.Common.Stoi

namespace ClientSdk
namespace Common

/-- The sign in front of a number. -/
inductive Sign where
  | none
  | plus
  | minus
deriving DecidableEq, Repr

/-- How a sign is written. -/
def Sign.toList : Sign → List Char
  | .none => []
  | .plus => ['+']
  | .minus => ['-']

/-- A run of digits below a sign. -/
def Sign.apply (sign : Sign) (n : ℕ) : ℤ := if sign = .minus then -n else n

/-- A number as `std::stoi` accepts it, and what it ignores around it. -/
structure Spelling where
  blanks : List Char
  sign : Sign
  digits : List Char
  rest : List Char
  blanks_isSpace : ∀ c ∈ blanks, isSpace c = true
  digits_ne_nil : digits ≠ []
  digits_isDigit : ∀ c ∈ digits, c.isDigit = true
  rest_not_digit : ∀ c ∈ rest.head?, c.isDigit = false

namespace Spelling

/-- The text. -/
def toList (p : Spelling) : List Char := p.blanks ++ (p.sign.toList ++ (p.digits ++ p.rest))

/-- The number. -/
def value (p : Spelling) : ℤ := p.sign.apply (digitsValue p.digits)

end Spelling

/-! ### Reading a spelling -/

theorem not_isSpace_of_isDigit {c : Char} (h : c.isDigit = true) : isSpace c = false := by
  have hlow : 48 ≤ c.toNat := (Char.isDigit_iff_toNat.1 h).1
  simp only [isSpace, Bool.or_eq_false_iff, Bool.and_eq_false_iff, decide_eq_false_iff_not]
  omega

theorem takeWhile_eq_nil {p : Char → Bool} {cs : List Char} (h : ∀ c ∈ cs.head?, p c = false) :
    cs.takeWhile p = [] := by
  cases cs with
  | nil => rfl
  | cons c cs => simp [h c rfl]

theorem dropWhile_eq_self {p : Char → Bool} {cs : List Char} (h : ∀ c ∈ cs.head?, p c = false) :
    cs.dropWhile p = cs := by
  cases cs with
  | nil => rfl
  | cons c cs => simp [h c rfl]

/-- A sign is split off digits. -/
theorem splitSign_append {c : Char} (h : c.isDigit = true) (sign : Sign) (cs : List Char) :
    splitSign (sign.toList ++ c :: cs) = (decide (sign = .minus), c :: cs) := by
  cases sign with
  | plus => rfl
  | minus => rfl
  | none =>
      have hminus : c ≠ '-' := by
        rintro rfl
        cases h
      have hplus : c ≠ '+' := by
        rintro rfl
        cases h
      simp [splitSign, Sign.toList, hminus, hplus]

/-- Whatever is split is a sign and what follows it. -/
theorem exists_splitSign (cs : List Char) :
    ∃ (sign : Sign) (cs' : List Char), splitSign cs = (decide (sign = .minus), cs') ∧
      cs = sign.toList ++ cs' := by
  unfold splitSign
  split
  · exact ⟨.minus, _, rfl, rfl⟩
  · exact ⟨.plus, _, rfl, rfl⟩
  · exact ⟨.none, _, rfl, rfl⟩

/-- **A spelling is read as its number.** -/
theorem Spelling.decimalPrefix_toList (p : Spelling) :
    decimalPrefix p.toList = some p.value := by
  obtain ⟨c, cs, hdigits⟩ := List.exists_cons_of_ne_nil p.digits_ne_nil
  have hc : c.isDigit = true := p.digits_isDigit c (by rw [hdigits]; exact List.mem_cons_self)
  have hhead : ∀ d ∈ (p.sign.toList ++ (p.digits ++ p.rest)).head?, isSpace d = false := by
    intro d hd
    rw [hdigits] at hd
    cases hs : p.sign <;> rw [hs] at hd <;> obtain rfl := Option.some.inj hd
    · exact not_isSpace_of_isDigit hc
    · rfl
    · rfl
  have hskip : p.toList.dropWhile isSpace = p.sign.toList ++ (p.digits ++ p.rest) := by
    rw [Spelling.toList, List.dropWhile_append_of_pos p.blanks_isSpace, dropWhile_eq_self hhead]
  have hsplit : splitSign (p.sign.toList ++ (p.digits ++ p.rest)) =
      (decide (p.sign = .minus), p.digits ++ p.rest) := by
    rw [hdigits]
    exact splitSign_append hc p.sign (cs ++ p.rest)
  have htake : (p.digits ++ p.rest).takeWhile Char.isDigit = p.digits := by
    rw [List.takeWhile_append_of_pos p.digits_isDigit, takeWhile_eq_nil p.rest_not_digit,
      List.append_nil]
  simp [decimalPrefix, hskip, hsplit, htake, p.digits_ne_nil, Spelling.value, Sign.apply]

/-- **Whatever is read has a spelling.** -/
theorem exists_spelling {cs : List Char} {v : ℤ} (h : decimalPrefix cs = some v) :
    ∃ p : Spelling, p.toList = cs ∧ p.value = v := by
  obtain ⟨sign, cs', hsplit, hsign⟩ := exists_splitSign (cs.dropWhile isSpace)
  have hne : cs'.takeWhile Char.isDigit ≠ [] := by
    intro hnil
    simp [decimalPrefix, hsplit, hnil] at h
  refine ⟨⟨cs.takeWhile isSpace, sign, cs'.takeWhile Char.isDigit, cs'.dropWhile Char.isDigit,
    fun c hc => ?_, hne, fun c hc => ?_, fun c hc => ?_⟩, ?_, ?_⟩
  · exact List.all_eq_true.1 List.all_takeWhile c hc
  · exact List.all_eq_true.1 List.all_takeWhile c hc
  · have hnot := List.head?_dropWhile_not Char.isDigit cs'
    rw [Option.mem_def.1 hc] at hnot
    simpa using hnot
  · rw [Spelling.toList, List.takeWhile_append_dropWhile, ← hsign,
      List.takeWhile_append_dropWhile]
  · simpa [decimalPrefix, hsplit, hne, Spelling.value, Sign.apply] using h

/-- **What `std::stoi` accepts.** -/
theorem stoi_ok_iff {s : String} {v : ℤ} :
    stoi s = .ok v ↔
      (∃ p : Spelling, p.toList = s.toList ∧ p.value = v) ∧ intMin ≤ v ∧ v ≤ intMax := by
  constructor
  · intro h
    refine ⟨?_, stoi_mem_int h⟩
    cases hd : decimalPrefix s.toList with
    | none => simp [stoi, hd] at h
    | some v' =>
        have hv := stoi_mem_int h
        simp only [stoi, hd] at h
        split at h
        · obtain rfl := Except.ok.inj h
          exact exists_spelling hd
        · cases h
  · rintro ⟨⟨p, hp, rfl⟩, hv⟩
    have hd : decimalPrefix s.toList = some p.value := by rw [← hp, p.decimalPrefix_toList]
    simp [stoi, hd, hv]

/-! ### The decimal form -/

/-- The digits of a number are read back. -/
theorem digitsValue_toDigits (n : ℕ) : digitsValue (Nat.toDigits 10 n) = n :=
  Nat.ofDigitChars_ten_toDigits

/-- A number spelled by its digits alone. -/
def Spelling.ofNat (sign : Sign) (n : ℕ) : Spelling where
  blanks := []
  sign := sign
  digits := Nat.toDigits 10 n
  rest := []
  blanks_isSpace := nofun
  digits_ne_nil := Nat.toDigits_ne_nil
  digits_isDigit _ hc := Nat.isDigit_of_mem_toDigits (by decide) (by decide) hc
  rest_not_digit := nofun

/-- The decimal form of an integer is a spelling of it. -/
theorem exists_spelling_toString (v : ℤ) :
    ∃ p : Spelling, p.toList = (toString v).toList ∧ p.value = v := by
  cases v with
  | ofNat n =>
      refine ⟨.ofNat .none n, ?_, ?_⟩
      · simp [Spelling.toList, Spelling.ofNat, Sign.toList, toString, Int.repr]
      · simp [Spelling.value, Spelling.ofNat, Sign.apply, digitsValue_toDigits]
  | negSucc n =>
      refine ⟨.ofNat .minus (n + 1), ?_, ?_⟩
      · simp [Spelling.toList, Spelling.ofNat, Sign.toList, toString, Int.repr]
      · simp [Spelling.value, Spelling.ofNat, Sign.apply, digitsValue_toDigits, Int.negSucc_eq]

/-- **`std::stoi` reads back what `std::to_string` gives.** -/
theorem stoi_toString {v : ℤ} (h : intMin ≤ v ∧ v ≤ intMax) : stoi (toString v) = .ok v :=
  stoi_ok_iff.2 ⟨exists_spelling_toString v, h⟩

end Common
end ClientSdk
