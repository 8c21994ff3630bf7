/-
# `std::stoi`

The SDK reads the code of a response and the numbers of its configuration with
`std::stoi`: skip white space, take an optional sign and the longest run of
decimal digits, ignore the rest.  Without a digit it raises
`std::invalid_argument`; a value outside `int` raises `std::out_of_range`.
-/

import ClientSdk.Common.Status

namespace ClientSdk
namespace Common

/-- `isspace` in the C locale: blank, and tab to carriage return. -/
def isSpace (c : Char) : Bool := c.toNat = 32 || (9 ≤ c.toNat && c.toNat ≤ 13)

/-- The value of a run of decimal digits. -/
def digitsValue (ds : List Char) : ℕ := ds.foldl (fun n c => 10 * n + (c.toNat - 48)) 0

/-- The least and the greatest `int`. -/
def intMin : ℤ := -2147483648

@[inherit_doc intMin] def intMax : ℤ := 2147483647

/-- The optional sign in front of the digits: whether it is a minus, and what
follows it. -/
def splitSign : List Char → Bool × List Char
  | '-' :: cs => (true, cs)
  | '+' :: cs => (false, cs)
  | cs => (false, cs)

/-- What `strtol` reads in base ten: `none` if there is no digit to read. -/
def decimalPrefix (cs : List Char) : Option ℤ :=
  let (negative, rest) := splitSign (cs.dropWhile isSpace)
  let digits := rest.takeWhile Char.isDigit
  if digits = [] then none
  else some (if negative then -digitsValue digits else digitsValue digits)

/-- `std::stoi(s)`. -/
def stoi (s : String) : Except StdException ℤ :=
  match decimalPrefix s.toList with
  | none => .error (.invalidArgument "stoi")
  | some value =>
      if intMin ≤ value ∧ value ≤ intMax then .ok value else .error (.outOfRange "stoi")

/-- **`std::stoi` stays in `int`.** -/
theorem stoi_mem_int {s : String} {v : ℤ} (h : stoi s = .ok v) : intMin ≤ v ∧ v ≤ intMax := by
  unfold stoi at h
  split at h
  · cases h
  · split at h
    · rename_i hv
      cases h
      exact hv
    · cases h

/-- Trailing text is ignored, and a value outside `int` is not read. -/
example : stoi " -12abc" = .ok (-12) ∧ stoi "0x10" = .ok 0 ∧
    stoi "2147483648" = .error (.outOfRange "stoi") ∧
    stoi "abc" = .error (.invalidArgument "stoi") := ⟨rfl, rfl, rfl, rfl⟩

end Common
end ClientSdk
