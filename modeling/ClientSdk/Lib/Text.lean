/-
# Parts of a text

What a text ends in, which parts stand in it one after the other, and that the last of
a separator splits it in one way only.
-/

import Mathlib.Data.List.Basic

namespace ClientSdk
namespace Lib

/-- `text` ends in `tail`. -/
def EndsIn (text tail : String) : Prop := ∃ front, text = front ++ tail

/-- The parts `ps` stand in `text` in this order, none of them overlapping the next,
and `text` ends in `tail` after the last of them. -/
def InOrder : List String → String → String → Prop
  | [], tail, text => EndsIn text tail
  | p :: ps, tail, text => ∃ front rest, text = front ++ p ++ rest ∧ InOrder ps tail rest

variable {text text' tail p : String} {ps : List String}

theorem EndsIn.refl (text : String) : EndsIn text text := ⟨"", String.empty_append.symm⟩

/-- A text ends in whatever the text it ends in ends in. -/
theorem EndsIn.trans (h : EndsIn text text') (h' : EndsIn text' tail) : EndsIn text tail := by
  obtain ⟨front, rfl⟩ := h
  obtain ⟨front', rfl⟩ := h'
  exact ⟨front ++ front', String.append_assoc.symm⟩

theorem endsIn_append (front tail : String) : EndsIn (front ++ tail) tail := ⟨front, rfl⟩

/-- Parts that stand in order at the end of a text stand in order in it. -/
theorem InOrder.of_endsIn (h : InOrder ps tail text') (he : EndsIn text text') :
    InOrder ps tail text := by
  cases ps with
  | nil => exact he.trans h
  | cons p ps =>
      obtain ⟨front, rest, rfl, hrest⟩ := h
      obtain ⟨front', rfl⟩ := he
      exact ⟨front' ++ front, rest, by simp only [String.append_assoc], hrest⟩

/-- One more part in front. -/
theorem InOrder.cons (h : InOrder ps tail text') (he : EndsIn text text') (p : String) :
    InOrder (p :: ps) tail (p ++ text) :=
  ⟨"", text, by rw [String.empty_append], h.of_endsIn he⟩

/-- **A text is split at the last of a separator in one way.** -/
theorem append_separator_inj {α : Type*} {c : α} {front front' rest rest' : List α}
    (hrest : c ∉ rest) (hrest' : c ∉ rest')
    (h : front ++ c :: rest = front' ++ c :: rest') : front = front' ∧ rest = rest' := by
  rcases List.append_eq_append_iff.1 h with ⟨more, rfl, hmore⟩ | ⟨more, rfl, hmore⟩
  · cases more with
    | nil => simpa using hmore
    | cons a more =>
        obtain ⟨rfl, rfl⟩ := List.cons.inj hmore
        exact absurd (by simp) hrest
  · cases more with
    | nil => simpa [eq_comm] using hmore
    | cons a more =>
        obtain ⟨rfl, rfl⟩ := List.cons.inj hmore
        exact absurd (by simp) hrest'

end Lib
end ClientSdk
