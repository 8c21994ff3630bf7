/-
# Traces made of blocks

A block is a list of events each of which may follow the one before it, and that
begins and ends with events of a certain kind.  If an event a block may begin with may
follow one it may end with, blocks one after the other are a block again.
-/

import Mathlib.Data.List.Chain

namespace ClientSdk
namespace Lib

variable {α ε : Type*} {Follows : ε → ε → Prop} {Start End : ε → Prop} {es es' : List ε}

/-- The events follow one another, the first is a `Start` and the last an `End`. -/
structure Block (Follows : ε → ε → Prop) (Start End : ε → Prop) (es : List ε) : Prop where
  chain : es.IsChain Follows
  head : ∀ e ∈ es.head?, Start e
  last : ∀ e ∈ es.getLast?, End e

theorem block_nil : Block Follows Start End [] :=
  ⟨.nil, (fun _ h => by cases h), fun _ h => by cases h⟩

/-- One block after another. -/
theorem Block.append (hlink : ∀ a b, End a → Start b → Follows a b)
    (h : Block Follows Start End es) (h' : Block Follows Start End es') :
    Block Follows Start End (es ++ es') where
  chain := h.chain.append h'.chain fun a ha b hb => hlink a b (h.last a ha) (h'.head b hb)
  head := by
    intro e he
    cases es with
    | nil => exact h'.head e he
    | cons a es => exact h.head e he
  last := by
    intro e he
    rcases List.eq_nil_or_concat es' with rfl | ⟨es', a, rfl⟩
    · rw [List.append_nil] at he
      exact h.last e he
    · refine h'.last e ?_
      simpa using he

/-- **Blocks one after the other are a block.** -/
theorem Block.flatMap (hlink : ∀ a b, End a → Start b → Follows a b) {f : α → List ε}
    {xs : List α} (h : ∀ x ∈ xs, Block Follows Start End (f x)) :
    Block Follows Start End (xs.flatMap f) := by
  induction xs with
  | nil => exact block_nil
  | cons x xs ih =>
      rw [List.flatMap_cons]
      exact (h x List.mem_cons_self).append hlink (ih fun y hy => h y (List.mem_cons_of_mem x hy))

end Lib
end ClientSdk
