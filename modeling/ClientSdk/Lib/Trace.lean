/-
# Traces and what each of their events stands between

A trace is the list of the events that happened, in order.  A property of an
event may speak of what happened before it and of what happened after it
(`EachEvent`).  If what it asks of the future, once met, stays met when more
happens (`StaysMet`), the property is kept by appending a block of events as
soon as the events of the block have it (`EachEvent.append`).
-/

import Mathlib.Data.List.Basic

namespace ClientSdk
namespace Lib

variable {ε : Type*}

/-- Every event of `es` has `P`, of the events before it, itself and the events
after it. -/
def EachEvent (P : List ε → ε → List ε → Prop) (es : List ε) : Prop :=
  ∀ pre e post, es = pre ++ e :: post → P pre e post

/-- What `P` asks of the events after an event stays met when more happens. -/
def StaysMet (P : List ε → ε → List ε → Prop) : Prop :=
  ∀ pre e post more, P pre e post → P pre e (post ++ more)

variable {P : List ε → ε → List ε → Prop} {es : List ε}

theorem eachEvent_nil (P : List ε → ε → List ε → Prop) : EachEvent P [] := by
  intro pre e post h
  exact absurd h (by simp)

/-- The first event stands between nothing and the rest, and every other event
comes after it. -/
theorem eachEvent_cons {e : ε} :
    EachEvent P (e :: es) ↔ P [] e es ∧ EachEvent (fun pre => P (e :: pre)) es := by
  constructor
  · intro h
    refine ⟨h [] e es rfl, fun pre e' post heq => h (e :: pre) e' post ?_⟩
    rw [heq, List.cons_append]
  · rintro ⟨hfirst, hrest⟩ pre e' post heq
    rcases List.cons_eq_append_iff.1 heq with ⟨rfl, hpost⟩ | ⟨pre', rfl, hes⟩
    · obtain ⟨rfl, rfl⟩ := List.cons.inj hpost
      exact hfirst
    · exact hrest pre' e' post hes

/-- **A block of events more.**  The events of `block` have `P` where they
stand, after `es`. -/
theorem EachEvent.append {block : List ε} (hP : StaysMet P) (h : EachEvent P es)
    (hb : EachEvent (fun pre e post => P (es ++ pre) e post) block) :
    EachEvent P (es ++ block) := by
  intro pre e post heq
  rcases List.append_eq_append_iff.1 heq with ⟨pre', rfl, hpre⟩ | ⟨rest, hes, hrest⟩
  · exact hb pre' e post hpre
  · cases rest with
    | nil =>
        rw [List.append_nil] at hes
        have hfirst : P (es ++ []) e post := hb [] e post hrest.symm
        rwa [List.append_nil, hes] at hfirst
    | cons e' post' =>
        obtain ⟨rfl, rfl⟩ := List.cons.inj hrest
        exact hP pre e post' block (h pre e post' hes)

/-- One event more. -/
theorem EachEvent.concat {e : ε} (hP : StaysMet P) (h : EachEvent P es) (he : P es e []) :
    EachEvent P (es ++ [e]) := by
  refine h.append hP (eachEvent_cons.2 ⟨?_, eachEvent_nil _⟩)
  rwa [List.append_nil]

end Lib
end ClientSdk
