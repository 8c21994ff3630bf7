/-
# Function bodies with early returns and exceptions

A statement of a function body runs on a state (the locals, the object, what
was done so far) and ends in one of three ways: control reaches the next
statement, the function returns, or an exception leaves it.  Every way of
ending keeps the state reached, so what a body did before it returned early or
threw stays visible.  Sequencing stops at the first return or exception;
`tryCatch` runs a handler on an exception and on nothing else.

`Body.wp x Q R E s` says what holds after running `x` from `s`, with one
postcondition for each way of ending.  It is the state of the result and not an
approximation of it, so its rules are equivalences.  `Body.Keeps I x` says that
`x` keeps the invariant `I` whichever way it ends; what the parts of a body keep,
the body keeps.
-/

import Mathlib.Tactic.SplitIfs

namespace ClientSdk
namespace Lib

/-- How a statement ends: with a value for the next statement, by returning
`r` from the function, or by an exception. -/
inductive Exit (ε ρ α : Type) where
  | next (a : α)
  | ret (r : ρ)
  | throw (e : ε)

/-- A statement of a function returning `ρ`, over the state `σ`, that may leave
by an exception `ε`. -/
def Body (σ ε ρ α : Type) : Type := σ → Exit ε ρ α × σ

section Except

variable {ε α β : Type}

@[simp] theorem except_pure (a : α) : (pure a : Except ε α) = .ok a := rfl

@[simp] theorem except_ok_bind (a : α) (f : α → Except ε β) : (Except.ok a >>= f) = f a := rfl

@[simp] theorem except_error_bind (e : ε) (f : α → Except ε β) :
    ((.error e : Except ε α) >>= f) = .error e := rfl

end Except

namespace Body

variable {σ ε ρ α β : Type}

/-- Run `x`, and `f` after it if `x` reaches its end. -/
def andThen (x : Body σ ε ρ α) (f : α → Body σ ε ρ β) : Body σ ε ρ β := fun s =>
  match x s with
  | (.next a, t) => f a t
  | (.ret r, t) => (.ret r, t)
  | (.throw e, t) => (.throw e, t)

instance : Monad (Body σ ε ρ) where
  pure a := fun s => (.next a, s)
  bind := andThen

/-- Return `r` from the function. -/
def ret (r : ρ) : Body σ ε ρ α := fun s => (.ret r, s)

/-- Raise `e`. -/
def throw (e : ε) : Body σ ε ρ α := fun s => (.throw e, s)

/-- A call that yields a value or raises, and leaves the state alone. -/
def lift : Except ε α → Body σ ε ρ α
  | .ok a => pure a
  | .error e => throw e

/-- Read a part of the state. -/
def gets (f : σ → α) : Body σ ε ρ α := fun s => (.next (f s), s)

/-- Change the state. -/
def modify (f : σ → σ) : Body σ ε ρ Unit := fun s => (.next (), f s)

/-- Run `x`; on an exception run the handler from the state reached. -/
def tryCatch (x : Body σ ε ρ α) (h : ε → Body σ ε ρ α) : Body σ ε ρ α := fun s =>
  match x s with
  | (.throw e, t) => h e t
  | r => r

/-- Call a function: a body that reaches its end yields its last value. -/
def call (x : Body σ ε ρ ρ) (s : σ) : Except ε ρ × σ :=
  match x s with
  | (.next r, t) => (.ok r, t)
  | (.ret r, t) => (.ok r, t)
  | (.throw e, t) => (.error e, t)

/-- Call a function within a body: what it raises is raised here. -/
def invoke (x : Body σ ε β β) : Body σ ε ρ β := fun s =>
  match call x s with
  | (.ok r, t) => (.next r, t)
  | (.error e, t) => (.throw e, t)

/-- What holds after `x` from `s`: `Q` if it reaches its end, `R` if it
returns, `E` if it raises. -/
def wp (x : Body σ ε ρ α) (Q : α → σ → Prop) (R : ρ → σ → Prop) (E : ε → σ → Prop)
    (s : σ) : Prop :=
  match x s with
  | (.next a, t) => Q a t
  | (.ret r, t) => R r t
  | (.throw e, t) => E e t

/-! ### Running a body on a known state -/

@[simp] theorem pure_apply (a : α) (s : σ) : (pure a : Body σ ε ρ α) s = (.next a, s) := rfl

@[simp] theorem ret_apply (r : ρ) (s : σ) : (ret r : Body σ ε ρ α) s = (.ret r, s) := rfl

@[simp] theorem throw_apply (e : ε) (s : σ) : (throw e : Body σ ε ρ α) s = (.throw e, s) := rfl

@[simp] theorem gets_apply (f : σ → α) (s : σ) :
    (gets f : Body σ ε ρ α) s = (.next (f s), s) := rfl

@[simp] theorem modify_apply (f : σ → σ) (s : σ) :
    (modify f : Body σ ε ρ Unit) s = (.next (), f s) := rfl

@[simp] theorem lift_ok (a : α) : (lift (.ok a) : Body σ ε ρ α) = pure a := rfl

@[simp] theorem lift_error (e : ε) : (lift (.error e) : Body σ ε ρ α) = throw e := rfl

@[simp] theorem bind_apply (x : Body σ ε ρ α) (f : α → Body σ ε ρ β) (s : σ) :
    (x >>= f) s = match x s with
      | (.next a, t) => f a t
      | (.ret r, t) => (.ret r, t)
      | (.throw e, t) => (.throw e, t) := rfl

@[simp] theorem tryCatch_apply (x : Body σ ε ρ α) (h : ε → Body σ ε ρ α) (s : σ) :
    tryCatch x h s = match x s with
      | (.throw e, t) => h e t
      | r => r := rfl

@[simp] theorem call_apply (x : Body σ ε ρ ρ) (s : σ) :
    call x s = match x s with
      | (.next r, t) => (.ok r, t)
      | (.ret r, t) => (.ok r, t)
      | (.throw e, t) => (.error e, t) := rfl

@[simp] theorem invoke_apply (x : Body σ ε β β) (s : σ) :
    (invoke x : Body σ ε ρ β) s = match call x s with
      | (.ok r, t) => (.next r, t)
      | (.error e, t) => (.throw e, t) := rfl

/-! ### What holds after a body -/

variable {Q : α → σ → Prop} {R : ρ → σ → Prop} {E : ε → σ → Prop} {s : σ}

theorem wp_of_next {x : Body σ ε ρ α} {a : α} {t : σ} (h : x s = (.next a, t)) :
    wp x Q R E s ↔ Q a t := by rw [wp, h]

@[simp] theorem wp_pure (a : α) : wp (pure a : Body σ ε ρ α) Q R E s ↔ Q a s := Iff.rfl

@[simp] theorem wp_ret (r : ρ) : wp (ret r : Body σ ε ρ α) Q R E s ↔ R r s := Iff.rfl

@[simp] theorem wp_throw (e : ε) : wp (throw e : Body σ ε ρ α) Q R E s ↔ E e s := Iff.rfl

@[simp] theorem wp_gets (f : σ → α) : wp (gets f : Body σ ε ρ α) Q R E s ↔ Q (f s) s :=
  Iff.rfl

@[simp] theorem wp_modify {Q : Unit → σ → Prop} (f : σ → σ) :
    wp (modify f : Body σ ε ρ Unit) Q R E s ↔ Q () (f s) := Iff.rfl

/-- A call's two outcomes, for a call whose outcome is not known yet. -/
theorem wp_lift (x : Except ε α) :
    wp (lift x : Body σ ε ρ α) Q R E s ↔
      (∀ a, x = .ok a → Q a s) ∧ (∀ e, x = .error e → E e s) := by
  cases x <;> simp

/-- **Sequencing.**  A return or an exception of the first statement is one of
the two together. -/
@[simp] theorem wp_bind {Q : β → σ → Prop} (x : Body σ ε ρ α) (f : α → Body σ ε ρ β) :
    wp (x >>= f) Q R E s ↔ wp x (fun a => wp (f a) Q R E) R E s := by
  change wp (andThen x f) Q R E s ↔ _
  unfold wp andThen
  rcases x s with ⟨_ | _ | _, t⟩ <;> rfl

/-- **Handling.**  Only an exception reaches the handler. -/
@[simp] theorem wp_tryCatch (x : Body σ ε ρ α) (h : ε → Body σ ε ρ α) :
    wp (tryCatch x h) Q R E s ↔ wp x Q R (fun e => wp (h e) Q R E) s := by
  unfold wp tryCatch
  rcases x s with ⟨_ | _ | _, t⟩ <;> rfl

@[simp] theorem wp_ite (c : Prop) [Decidable c] (x y : Body σ ε ρ α) :
    wp (if c then x else y) Q R E s ↔ (c → wp x Q R E s) ∧ (¬c → wp y Q R E s) := by
  split_ifs with h <;> simp [h]

/-- Weaker postconditions hold as well. -/
theorem wp_mono {x : Body σ ε ρ α} {Q' : α → σ → Prop} {R' : ρ → σ → Prop}
    {E' : ε → σ → Prop} (h : wp x Q R E s) (hQ : ∀ a t, Q a t → Q' a t)
    (hR : ∀ r t, R r t → R' r t) (hE : ∀ e t, E e t → E' e t) : wp x Q' R' E' s := by
  unfold wp at h ⊢
  cases hx : x s with
  | mk exit t =>
      rw [hx] at h
      cases exit with
      | next a => exact hQ a t h
      | ret r => exact hR r t h
      | throw e => exact hE e t h

/-- **A call is judged by its body.**  A property of what a call returns or
raises and of the state it leaves, in terms of the body. -/
theorem call_iff {P : Except ε ρ × σ → Prop} (x : Body σ ε ρ ρ) :
    P (call x s) ↔
      wp x (fun r t => P (.ok r, t)) (fun r t => P (.ok r, t)) (fun e t => P (.error e, t)) s := by
  unfold wp call
  rcases x s with ⟨_ | _ | _, t⟩ <;> rfl

/-! ### Invariants of a body -/

/-- However `x` ends, `I` holds after it if it held before. -/
def Keeps (I : σ → Prop) (x : Body σ ε ρ α) : Prop :=
  ∀ s, I s → wp x (fun _ => I) (fun _ => I) (fun _ => I) s

variable {I : σ → Prop}

theorem keeps_pure (a : α) : Keeps I (pure a : Body σ ε ρ α) := fun _ hs => hs

theorem keeps_ret (r : ρ) : Keeps I (ret r : Body σ ε ρ α) := fun _ hs => hs

theorem keeps_gets (f : σ → α) : Keeps I (gets f : Body σ ε ρ α) := fun _ hs => hs

theorem keeps_lift (x : Except ε α) : Keeps I (lift x : Body σ ε ρ α) := fun _ hs =>
  (wp_lift x).2 ⟨fun _ _ => hs, fun _ _ => hs⟩

theorem keeps_modify {f : σ → σ} (h : ∀ s, I s → I (f s)) :
    Keeps I (modify f : Body σ ε ρ Unit) := h

/-- **What two statements keep, their sequence keeps.** -/
theorem keeps_bind {x : Body σ ε ρ α} {f : α → Body σ ε ρ β} (hx : Keeps I x)
    (hf : ∀ a, Keeps I (f a)) : Keeps I (x >>= f) := by
  intro s hs
  rw [wp_bind]
  exact wp_mono (hx s hs) (fun a t ht => hf a t ht) (fun _ _ ht => ht) fun _ _ ht => ht

theorem keeps_tryCatch {x : Body σ ε ρ α} {h : ε → Body σ ε ρ α} (hx : Keeps I x)
    (hh : ∀ e, Keeps I (h e)) : Keeps I (tryCatch x h) := by
  intro s hs
  rw [wp_tryCatch]
  exact wp_mono (hx s hs) (fun _ _ ht => ht) (fun _ _ ht => ht) fun e t ht => hh e t ht

theorem keeps_ite {c : Prop} [Decidable c] {x y : Body σ ε ρ α} (hx : Keeps I x)
    (hy : Keeps I y) : Keeps I (if c then x else y) := by
  split_ifs
  · exact hx
  · exact hy

/-- What a body keeps, a call of it keeps. -/
theorem Keeps.call {x : Body σ ε ρ ρ} (hx : Keeps I x) {s : σ} (hs : I s) : I (call x s).2 :=
  (call_iff (P := fun out => I out.2) x).2 (hx s hs)

/-- The call of a function ends as its body does. -/
theorem wp_invoke {Q : β → σ → Prop} {E : ε → σ → Prop} {R : ρ → σ → Prop}
    (x : Body σ ε β β) : wp (invoke x : Body σ ε ρ β) Q R E s ↔ wp x Q Q E s := by
  unfold wp invoke Body.call
  rcases x s with ⟨_ | _ | _, t⟩ <;> rfl

theorem keeps_invoke {x : Body σ ε β β} (hx : Keeps I x) :
    Keeps I (invoke x : Body σ ε ρ β) := fun s hs => (wp_invoke x).2 (hx s hs)

end Body

end Lib
end ClientSdk
