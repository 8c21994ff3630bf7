/-
# Deadlines

`source/robot/client/interfaces_client.cpp`: `GetDeadline` and the calls that work
with its result.

A timeout is any `int64_t` of milliseconds, a clock reading an `int64_t` of
nanoseconds, and the deadline their sum in `int64_t`.  Neither the conversion nor
the addition is checked, so a long timeout loses multiples of `2^64` and may give
a deadline before that of a shorter one, or before the clock reading itself.

`getDeadline_ordered_iff` says for which timeouts this happens: the nanoseconds
between two timeouts have to cover what the second sum loses more than the first.
-/

import ClientSdk.Client.Calls
import ClientSdk.Lib.Wrap

namespace ClientSdk
namespace Client

open Common Lib

/-- The sum of the clock reading and the timeout, in nanoseconds. -/
def exactDeadline (now timeoutMs : ℤ) : ℤ := now + timeoutMs * 1000000

/-- How often `2^64` is lost in it. -/
def deadlineLaps (now timeoutMs : ℤ) : ℤ := laps (2 ^ 64) (exactDeadline now timeoutMs)

/-- What the deadline of `t₂` loses more than that of `t₁` is no more than what lies
between the two timeouts. -/
def Covered (now t₁ t₂ : ℤ) : Prop :=
  2 ^ 64 * (deadlineLaps now t₂ - deadlineLaps now t₁) ≤ (t₂ - t₁) * 1000000

instance (now t₁ t₂ : ℤ) : Decidable (Covered now t₁ t₂) := inferInstanceAs (Decidable (_ ≤ _))

variable {now timeoutMs t₁ t₂ : ℤ}

theorem two_pow_64_pos : 0 < 2 ^ 64 := by decide

/-- The conversion and the addition wrap around as the sum does. -/
theorem getDeadline_eq (now timeoutMs : ℤ) :
    getDeadline now timeoutMs = (exactDeadline now timeoutMs).bmod (2 ^ 64) :=
  Int.add_bmod_bmod

/-- **The deadline is the sum**, exactly if that is an `int64_t`. -/
theorem getDeadline_eq_exact_iff :
    getDeadline now timeoutMs = exactDeadline now timeoutMs ↔
      Fits (2 ^ 64) (exactDeadline now timeoutMs) := by
  rw [getDeadline_eq]
  exact bmod_eq_self_iff two_pow_64_pos

/-- **The order of two deadlines.** -/
theorem getDeadline_le_iff : getDeadline now t₁ ≤ getDeadline now t₂ ↔ Covered now t₁ t₂ := by
  rw [getDeadline_eq, getDeadline_eq, bmod_le_bmod_iff two_pow_64_pos]
  have hdist : exactDeadline now t₂ - exactDeadline now t₁ = (t₂ - t₁) * 1000000 := by
    unfold exactDeadline
    omega
  rw [hdist]
  exact Iff.rfl

/-- The clock reading is its own deadline. -/
theorem getDeadline_zero (hnow : Fits (2 ^ 64) now) : getDeadline now 0 = now := by
  have hexact : exactDeadline now 0 = now := by
    unfold exactDeadline
    omega
  rw [getDeadline_eq_exact_iff.2 (by rwa [hexact]), hexact]

/-- **A deadline that is not in the past.** -/
theorem le_getDeadline_iff (hnow : Fits (2 ^ 64) now) :
    now ≤ getDeadline now timeoutMs ↔ Covered now 0 timeoutMs := by
  rw [← getDeadline_le_iff, getDeadline_zero hnow]

/-- A timeout that is less than `2^64` nanoseconds long gives a deadline that is not
in the past exactly if the sum stays below `2^63`. -/
theorem le_getDeadline_iff_lt (hnow : Fits (2 ^ 64) now) (ht : 0 ≤ timeoutMs)
    (hlong : timeoutMs * 1000000 < 2 ^ 64) :
    now ≤ getDeadline now timeoutMs ↔ now + timeoutMs * 1000000 < 2 ^ 63 := by
  have hsum : exactDeadline now timeoutMs = now + timeoutMs * 1000000 := rfl
  obtain ⟨hlow, hhigh⟩ := hnow
  constructor
  · intro h
    obtain ⟨-, hfits⟩ := fits_bmod two_pow_64_pos (exactDeadline now timeoutMs)
    have heq := bmod_eq_sub_laps two_pow_64_pos (exactDeadline now timeoutMs)
    rw [getDeadline_eq] at h
    have hlaps : laps (2 ^ 64) (exactDeadline now timeoutMs) = 0 := by omega
    obtain ⟨-, hexact⟩ := (laps_eq_zero_iff two_pow_64_pos).1 hlaps
    omega
  · intro h
    have hfits : Fits (2 ^ 64) (exactDeadline now timeoutMs) := by
      constructor <;> omega
    rw [getDeadline_eq_exact_iff.2 hfits]
    omega

/-! ### The calls that take a timeout -/

/-- The calls that take a timeout. -/
inductive TimedCall where
  | send
  | query
  | unsubscribe
  | subscribe
  | waitForChannelReady
deriving DecidableEq, Repr

/-- A peer that answers with the deadline it was called with. -/
def tellDeadline : Rpc Unit (Option ℤ) := fun _ deadline _ => ({}, deadline)

/-- The deadline of a call, if it has one: of the stream `Send` opens, of the context
the stub is called with, and of the loop of `WaitForChannelReady`. -/
def TimedCall.deadline (call : TimedCall) (c : InterfacesClientImpl) (now timeoutMs : ℤ) :
    Option ℤ :=
  match call with
  | .send =>
      match Client.send c now timeoutMs (.ok true) with
      | .ok (_, stream) => stream.map ClientReaderWriter.deadline
      | .error _ => none
  | .query => (Client.query c now timeoutMs tellDeadline () none).2
  | .unsubscribe => (Client.unsubscribe c now timeoutMs tellDeadline () none).2
  | .subscribe => (Client.subscribe c now timeoutMs tellDeadline () none).2
  | .waitForChannelReady => some (getDeadline now timeoutMs)

/-- The deadline of a call of a connected client is the one of `GetDeadline`. -/
theorem TimedCall.eq_of_deadline {call : TimedCall} {c : InterfacesClientImpl} {d : ℤ}
    (hc : c.isConnected = true) (h : call.deadline c now timeoutMs = some d) :
    d = getDeadline now timeoutMs := by
  cases call with
  | send =>
      rw [TimedCall.deadline, send_of_created now timeoutMs hc] at h
      exact (Option.some.inj h).symm
  | query =>
      rw [TimedCall.deadline, Client.query, unaryCall, dif_pos hc] at h
      exact (Option.some.inj h).symm
  | unsubscribe =>
      rw [TimedCall.deadline, Client.unsubscribe, unaryCall, dif_pos hc] at h
      exact (Option.some.inj h).symm
  | subscribe =>
      rw [TimedCall.deadline, Client.subscribe, unaryCall, dif_pos hc] at h
      obtain ⟨-, hd⟩ := Option.ite_none_right_eq_some.1 h
      exact (Option.some.inj hd).symm
  | waitForChannelReady => exact (Option.some.inj h).symm

theorem TimedCall.deadline_query {c : InterfacesClientImpl} (hc : c.isConnected = true) :
    TimedCall.query.deadline c now timeoutMs = some (getDeadline now timeoutMs) := by
  rw [TimedCall.deadline, Client.query, unaryCall, dif_pos hc]
  rfl

/-- **When deadlines are in order.**  A longer timeout has the later deadline, a
timeout that is not negative a deadline that is not in the past, and a call that is
given one works with such a deadline, each exactly if what is lost in the sum is
covered; for a timeout of less than `2^64` nanoseconds, exactly if the sum stays below
`2^63`. -/
theorem getDeadline_ordered_iff (hnow : Fits (2 ^ 64) now) :
    (∀ t₁ t₂, t₁ ≤ t₂ → (getDeadline now t₁ ≤ getDeadline now t₂ ↔ Covered now t₁ t₂)) ∧
    (∀ t, 0 ≤ t → (now ≤ getDeadline now t ↔ Covered now 0 t)) ∧
    (∀ t, 0 ≤ t → ∀ c : InterfacesClientImpl, c.isConnected = true →
      ((∀ (call : TimedCall) d, call.deadline c now t = some d → now ≤ d) ↔
        Covered now 0 t)) ∧
    ∀ t, 0 ≤ t → t * 1000000 < 2 ^ 64 → (Covered now 0 t ↔ now + t * 1000000 < 2 ^ 63) := by
  refine ⟨fun t₁ t₂ _ => getDeadline_le_iff, fun t _ => le_getDeadline_iff hnow, ?_,
    fun t ht hlong => (le_getDeadline_iff hnow).symm.trans (le_getDeadline_iff_lt hnow ht hlong)⟩
  intro t _ c hc
  rw [← le_getDeadline_iff hnow]
  constructor
  · intro h
    exact h .query _ (TimedCall.deadline_query hc)
  · intro h call d hd
    rw [TimedCall.eq_of_deadline hc hd]
    exact h

/-- A clock reading of the year 2025. -/
def year2025 : ℤ := 1735689600000000000

/-- A minute ends after five seconds do. -/
theorem getDeadline_ordered_minute :
    getDeadline year2025 5000 ≤ getDeadline year2025 60000 := by
  have hyear : Fits (2 ^ 64) year2025 := by decide
  exact ((getDeadline_ordered_iff hyear).1 5000 60000 (by decide)).2 (by decide)

/-- The longest timeout there is ends before it begins. -/
theorem getDeadline_ordered_longest :
    ¬ getDeadline year2025 5000 ≤ getDeadline year2025 9223372036854775807 ∧
      ¬ year2025 ≤ getDeadline year2025 9223372036854775807 := by
  constructor <;> decide

end Client
end ClientSdk
