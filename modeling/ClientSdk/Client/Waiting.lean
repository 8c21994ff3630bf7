/-
# Waiting for a channel

`source/robot/client/interfaces_client.cpp`: the loop of `WaitForChannelReady`.

The loop looks at the channel, sleeps a whole second and tests the clock before it
looks again.  So it looks at its start, and every second from there as long as the
deadline is not reached; what the channel does between two looks, or after the last
of them, goes unseen.  A channel may be ready for almost a second of the timeout and
still be reported as one that is not.
-/

import ClientSdk.Client.Connection
import ClientSdk.Lib.Sampling

namespace ClientSdk
namespace Client

open Lib

variable {history : ℤ → ConnectivityState} {now deadline timeoutMs r : ℤ}

theorem second_pos : 0 < second := by decide

/-- The instants at which the loop looks at the channel. -/
def looks (now deadline : ℤ) : Set ℤ := {t | t = now ∨ Sampled now second deadline t}

/-- The last of them. -/
def lastLook (now deadline : ℤ) : ℤ :=
  if now < deadline then lastSample now second deadline else now

theorem isGreatest_lastLook (now deadline : ℤ) : IsGreatest (looks now deadline)
    (lastLook now deadline) := by
  unfold lastLook
  by_cases h : now < deadline
  · rw [if_pos h]
    obtain ⟨hmem, hle⟩ := isGreatest_sampled second_pos h
    refine ⟨Or.inr hmem, ?_⟩
    rintro t (rfl | ht)
    · exact hle ((sampled_iff second_pos).2 ⟨h, Or.inl rfl⟩)
    · exact hle ht
  · rw [if_neg h]
    refine ⟨Or.inl rfl, ?_⟩
    rintro t (rfl | ht)
    · exact le_rfl
    · exact absurd ht (not_sampled second_pos (Int.not_lt.1 h))

/-- The loop ends on a sample that is ready exactly if it starts with one or takes
one.  The induction is on how often it can sleep before the deadline. -/
theorem waitFrom_ready_iff (history : ℤ → ConnectivityState) (deadline now : ℤ)
    (state : ConnectivityState) :
    waitFrom history deadline now state = .ready ↔
      state = .ready ∨ ∃ t, Sampled now second deadline t ∧ history t = .ready := by
  induction hn : sleepsUntil deadline now generalizing now state with
  | zero =>
      have hlt : ¬ now < deadline := by
        intro h
        rw [sleepsUntil_of_lt h] at hn
        omega
      have hnone : ∀ t, ¬ Sampled now second deadline t :=
        fun t => not_sampled second_pos (Int.not_lt.1 hlt)
      rw [waitFrom_eq, if_neg (fun h => hlt h.2)]
      simp [hnone]
  | succ n ih =>
      have hlt : now < deadline := by
        by_contra h
        rw [sleepsUntil_of_le (Int.not_lt.1 h)] at hn
        omega
      have hnext : sleepsUntil deadline (now + second) = n := by
        rw [sleepsUntil_of_lt hlt] at hn
        omega
      rw [waitFrom_eq]
      by_cases hstate : state = .ready
      · rw [if_neg (fun h => h.1 hstate)]
        exact ⟨Or.inl, fun _ => hstate⟩
      · rw [if_pos ⟨hstate, hlt⟩, ih (now + second) (history now) hnext]
        constructor
        · rintro (h | ⟨t, ht, hready⟩)
          · exact Or.inr ⟨now, (sampled_iff second_pos).2 ⟨hlt, Or.inl rfl⟩, h⟩
          · exact Or.inr ⟨t, (sampled_iff second_pos).2 ⟨hlt, Or.inr ht⟩, hready⟩
        · rintro (h | ⟨t, ht, hready⟩)
          · exact absurd h hstate
          · obtain ⟨-, rfl | ht'⟩ := (sampled_iff second_pos).1 ht
            · exact Or.inl hready
            · exact Or.inr ⟨t, ht', hready⟩

/-- **`WaitForChannelReady` tells whether one of its looks finds the channel ready.** -/
theorem waitForChannelReady_iff (channel : Channel) :
    waitForChannelReady (some channel) history now timeoutMs = true ↔
      ∃ t ∈ looks now (getDeadline now timeoutMs), history t = .ready := by
  have hloop := waitFrom_ready_iff history (getDeadline now timeoutMs) now (history now)
  rw [waitForChannelReady, decide_eq_true_eq, hloop]
  constructor
  · rintro (h | ⟨t, ht, hready⟩)
    · exact ⟨now, Or.inl rfl, h⟩
    · exact ⟨t, Or.inr ht, hready⟩
  · rintro ⟨t, rfl | ht, hready⟩
    · exact Or.inl hready
    · exact Or.inr ⟨t, ht, hready⟩

/-! ### Channels that become ready and stay so -/

/-- The channel is ready from `r` on. -/
def ReadyFrom (history : ℤ → ConnectivityState) (r : ℤ) : Prop := ∀ t, r ≤ t → history t = .ready

/-- A look falls into the time the channel is ready: the last look is not before
`r`, or one before `r` finds it ready already. -/
def SeenInTime (history : ℤ → ConnectivityState) (now deadline r : ℤ) : Prop :=
  r ≤ lastLook now deadline ∨ ∃ t < r, t ∈ looks now deadline ∧ history t = .ready

/-- Of a channel that was not ready before, only the last look counts. -/
theorem seenInTime_of_not_before {deadline : ℤ} (hbefore : ∀ t < r, history t ≠ .ready) :
    SeenInTime history now deadline r ↔ r ≤ lastLook now deadline := by
  constructor
  · rintro (h | ⟨t, ht, -, hseen⟩)
    · exact h
    · exact absurd hseen (hbefore t ht)
  · exact Or.inl

/-- A channel that is ready from a whole second before the deadline on is seen in time. -/
theorem seenInTime_of_margin {deadline : ℤ} (hmargin : r + second ≤ deadline) :
    SeenInTime history now deadline r := by
  have hlast : deadline - second ≤ lastLook now deadline := by
    unfold lastLook
    split
    · exact lastSample_margin second_pos
    · rename_i hpast
      have hpos := second_pos
      omega
  exact Or.inl (by omega)

/-- **A channel that becomes ready and stays so** is reported as ready exactly if a
look falls into that time, whatever the timeout and the phase of the looks.  If it was
not ready before, that is the last look, and it does if the channel is ready a whole
second before the deadline. -/
theorem waitForChannelReady_settled_iff (channel : Channel) (hready : ReadyFrom history r) :
    (waitForChannelReady (some channel) history now timeoutMs = true ↔
      SeenInTime history now (getDeadline now timeoutMs) r) ∧
    ((∀ t < r, history t ≠ .ready) → (SeenInTime history now (getDeadline now timeoutMs) r ↔
      r ≤ lastLook now (getDeadline now timeoutMs))) ∧
    (r + second ≤ getDeadline now timeoutMs →
      SeenInTime history now (getDeadline now timeoutMs) r) := by
  refine ⟨?_, seenInTime_of_not_before, seenInTime_of_margin⟩
  rw [waitForChannelReady_iff]
  exact exists_seen_iff (isGreatest_lastLook now (getDeadline now timeoutMs)) hready

/-- Ready after half a second, and not before. -/
def readyAfterHalf : ℤ → ConnectivityState := fun t =>
  if 500000000 ≤ t then .ready else .connecting

theorem readyFrom_readyAfterHalf : ReadyFrom readyAfterHalf 500000000 :=
  fun _ ht => if_pos ht

/-- The last look within five seconds, after four of them, comes after half a second. -/
theorem waitForChannelReady_settled_fiveSeconds :
    waitForChannelReady (some ⟨0, "", ⟨0, 0⟩⟩) readyAfterHalf 0 5000 = true :=
  (waitForChannelReady_settled_iff ⟨0, "", ⟨0, 0⟩⟩ readyFrom_readyAfterHalf).1.2
    (Or.inl (by decide))

/-- Within one second there is no look but the one at the start. -/
theorem waitForChannelReady_settled_oneSecond :
    (0 : ℤ) < 1000 ∧ ReadyFrom readyAfterHalf 500000000 ∧ (500000000 : ℤ) < 0 + 1000 * 1000000 ∧
      waitForChannelReady (some ⟨0, "", ⟨0, 0⟩⟩) readyAfterHalf 0 1000 = false := by
  refine ⟨by decide, readyFrom_readyAfterHalf, by decide, ?_⟩
  decide

end Client
end ClientSdk
