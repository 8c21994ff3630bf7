/-
# How long `WaitForChannelReady` waits

`source/robot/client/interfaces_client.cpp`: the loop of `WaitForChannelReady` with the
clock reading at which it is left.

The loop sleeps a whole second after each look, the one that finds the channel ready
included, and tests the clock only then.  So it returns a second after the first look
that finds the channel ready, and if none does, less than a second after the deadline
(`waitForChannelReady_until`).
-/

import ClientSdk.Client.Waiting

namespace ClientSdk
namespace Client

open Lib

/-- `waitLoop`, with the clock reading at its end. -/
def waitLoopUntil (history : ℤ → ConnectivityState) (deadline : ℤ) :
    ℕ → ℤ → ConnectivityState → ConnectivityState × ℤ
  | 0, now, state => (state, now)
  | sleeps + 1, now, state =>
      if state ≠ .ready ∧ now < deadline then
        waitLoopUntil history deadline sleeps (now + second) (history now)
      else (state, now)

/-- The clock reading at which `WaitForChannelReady(timeoutMs)` returns. -/
def waitedUntil (channel : Option Channel) (history : ℤ → ConnectivityState)
    (now timeoutMs : ℤ) : ℤ :=
  match channel with
  | none => now
  | some _ =>
      (waitLoopUntil history (getDeadline now timeoutMs)
        (sleepsUntil (getDeadline now timeoutMs) now) now (history now)).2

variable {history : ℤ → ConnectivityState} {now deadline timeoutMs : ℤ}

/-- The clock is only read along. -/
theorem waitLoopUntil_fst (history : ℤ → ConnectivityState) (deadline : ℤ) (sleeps : ℕ)
    (now : ℤ) (state : ConnectivityState) :
    (waitLoopUntil history deadline sleeps now state).1 =
      waitLoop history deadline sleeps now state := by
  induction sleeps generalizing now state with
  | zero => rfl
  | succ sleeps ih =>
      rw [waitLoopUntil, waitLoop]
      split
      · exact ih _ _
      · rfl

/-- The first look within the deadline that finds the channel ready. -/
def FirstReady (history : ℤ → ConnectivityState) (now deadline t : ℤ) : Prop :=
  FirstSampled now second deadline (fun t => history t = .ready) t

/-- The loop comes to see the channel ready, at the look `t`, or it looks to the end. -/
inductive Waits (history : ℤ → ConnectivityState) (now deadline : ℤ) :
    ConnectivityState × ℤ → Prop where
  | seen (t : ℤ) (h : FirstReady history now deadline t) :
      Waits history now deadline (.ready, t + second)
  | unseen {state : ConnectivityState} (hstate : state ≠ .ready)
      (h : ∀ t, Sampled now second deadline t → history t ≠ .ready) :
      Waits history now deadline (state, now + sleepsUntil deadline now * second)

/-- A loop that starts with a sample that is ready is left at once. -/
theorem waitLoopUntil_of_ready (sleeps : ℕ) :
    waitLoopUntil history deadline sleeps now .ready = (.ready, now) := by
  cases sleeps with
  | zero => rfl
  | succ sleeps => rw [waitLoopUntil, if_neg fun h => h.1 rfl]

/-- One sleep before what comes of the loop a second later. -/
theorem Waits.sleep {r : ConnectivityState × ℤ} (h : Waits history (now + second) deadline r)
    (hlt : now < deadline) (hnot : history now ≠ .ready) : Waits history now deadline r := by
  cases h with
  | seen t ht => exact .seen t ((firstSampled_iff second_pos).2 ⟨hlt, Or.inr ⟨hnot, ht⟩⟩)
  | unseen hstate hnone =>
      have hunseen : Waits history now deadline (_, now + sleepsUntil deadline now * second) :=
        .unseen hstate fun t ht => by
          obtain ⟨-, rfl | ht'⟩ := (sampled_iff second_pos).1 ht
          · exact hnot
          · exact hnone t ht'
      have hclock : now + sleepsUntil deadline now * second =
          now + second + sleepsUntil deadline (now + second) * second := by
        rw [sleepsUntil_of_lt hlt, Int.natCast_add, Int.natCast_one, Int.add_mul]
        omega
      rw [hclock] at hunseen
      exact hunseen

/-- **What the loop comes to**, from a sample that is not ready.  The induction is on how
often it can sleep before the deadline. -/
theorem waitLoopUntil_waits {state : ConnectivityState} (hstate : state ≠ .ready) :
    Waits history now deadline
      (waitLoopUntil history deadline (sleepsUntil deadline now) now state) := by
  induction hn : sleepsUntil deadline now generalizing now state with
  | zero =>
      have hle : deadline ≤ now := by
        by_contra h
        rw [sleepsUntil_of_lt (Int.not_le.1 h)] at hn
        omega
      have hunseen : Waits history now deadline (state, now + sleepsUntil deadline now * second) :=
        .unseen hstate fun t ht => absurd ht (not_sampled second_pos hle)
      rw [hn] at hunseen
      simpa [waitLoopUntil] using hunseen
  | succ n ih =>
      have hlt : now < deadline := by
        by_contra h
        rw [sleepsUntil_of_le (Int.not_lt.1 h)] at hn
        omega
      have hnext : sleepsUntil deadline (now + second) = n := by
        rw [sleepsUntil_of_lt hlt] at hn
        omega
      rw [waitLoopUntil, if_pos ⟨hstate, hlt⟩]
      by_cases hready : history now = .ready
      · rw [hready, waitLoopUntil_of_ready]
        exact .seen now ((firstSampled_iff second_pos).2 ⟨hlt, Or.inl ⟨hready, rfl⟩⟩)
      · exact (ih hready hnext).sleep hlt hready

/-- What `WaitForChannelReady` comes to: the channel is ready at once, it is seen ready at a
look, or it is not, to the end. -/
theorem waitForChannelReady_cases (channel : Channel) (history : ℤ → ConnectivityState)
    (now timeoutMs : ℤ) :
    let deadline := getDeadline now timeoutMs
    let ready := waitForChannelReady (some channel) history now timeoutMs
    let e := waitedUntil (some channel) history now timeoutMs
    (history now = .ready ∧ ready = true ∧ e = now) ∨
    (history now ≠ .ready ∧ ∃ t, FirstReady history now deadline t ∧ ready = true ∧
      e = t + second) ∨
    (history now ≠ .ready ∧ (∀ t, ¬ FirstReady history now deadline t) ∧ ready = false ∧
      e = now + sleepsUntil deadline now * second) := by
  intro deadline ready e
  have hready : ready = decide ((waitLoopUntil history deadline (sleepsUntil deadline now) now
      (history now)).1 = .ready) := by
    rw [waitLoopUntil_fst]
    rfl
  have he : e = (waitLoopUntil history deadline (sleepsUntil deadline now) now
      (history now)).2 := rfl
  by_cases hnow : history now = .ready
  · rw [hnow, waitLoopUntil_of_ready] at hready he
    exact Or.inl ⟨hnow, by rw [hready]; rfl, he⟩
  · have hwaits : Waits history now deadline _ := waitLoopUntil_waits hnow
    generalize waitLoopUntil history deadline (sleepsUntil deadline now) now (history now) = r
      at hready he hwaits
    cases hwaits with
    | seen t ht => exact Or.inr (Or.inl ⟨hnow, t, ht, by rw [hready]; rfl, he⟩)
    | unseen hstate hnone =>
        refine Or.inr (Or.inr ⟨hnow, fun t ht => hnone t ht.1 ht.2.1, ?_, he⟩)
        rw [hready]
        exact decide_eq_false hstate

/-- Ready after half a second, the channel is reported after two. -/
example : waitedUntil (some ⟨0, "", ⟨0, 0⟩⟩) readyAfterHalf 0 5000 = 2 * second := by decide

end Client
end ClientSdk
