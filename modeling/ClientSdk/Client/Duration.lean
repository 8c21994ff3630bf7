/-
# How long a call of the client takes

`source/robot/client/interfaces_client.cpp`: what the calls of a client make of the time.

A remote operation takes what the network takes, up to the deadline of its context.  The
deadline is the timeout away at most, whatever is lost in the sum (`getDeadline_le`), so
each call that is given one is over by then.  `Connect` waits for its channel in a loop of
its own, which may sleep through its deadline by less than a second
(`connectUntil_le`).  `Subscribe` without a positive timeout has no deadline.
-/

import ClientSdk.Client.Deadline
import ClientSdk.Client.Patience
import ClientSdk.Client.Reconnect
import ClientSdk.Lib.Clock

namespace ClientSdk
namespace Client

open Common Lib

/-! ### Timeouts -/

/-- The nanoseconds a timeout allows for. -/
def patience (timeoutMs : ℤ) : ℤ := max 0 (wrap64 (timeoutMs * 1000000))

theorem patience_nonneg (timeoutMs : ℤ) : 0 ≤ patience timeoutMs := Int.le_max_left _ _

/-- **No deadline is further away than its timeout.** -/
theorem getDeadline_le {now : ℤ} (h : 0 ≤ now) (timeoutMs : ℤ) :
    getDeadline now timeoutMs ≤ now + patience timeoutMs := by
  have hfits : Fits (2 ^ 64) (wrap64 (timeoutMs * 1000000)) := fits_bmod two_pow_64_pos _
  have hlaps := bmod_eq_sub_laps two_pow_64_pos (now + wrap64 (timeoutMs * 1000000))
  have hpatience : wrap64 (timeoutMs * 1000000) ≤ patience timeoutMs := Int.le_max_right _ _
  have hdeadline : getDeadline now timeoutMs =
      (now + wrap64 (timeoutMs * 1000000)).bmod (2 ^ 64) := rfl
  -- What is lost in the sum is lost above: it cannot fall below the least `int64_t`.
  have hlow : 0 ≤ laps (2 ^ 64) (now + wrap64 (timeoutMs * 1000000)) := by
    obtain ⟨hlow, -⟩ := hfits
    unfold laps
    omega
  omega

/-! ### Waiting for the channel -/

section Waiting

variable (channel : Option Channel) (history : ℤ → ConnectivityState) (now timeoutMs : ℤ)

theorem waitedUntil_cases :
    waitedUntil channel history now timeoutMs = now ∨
      now < waitedUntil channel history now timeoutMs ∧
        waitedUntil channel history now timeoutMs < getDeadline now timeoutMs + second := by
  cases channel with
  | none => exact Or.inl rfl
  | some channel =>
      rcases waitForChannelReady_cases channel history now timeoutMs with
        ⟨-, -, he⟩ | ⟨-, t, ht, -, he⟩ | ⟨-, -, -, he⟩
      · exact Or.inl he
      · obtain ⟨hlt, n, hn⟩ := ht.1
        rw [he]
        unfold second at hn ⊢
        omega
      · rw [he]
        unfold sleepsUntil second
        omega

theorem le_waitedUntil : now ≤ waitedUntil channel history now timeoutMs := by
  rcases waitedUntil_cases channel history now timeoutMs with he | ⟨hlt, -⟩
  · exact Int.le_of_eq he.symm
  · exact Int.le_of_lt hlt

variable {now}

/-- **`WaitForChannelReady` is over** a second after its timeout at the latest. -/
theorem waitedUntil_le (h : 0 ≤ now) :
    waitedUntil channel history now timeoutMs ≤ now + (patience timeoutMs + second) := by
  have hdeadline := getDeadline_le h timeoutMs
  have hpatience := patience_nonneg timeoutMs
  have hsecond := second_pos
  rcases waitedUntil_cases channel history now timeoutMs with he | ⟨-, hlt⟩ <;> omega

end Waiting

/-! ### Connecting -/

/-- When a `Connect` begun at `now` is over: it waits only once it holds its channel and
stub.  An exception of the wait cuts it short, at `cut` or at its end. -/
def connectUntil (target : String) (env : ConnectEnv) (c : InterfacesClient) (now cut : ℤ) : ℤ :=
  match channelOutcome c env, readConfig c.loadedConfig, env.newStub with
  | .ok true, .ok config, .ok true =>
      let ends := waitedUntil (some (newChannel c target config)) env.history now
        config.channelReadyTimeoutMs
      match env.wait with
      | .ok () => ends
      | .error _ => min cut ends
  | _, _, _ => now

/-- What a `Connect` is allowed: what its configuration allows the wait. -/
def connectAllowance (config : ConfigNode) : ℤ :=
  match readConfig config with
  | .ok config => patience config.channelReadyTimeoutMs + second
  | .error _ => 0

section Connecting

variable {target : String} {env : ConnectEnv} {c : InterfacesClient} {now cut : ℤ}

theorem connectUntil_cases (target : String) (env : ConnectEnv) (c : InterfacesClient)
    (now cut : ℤ) :
    connectUntil target env c now cut = now ∨
      ∃ (config : ClientConfig) (channel : Option Channel),
        readConfig c.loadedConfig = .ok config ∧
        (connectUntil target env c now cut =
            waitedUntil channel env.history now config.channelReadyTimeoutMs ∨
          connectUntil target env c now cut =
            min cut (waitedUntil channel env.history now config.channelReadyTimeoutMs)) := by
  unfold connectUntil
  split
  · rename_i config _ hconfig _
    refine Or.inr ⟨config, some (newChannel c target config), hconfig, ?_⟩
    cases env.wait with
    | ok u => exact Or.inl rfl
    | error e => exact Or.inr rfl
  · exact Or.inl rfl

theorem le_connectUntil (target : String) (env : ConnectEnv) (c : InterfacesClient)
    (hcut : now ≤ cut) : now ≤ connectUntil target env c now cut := by
  rcases connectUntil_cases target env c now cut with he | ⟨config, channel, -, he | he⟩
  · exact Int.le_of_eq he.symm
  · rw [he]
    exact le_waitedUntil _ _ _ _
  · rw [he]
    exact le_min hcut (le_waitedUntil _ _ _ _)

/-- **`Connect` is over** a second after the timeout of its wait at the latest. -/
theorem connectUntil_le (target : String) (env : ConnectEnv) (c : InterfacesClient) (cut : ℤ)
    (h : 0 ≤ now) : connectUntil target env c now cut ≤ now + connectAllowance c.loadedConfig := by
  rcases connectUntil_cases target env c now cut with he | ⟨config, channel, hconfig, he⟩
  · have hnonneg : 0 ≤ connectAllowance c.loadedConfig := by
      unfold connectAllowance
      split
      · exact Int.add_nonneg (patience_nonneg _) second_pos.le
      · exact Int.le_refl _
    omega
  · have hends := waitedUntil_le channel env.history config.channelReadyTimeoutMs h
    have hallowance : connectAllowance c.loadedConfig =
        patience config.channelReadyTimeoutMs + second := by
      simp [connectAllowance, hconfig]
    omega

/-- **The wait decides nothing of what a `Connect` leaves.** -/
theorem connect_eq_of_agree {env' : ConnectEnv} (ht : env'.storeTarget = env.storeTarget)
    (hch : env'.createCustomChannel = env.createCustomChannel)
    (hs : env'.newStub = env.newStub) :
    (connect target env' c).2 = (connect target env c).2 := by
  cases het : env.storeTarget with
  | error e => simp [connect, ht, het]
  | ok u =>
      cases hec : readConfig c.loadedConfig with
      | error e => simp [connect, ht, het, hec]
      | ok config =>
          cases hech : env.createCustomChannel with
          | error e => simp [connect, ht, het, hec, hch, hech]
          | ok created =>
              cases created with
              | false =>
                  rw [connect_of_null_channel het hec hech,
                    connect_of_null_channel (ht.trans het) hec (hch.trans hech)]
              | true =>
                  have hopens : Opens c env config := ⟨het, hec, hech⟩
                  have hopens' : Opens c env' config := ⟨ht.trans het, hec, hch.trans hech⟩
                  cases hes : env.newStub with
                  | error e =>
                      rw [connect_of_stub_error hopens hes,
                        connect_of_stub_error hopens' (hs.trans hes)]
                  | ok created =>
                      cases created with
                      | false =>
                          rw [connect_of_null_stub hopens hes,
                            connect_of_null_stub hopens' (hs.trans hes)]
                      | true =>
                          rw [connect_of_stub hopens hes, connect_of_stub hopens' (hs.trans hes)]

end Connecting

/-- The call, begun at `now`. -/
def Call.timed (now : ℤ) : Call → Call
  | .connect target env => .connect target { env with now := now }
  | .connectTo serverAddress port env => .connectTo serverAddress port { env with now := now }
  | .disconnect => .disconnect

/-- The instant after a call of the connection management. -/
def Call.spend (a : Call) (clock : Clock) (c : InterfacesClient) (w : Stopwatch) : Stopwatch :=
  let cut := clock w.made none w.now
  match a with
  | .connect target env => ⟨connectUntil target env c w.now cut, w.made + 1⟩
  | .connectTo serverAddress port env =>
      ⟨connectUntil (serverAddress ++ ":" ++ toString port) env c w.now cut, w.made + 1⟩
  | .disconnect => w

/-- What a call is allowed, by the client's configuration. -/
def Call.allowance (config : ConfigNode) : Call → ℤ
  | .connect _ _ | .connectTo _ _ _ => connectAllowance config
  | .disconnect => 0

section Managing

variable (a : Call) {clock : Clock} {c : InterfacesClient} {w : Stopwatch}

theorem Call.perform_timed (now : ℤ) (c : InterfacesClient) :
    ((a.timed now).perform c).2 = (a.perform c).2 := by
  cases a with
  | connect target env => exact connect_eq_of_agree rfl rfl rfl
  | connectTo serverAddress port env => exact connect_eq_of_agree rfl rfl rfl
  | disconnect => rfl

theorem Call.le_spend (h : clock.InTime) : w.now ≤ (a.spend clock c w).now := by
  have hcut := h.forward w.made none w.now
  cases a with
  | connect target env => exact le_connectUntil target env c hcut
  | connectTo serverAddress port env => exact le_connectUntil _ env c hcut
  | disconnect => exact Int.le_refl _

theorem Call.spend_le (hw : 0 ≤ w.now) :
    (a.spend clock c w).now ≤ w.now + a.allowance c.loadedConfig := by
  cases a with
  | connect target env => exact connectUntil_le target env c _ hw
  | connectTo serverAddress port env => exact connectUntil_le _ env c _ hw
  | disconnect => exact Int.le_of_eq (Int.add_zero _).symm

end Managing

/-! ### The calls with a timeout -/

/-- The instant and the operations after a call that takes a timeout.  A remote operation
is made if the client is connected. -/
def TimedCall.spend (call : TimedCall) (clock : Clock) (c : InterfacesClientImpl)
    (timeoutMs : ℤ) (history : ℤ → ConnectivityState) (w : Stopwatch) : Stopwatch :=
  match call with
  | .waitForChannelReady => { w with now := waitedUntil c.channel history w.now timeoutMs }
  | .send | .query | .unsubscribe | .subscribe =>
      if c.isConnected then w.through clock [call.deadline c w.now timeoutMs] else w

/-- What a call is allowed. -/
def TimedCall.allowance (call : TimedCall) (timeoutMs : ℤ) : ℤ :=
  match call with
  | .waitForChannelReady => patience timeoutMs + second
  | .send | .query | .unsubscribe | .subscribe => patience timeoutMs

/-- The call is given a deadline, if it goes through the stub at all. -/
def TimedCall.Limited (call : TimedCall) (c : InterfacesClientImpl) (timeoutMs : ℤ) : Prop :=
  call = .subscribe → c.isConnected = true → 0 < timeoutMs

section Calls

variable {call : TimedCall} {clock : Clock} {c : InterfacesClientImpl} {timeoutMs : ℤ}
  {history : ℤ → ConnectivityState} {w : Stopwatch}

/-- `Subscribe` is the one call of a connected client that may have no deadline. -/
theorem TimedCall.deadline_eq {now : ℤ} (hc : c.isConnected = true)
    (h : call.Limited c timeoutMs) :
    call.deadline c now timeoutMs = some (getDeadline now timeoutMs) := by
  cases call with
  | send =>
      rw [TimedCall.deadline, send_of_created now timeoutMs hc]
      rfl
  | query => exact TimedCall.deadline_query hc
  | unsubscribe =>
      rw [TimedCall.deadline, Client.unsubscribe, unaryCall, dif_pos hc]
      rfl
  | subscribe =>
      rw [TimedCall.deadline, Client.subscribe, unaryCall, dif_pos hc]
      exact if_pos (h rfl hc)
  | waitForChannelReady => rfl

theorem TimedCall.deadline_subscribe {now : ℤ} (hc : c.isConnected = true)
    (h : timeoutMs ≤ 0) : TimedCall.subscribe.deadline c now timeoutMs = none := by
  rw [TimedCall.deadline, Client.subscribe, unaryCall, dif_pos hc]
  exact if_neg (Int.not_lt.2 h)

theorem TimedCall.le_spend (hclock : clock.InTime) :
    w.now ≤ (call.spend clock c timeoutMs history w).now := by
  have hremote : w.now ≤
      (if c.isConnected then w.through clock [call.deadline c w.now timeoutMs] else w).now := by
    split
    · exact Stopwatch.le_through hclock _
    · exact Int.le_refl _
  cases call with
  | waitForChannelReady => exact le_waitedUntil _ _ _ _
  | send => exact hremote
  | query => exact hremote
  | unsubscribe => exact hremote
  | subscribe => exact hremote

/-- **A call with a deadline is over** when its timeout is, and `WaitForChannelReady` a
second later at the latest. -/
theorem TimedCall.spend_le (hclock : clock.InTime) (hw : 0 ≤ w.now)
    (h : call.Limited c timeoutMs) :
    (call.spend clock c timeoutMs history w).now ≤ w.now + call.allowance timeoutMs := by
  have hpatience := patience_nonneg timeoutMs
  have hremote :
      (if c.isConnected then w.through clock [call.deadline c w.now timeoutMs] else w).now ≤
        w.now + patience timeoutMs := by
    split
    · rename_i hc
      rw [TimedCall.deadline_eq hc h]
      have hthrough := Stopwatch.through_le (w := w) hclock
        (d := getDeadline w.now timeoutMs) fun d' h' => List.mem_singleton.1 h'
      have hdeadline := getDeadline_le hw timeoutMs
      omega
    · omega
  cases call with
  | waitForChannelReady => exact waitedUntil_le _ _ _ hw
  | send => exact hremote
  | query => exact hremote
  | unsubscribe => exact hremote
  | subscribe => exact hremote

/-- **`Subscribe` without a timeout has no limit.** -/
theorem TimedCall.spend_lasting (limit : ℤ) (history : ℤ → ConnectivityState)
    (hc : c.isConnected = true) (h : timeoutMs ≤ 0) :
    limit < (TimedCall.subscribe.spend (Stopwatch.lasting limit) c timeoutMs history w).now := by
  have hspend : TimedCall.subscribe.spend (Stopwatch.lasting limit) c timeoutMs history w =
      w.through (Stopwatch.lasting limit) [none] := by
    rw [TimedCall.spend, if_pos hc, TimedCall.deadline_subscribe hc h]
  rw [hspend]
  exact Stopwatch.through_lasting limit

end Calls

end Client
end ClientSdk
