/-
# The limits of a channel

`source/robot/client/interfaces_client.cpp`: what `Connect` makes of
`max_receive_mb` and `max_send_mb`.

The configuration gives the limits in megabytes, as any number `std::stoi` accepts;
the channel takes them in bytes, as an `int`.  The product is formed in `int`
without a check, so it is the limit configured only for the numbers from -2048 to
2047: 2048 megabytes come out negative and 4096 as zero.

`connect_limitsKept_iff` says which configurations are kept.
-/

import ClientSdk.Client.Connection
import ClientSdk.Lib.Wrap

namespace ClientSdk
namespace Client

open Common Lib

/-! ### One limit -/

/-- The bytes of a megabyte. -/
def megabyte : ℤ := 1048576

/-- The number of bytes is an `int`. -/
def Representable (mb : ℤ) : Prop := intMin ≤ mb * megabyte ∧ mb * megabyte ≤ intMax

/-- The limit `limit`, in bytes, is the one configured in megabytes: it is neither
unlimited nor nothing where some is allowed, nor below a lower number of
megabytes. -/
structure LimitKept (mb limit : ℤ) : Prop where
  exact : limit = mb * megabyte
  positive : 0 < mb → 0 < limit
  above : ∀ lower ≤ mb, lower * megabyte ≤ limit

/-- The limits that are kept are few. -/
theorem representable_iff {mb : ℤ} : Representable mb ↔ -2048 ≤ mb ∧ mb ≤ 2047 := by
  unfold Representable megabyte intMin intMax
  omega

theorem representable_iff_fits {mb : ℤ} :
    Representable mb ↔ Fits (2 ^ 32) (mb * 1024 * 1024) := by
  unfold Representable megabyte intMin intMax Fits
  omega

/-- **The product in `int` keeps a limit** exactly if that is an `int`. -/
theorem limitKept_iff {mb : ℤ} :
    LimitKept mb (wrap32 (mb * 1024 * 1024)) ↔ Representable mb := by
  have hbytes : mb * 1024 * 1024 = mb * megabyte := Int.mul_assoc ..
  have hself : wrap32 (mb * 1024 * 1024) = mb * 1024 * 1024 ↔ Representable mb :=
    (bmod_eq_self_iff (by decide)).trans representable_iff_fits.symm
  constructor
  · intro h
    rw [← hself, h.exact, hbytes]
  · intro h
    have hexact : wrap32 (mb * 1024 * 1024) = mb * megabyte := (hself.2 h).trans hbytes
    rw [hexact]
    refine ⟨rfl, fun hpos => ?_, fun lower hle => ?_⟩
    · unfold megabyte
      omega
    · unfold megabyte
      omega

/-! ### The channel a `Connect` is given -/

variable {c : InterfacesClient} {target : String} {env : ConnectEnv} {config : ConfigNode}
  {channel : Channel}

/-- This `Connect` was given the channel `channel`, made for it. -/
structure Gives (c : InterfacesClient) (target : String) (env : ConnectEnv) (channel : Channel) :
    Prop where
  held : (connect target env c).2.impl.channel = some channel
  made : c.made < (connect target env c).2.made

/-- The channel of a `Connect` has the limits its configuration comes to. -/
theorem gives_iff :
    Gives c target env channel ↔ ∃ config, Opens c env config ∧
      channel = newChannel c target config := by
  rcases connect_cases target env c with
    ⟨hno, e, c', hc', he⟩ | ⟨hno, config, he⟩ | ⟨config, hopens, hexit⟩
  · refine iff_of_false (fun h => ?_) fun ⟨config, h, _⟩ => hno ⟨config, h⟩
    have hmade := h.made
    rw [he] at hmade
    rcases hc' with rfl | rfl <;> exact absurd hmade (Nat.lt_irrefl _)
  · refine iff_of_false (fun h => ?_) fun ⟨config, h, _⟩ => hno ⟨config, h⟩
    have hmade := h.made
    rw [he] at hmade
    exact absurd hmade (Nat.lt_irrefl _)
  · have hnew : Gives c target env (newChannel c target config) := by
      rcases hexit with ⟨e, -, he⟩ | ⟨-, he⟩ | ⟨-, he⟩
      · exact ⟨by rw [he]; rfl, by rw [he]; exact Nat.lt_succ_self _⟩
      · exact ⟨by rw [he]; rfl, by rw [he]; exact Nat.lt_succ_self _⟩
      · exact ⟨by rw [he]; rfl, by rw [he]; exact Nat.lt_add_of_pos_right Nat.two_pos⟩
    constructor
    · intro h
      exact ⟨config, hopens, Option.some.inj (h.held.symm.trans hnew.held)⟩
    · rintro ⟨config', hopens', rfl⟩
      obtain rfl : config = config' :=
        Except.ok.inj (hopens.readConfig.symm.trans hopens'.readConfig)
      exact hnew

/-- A `Connect` that is given no channel reports an error. -/
theorem connect_error_of_not_opens (h : ¬ ∃ config, Opens c env config) :
    ∃ status, (connect target env c).1 = .ok status ∧ status.ok = false := by
  rcases connect_cases target env c with
    ⟨-, e, c', -, he⟩ | ⟨-, config, he⟩ | ⟨config, hopens, -⟩
  · exact ⟨_, congrArg Prod.fst he, Status.ok_error _ _⟩
  · exact ⟨_, congrArg Prod.fst he, Status.ok_error _ _⟩
  · exact absurd ⟨config, hopens⟩ h

/-! ### Configurations -/

/-- Of every `Connect` with the configuration `config`, whose limits are `receive` and
`send` megabytes: a channel it makes has these limits, and if they are no `int` it
reports an error and makes none. -/
structure LimitsKept (config : ConfigNode) (receive send : ℤ) : Prop where
  kept : ∀ c target env channel, c.loadedConfig = config → Gives c target env channel →
    LimitKept receive channel.args.maxReceiveMessageSize ∧
      LimitKept send channel.args.maxSendMessageSize
  refused : ¬ (Representable receive ∧ Representable send) →
    ∀ c target env, c.loadedConfig = config → (∀ channel, ¬ Gives c target env channel) ∧
      ∃ status, (connect target env c).1 = .ok status ∧ status.ok = false

section Config

variable {receive send : ℤ} (hr : readInt config ["channel", "max_receive_mb"] = .ok receive)
  (hs : readInt config ["channel", "max_send_mb"] = .ok send)
include hr hs

/-- With both limits read, the whole configuration is read with the third number. -/
theorem readConfig_ok_iff {cfg : ClientConfig} :
    readConfig config = .ok cfg ↔ ∃ timeoutMs,
      readInt config ["connection", "channel_ready_timeout_ms"] = .ok timeoutMs ∧
        cfg = ⟨receive, send, timeoutMs⟩ := by
  unfold readConfig
  rw [hr, hs]
  cases readInt config ["connection", "channel_ready_timeout_ms"] with
  | error e => simp
  | ok timeoutMs => simp [eq_comm]

/-- **Which configurations are kept.**  Exactly those whose limits are an `int` in
bytes, and those that no channel is made with because their third number is not
read. -/
theorem connect_limitsKept_iff :
    LimitsKept config receive send ↔ (Representable receive ∧ Representable send) ∨
      ∀ timeoutMs,
        readInt config ["connection", "channel_ready_timeout_ms"] ≠ .ok timeoutMs := by
  constructor
  · intro h
    by_cases hrep : Representable receive ∧ Representable send
    · exact Or.inl hrep
    · refine Or.inr fun timeoutMs ht => ?_
      -- A client whose calls all succeed is given a channel.
      let c : InterfacesClient := { loadedConfig := config }
      have hread : readConfig c.loadedConfig = .ok ⟨receive, send, timeoutMs⟩ :=
        (readConfig_ok_iff hr hs).2 ⟨timeoutMs, ht, rfl⟩
      have hopens : Opens c (steady .ready) ⟨receive, send, timeoutMs⟩ := ⟨rfl, hread, rfl⟩
      exact (h.refused hrep c "" (steady .ready) rfl).1 _ (gives_iff.2 ⟨_, hopens, rfl⟩)
  · intro h
    refine ⟨?_, ?_⟩
    · rintro c target env channel rfl hgives
      obtain ⟨cfg, hopens, rfl⟩ := gives_iff.1 hgives
      obtain ⟨timeoutMs, ht, rfl⟩ := (readConfig_ok_iff hr hs).1 hopens.readConfig
      rcases h with ⟨hreceive, hsend⟩ | hno
      · exact ⟨limitKept_iff.2 hreceive, limitKept_iff.2 hsend⟩
      · exact absurd ht (hno timeoutMs)
    · rintro hrep c target env rfl
      have hno := h.resolve_left hrep
      have hclosed : ¬ ∃ cfg, Opens c env cfg := by
        rintro ⟨cfg, hopens⟩
        obtain ⟨timeoutMs, ht, -⟩ := (readConfig_ok_iff hr hs).1 hopens.readConfig
        exact hno timeoutMs ht
      refine ⟨fun channel hgives => ?_, connect_error_of_not_opens hclosed⟩
      obtain ⟨cfg, hopens, -⟩ := gives_iff.1 hgives
      exact hclosed ⟨cfg, hopens⟩

end Config

/-- A hundred megabytes are kept. -/
theorem connect_limitsKept_sample : LimitsKept sampleConfig 100 100 := by
  have hr : readInt sampleConfig ["channel", "max_receive_mb"] = .ok 100 := rfl
  have hs : readInt sampleConfig ["channel", "max_send_mb"] = .ok 100 := rfl
  have hrep : Representable 100 := representable_iff.2 (by decide)
  exact (connect_limitsKept_iff hr hs).2 (Or.inl ⟨hrep, hrep⟩)

/-- A configuration of two gigabytes to receive and 100 MB to send. -/
def twoGigabytes : ConfigNode := fun path =>
  if path.getLast? = some "max_receive_mb" then .ok "2048" else sampleConfig path

/-- Two gigabytes come out as a negative limit. -/
theorem connect_limitsKept_twoGigabytes :
    readInt twoGigabytes ["channel", "max_receive_mb"] = .ok 2048 ∧
      readInt twoGigabytes ["channel", "max_send_mb"] = .ok 100 ∧
      Gives { loadedConfig := twoGigabytes } "localhost:50051" (steady .ready)
        ⟨0, "localhost:50051", ⟨-2147483648, 104857600⟩⟩ ∧
      ¬ LimitsKept twoGigabytes 2048 100 := by
  have hgives : Gives { loadedConfig := twoGigabytes } "localhost:50051" (steady .ready)
      ⟨0, "localhost:50051", ⟨-2147483648, 104857600⟩⟩ :=
    gives_iff.2 ⟨⟨2048, 100, 1000⟩, ⟨rfl, rfl, rfl⟩, by decide⟩
  refine ⟨rfl, rfl, hgives, fun h => ?_⟩
  have hpos := (h.kept _ _ _ _ rfl hgives).1.positive (by decide)
  exact absurd hpos (by decide)

end Client
end ClientSdk
