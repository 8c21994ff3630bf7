/-
# The connection of an `InterfacesClient`

`source/robot/client/interfaces_client.cpp`: `Connect`, `Disconnect`,
`IsConnected`, `WaitForChannelReady` and `GetDeadline`.

`Connect` overwrites four members one after the other, with an exit after each:
the target, the channel, the stub, and `connected_`, which it sets before it
waits for the channel to become ready.  No exit undoes what was written before
it (`connect_cases` lists the exits with the members each of them leaves).

The clock counts nanoseconds in a signed 64-bit integer, and an overflow of
`int` or of the clock is read as wrap-around.  While a call waits, its channel
is a function from instants to connectivity states, sampled by `GetState`; only
the one-second sleeps of the loop take time.
-/

import ClientSdk.Common.Stoi
import ClientSdk.Lib.Body
import Mathlib.Algebra.Group.Int.Defs
import Mathlib.Algebra.Group.Nat.Defs
import Mathlib.Tactic.SplitIfs

namespace ClientSdk
namespace Client

open Common Lib

/-- `grpc_connectivity_state`. -/
inductive ConnectivityState where
  | idle
  | connecting
  | ready
  | transientFailure
  | shutdown
deriving DecidableEq, Repr

/-- `int` arithmetic, modulo `2^32`. -/
def wrap32 (x : ℤ) : ℤ := x.bmod (2 ^ 32)

/-- `int64_t` arithmetic, modulo `2^64`. -/
def wrap64 (x : ℤ) : ℤ := x.bmod (2 ^ 64)

/-- `GetDeadline`: the clock reading `now` plus `timeoutMs` milliseconds,
converted to nanoseconds before the addition. -/
def getDeadline (now timeoutMs : ℤ) : ℤ := wrap64 (now + wrap64 (timeoutMs * 1000000))

/-- One second on the clock, the sleep of the waiting loop. -/
def second : ℤ := 1000000000

/-- The limits handed to the channel. -/
structure ChannelArguments where
  maxReceiveMessageSize : ℤ
  maxSendMessageSize : ℤ
deriving DecidableEq, Repr

/-- A `grpc::Channel`; `id` tells one object from another. -/
structure Channel where
  id : ℕ
  target : String
  args : ChannelArguments
deriving DecidableEq, Repr

/-- An `InterfaceService::Stub` over a channel. -/
structure Stub where
  id : ℕ
  channel : Channel
deriving DecidableEq, Repr

/-- `InterfacesClientImpl`. -/
structure InterfacesClientImpl where
  channel : Option Channel := none
  stub : Option Stub := none
  target : String := ""
  connected : Bool := false
deriving DecidableEq, Repr

/-- `IsConnected`. -/
def InterfacesClientImpl.isConnected (c : InterfacesClientImpl) : Bool :=
  c.connected && c.channel.isSome && c.stub.isSome

/-- The loaded configuration: the string found at a path of keys, or what
reading it there raises. -/
abbrev ConfigNode := List String → Except StdException String

/-- An `InterfacesClient`, with the number of channels and stubs made for it so
far. -/
structure InterfacesClient where
  impl : InterfacesClientImpl := {}
  loadedConfig : ConfigNode
  made : ℕ := 0

namespace InterfacesClient

/-- `IsConnected`. -/
def isConnected (c : InterfacesClient) : Bool := c.impl.isConnected

/-- `target_ = target`. -/
def setTarget (target : String) (c : InterfacesClient) : InterfacesClient :=
  { c with impl.target := target }

@[simp] theorem setTarget_loadedConfig (target : String) (c : InterfacesClient) :
    (c.setTarget target).loadedConfig = c.loadedConfig := rfl

@[simp] theorem setTarget_made (target : String) (c : InterfacesClient) :
    (c.setTarget target).made = c.made := rfl

/-- `channel_ = CreateCustomChannel(target, …, args)`, null unless `created`. -/
def setChannel (created : Bool) (target : String) (args : ChannelArguments)
    (c : InterfacesClient) : InterfacesClient :=
  if created then { c with impl.channel := some ⟨c.made, target, args⟩, made := c.made + 1 }
  else { c with impl.channel := none }

/-- `stub_ = NewStub(channel_)`, null unless `created`. -/
def setStub (created : Bool) (channel : Channel) (c : InterfacesClient) : InterfacesClient :=
  if created then { c with impl.stub := some ⟨c.made, channel⟩, made := c.made + 1 }
  else { c with impl.stub := none }

/-- `connected_ = true`. -/
def setConnected (c : InterfacesClient) : InterfacesClient := { c with impl.connected := true }

end InterfacesClient

/-! ### Waiting for the channel -/

/-- The loop of `WaitForChannelReady` from the clock reading `now` with the
last sample `state`, for at most `sleeps` rounds. -/
def waitLoop (history : ℤ → ConnectivityState) (deadline : ℤ) :
    ℕ → ℤ → ConnectivityState → ConnectivityState
  | 0, _, state => state
  | sleeps + 1, now, state =>
      if state ≠ .ready ∧ now < deadline then
        waitLoop history deadline sleeps (now + second) (history now)
      else state

/-- How often the loop can sleep before the clock reaches the deadline. -/
def sleepsUntil (deadline now : ℤ) : ℕ := ((deadline - now + (second - 1)) / second).toNat

/-- The sample on which the loop of `WaitForChannelReady` ends. -/
def waitFrom (history : ℤ → ConnectivityState) (deadline now : ℤ) (state : ConnectivityState) :
    ConnectivityState :=
  waitLoop history deadline (sleepsUntil deadline now) now state

theorem sleepsUntil_of_le {deadline now : ℤ} (h : deadline ≤ now) :
    sleepsUntil deadline now = 0 := by
  unfold sleepsUntil second
  omega

theorem sleepsUntil_of_lt {deadline now : ℤ} (h : now < deadline) :
    sleepsUntil deadline now = sleepsUntil deadline (now + second) + 1 := by
  unfold sleepsUntil second
  omega

/-- **The bound on the rounds is the loop's own.**  `waitFrom` is the `while`
loop of the source: it never stops for want of rounds. -/
theorem waitFrom_eq (history : ℤ → ConnectivityState) (deadline now : ℤ)
    (state : ConnectivityState) :
    waitFrom history deadline now state =
      if state ≠ .ready ∧ now < deadline then
        waitFrom history deadline (now + second) (history now)
      else state := by
  unfold waitFrom
  by_cases h : now < deadline
  · rw [sleepsUntil_of_lt h]
    rfl
  · rw [sleepsUntil_of_le (Int.not_lt.1 h)]
    simp [waitLoop, h]

/-- `WaitForChannelReady(timeoutMs)` called at the clock reading `now`. -/
def waitForChannelReady (channel : Option Channel) (history : ℤ → ConnectivityState)
    (now timeoutMs : ℤ) : Bool :=
  match channel with
  | none => false
  | some _ => waitFrom history (getDeadline now timeoutMs) now (history now) = .ready

/-! ### Connecting -/

/-- What one `Connect` meets: whether storing the target raises, the outcome of
each call it makes (`true` for a non-null pointer; an exception of
`CreateCustomChannel` stands for one while its arguments are built, too), the
clock reading and the history of the new channel when it waits, and what the
wait raises. -/
structure ConnectEnv where
  storeTarget : Except StdException Unit
  createCustomChannel : Except StdException Bool
  newStub : Except StdException Bool
  now : ℤ
  history : ℤ → ConnectivityState
  wait : Except StdException Unit

/-- The three numbers `Connect` reads from its configuration. -/
structure ClientConfig where
  maxReceiveMb : ℤ
  maxSendMb : ℤ
  channelReadyTimeoutMs : ℤ
deriving DecidableEq, Repr

/-- `std::stoi` of the string at a path below
`software.communication.grpc_client`. -/
def readInt (config : ConfigNode) (path : List String) : Except StdException ℤ :=
  config (["software", "communication", "grpc_client"] ++ path) >>= stoi

/-- The reads of the configuration, in the source's order. -/
def readConfig (config : ConfigNode) : Except StdException ClientConfig := do
  let maxReceiveMb ← readInt config ["channel", "max_receive_mb"]
  let maxSendMb ← readInt config ["channel", "max_send_mb"]
  let channelReadyTimeoutMs ← readInt config ["connection", "channel_ready_timeout_ms"]
  return ⟨maxReceiveMb, maxSendMb, channelReadyTimeoutMs⟩

/-- `max_receive_mb * 1024 * 1024` and `max_send_mb * 1024 * 1024`, in `int`. -/
def ClientConfig.args (c : ClientConfig) : ChannelArguments :=
  ⟨wrap32 (c.maxReceiveMb * 1024 * 1024), wrap32 (c.maxSendMb * 1024 * 1024)⟩

/-- The status of the failing exits of `Connect`. -/
def refused (message : String) : Status := .error .connectionRefused message

/-- `Connect(target)`. -/
def connect (target : String) (env : ConnectEnv) :
    InterfacesClient → Except StdException Status × InterfacesClient :=
  Body.call <| Body.tryCatch
    (do
      Body.lift env.storeTarget
      Body.modify (·.setTarget target)
      let loadedConfig ← Body.gets InterfacesClient.loadedConfig
      let config ← Body.lift (readConfig loadedConfig)
      let created ← Body.lift env.createCustomChannel
      Body.modify (·.setChannel created target config.args)
      let some channel ← Body.gets (·.impl.channel)
        | Body.ret (refused "Failed to create gRPC channel")
      let created ← Body.lift env.newStub
      Body.modify (·.setStub created channel)
      let some _ ← Body.gets (·.impl.stub)
        | Body.ret (refused "Failed to create service stub")
      Body.modify InterfacesClient.setConnected
      Body.lift env.wait
      if waitForChannelReady (some channel) env.history env.now config.channelReadyTimeoutMs then
        Body.ret {}
      else
        Body.ret (refused "Failed to create gRPC channel"))
    (fun e => Body.ret (refused ("Connection failed: " ++ e.what)))

/-- `Connect(server_address, port)`. -/
def connectTo (serverAddress : String) (port : ℤ) (env : ConnectEnv) :
    InterfacesClient → Except StdException Status × InterfacesClient :=
  connect (serverAddress ++ ":" ++ toString port) env

/-- `Disconnect`. -/
def disconnect (c : InterfacesClient) : InterfacesClient :=
  { c with impl.stub := none, impl.channel := none, impl.connected := false }

/-! ### The exits of `Connect` -/

variable {c : InterfacesClient} {target : String} {env : ConnectEnv} {config : ClientConfig}

/-- `Connect` gets past its configuration and is given a channel. -/
structure Opens (c : InterfacesClient) (env : ConnectEnv) (config : ClientConfig) : Prop where
  storeTarget : env.storeTarget = .ok ()
  readConfig : readConfig c.loadedConfig = .ok config
  createCustomChannel : env.createCustomChannel = .ok true

/-- The wait for the channel raises nothing and sees it ready. -/
def BecomesReady (env : ConnectEnv) (config : ClientConfig) : Prop :=
  env.wait = .ok () ∧
    waitFrom env.history (getDeadline env.now config.channelReadyTimeoutMs) env.now
      (env.history env.now) = .ready

/-- The channel a `Connect` makes. -/
def newChannel (c : InterfacesClient) (target : String) (config : ClientConfig) : Channel :=
  ⟨c.made, target, config.args⟩

/-- The client once `Connect` holds its new channel. -/
def opened (c : InterfacesClient) (target : String) (config : ClientConfig) : InterfacesClient :=
  (c.setTarget target).setChannel true target config.args

/-- The client once `Connect` holds its new channel and stub and has set
`connected_`. -/
def built (c : InterfacesClient) (target : String) (config : ClientConfig) : InterfacesClient :=
  ((opened c target config).setStub true (newChannel c target config)).setConnected

@[simp] theorem opened_channel :
    (opened c target config).impl.channel = some (newChannel c target config) := rfl

@[simp] theorem opened_stub : (opened c target config).impl.stub = c.impl.stub := rfl

@[simp] theorem opened_connected :
    (opened c target config).impl.connected = c.impl.connected := rfl

@[simp] theorem built_channel :
    (built c target config).impl.channel = some (newChannel c target config) := rfl

@[simp] theorem built_stub :
    (built c target config).impl.stub = some ⟨c.made + 1, newChannel c target config⟩ := rfl

@[simp] theorem built_isConnected : (built c target config).isConnected = true := rfl

/-- What comes of a `Connect` up to the channel it makes. -/
def channelOutcome (c : InterfacesClient) (env : ConnectEnv) : Except StdException Bool := do
  env.storeTarget
  let _ ← readConfig c.loadedConfig
  env.createCustomChannel

theorem channelOutcome_ok_iff {created : Bool} :
    channelOutcome c env = .ok created ↔ env.storeTarget = .ok () ∧
      (∃ config, readConfig c.loadedConfig = .ok config) ∧
      env.createCustomChannel = .ok created := by
  unfold channelOutcome
  cases ht : env.storeTarget <;> cases hc : readConfig c.loadedConfig <;>
    simp [bind, Except.bind]

/-- An exception before the channel is made leaves everything but the target,
and that too if it was the target that could not be stored. -/
theorem connect_of_early_error {e : StdException}
    (h : channelOutcome c env = .error e) :
    ∃ c', (c' = c ∨ c' = c.setTarget target) ∧
      connect target env c = (.ok (refused ("Connection failed: " ++ e.what)), c') := by
  unfold channelOutcome at h
  cases ht : env.storeTarget with
  | error e' =>
      obtain rfl : e' = e := by simpa [ht, bind, Except.bind] using h
      exact ⟨c, Or.inl rfl, by simp [connect, ht]⟩
  | ok u =>
      refine ⟨c.setTarget target, Or.inr rfl, ?_⟩
      cases hc : readConfig c.loadedConfig with
      | error e' =>
          obtain rfl : e' = e := by simpa [ht, hc, bind, Except.bind] using h
          simp [connect, ht, hc]
      | ok config =>
          have hch : env.createCustomChannel = .error e := by
            simpa [ht, hc, bind, Except.bind] using h
          simp [connect, ht, hc, hch]

/-- A null channel is stored, and reported. -/
theorem connect_of_null_channel (ht : env.storeTarget = .ok ())
    (h : readConfig c.loadedConfig = .ok config) (hch : env.createCustomChannel = .ok false) :
    connect target env c = (.ok (refused "Failed to create gRPC channel"),
      (c.setTarget target).setChannel false target config.args) := by
  simp [connect, ht, h, hch, InterfacesClient.setChannel]

/-- An exception of `NewStub` leaves the new channel next to the old stub. -/
theorem connect_of_stub_error {e : StdException} (h : Opens c env config)
    (hstub : env.newStub = .error e) :
    connect target env c =
      (.ok (refused ("Connection failed: " ++ e.what)), opened c target config) := by
  simp [connect, h.storeTarget, h.readConfig, h.createCustomChannel, hstub, opened,
    InterfacesClient.setChannel]

/-- A null stub is stored, and reported. -/
theorem connect_of_null_stub (h : Opens c env config) (hstub : env.newStub = .ok false) :
    connect target env c = (.ok (refused "Failed to create service stub"),
      (opened c target config).setStub false (newChannel c target config)) := by
  simp [connect, h.storeTarget, h.readConfig, h.createCustomChannel, hstub, opened,
    InterfacesClient.setChannel, InterfacesClient.setStub]

/-- What `Connect` returns once it holds its channel and stub. -/
def waitStatus (env : ConnectEnv) (config : ClientConfig) : Status :=
  match env.wait with
  | .error e => refused ("Connection failed: " ++ e.what)
  | .ok () =>
      if waitFrom env.history (getDeadline env.now config.channelReadyTimeoutMs) env.now
          (env.history env.now) = .ready then {}
      else refused "Failed to create gRPC channel"

theorem waitStatus_ok_iff (env : ConnectEnv) (config : ClientConfig) :
    (waitStatus env config).ok = true ↔ BecomesReady env config := by
  unfold waitStatus BecomesReady
  cases env.wait with
  | error e => simp [refused]
  | ok u => split_ifs with hr <;> simp [refused, hr]

/-- **Past the stub, the outcome of the wait decides the status and nothing
else.**  Whether or not the channel becomes ready, the client holds the new
channel and stub and has `connected_` set. -/
theorem connect_of_stub (h : Opens c env config) (hstub : env.newStub = .ok true) :
    connect target env c = (.ok (waitStatus env config), built c target config) := by
  have hb : (((c.setTarget target).setChannel true target config.args).setStub true
      (newChannel c target config)).setConnected = built c target config := rfl
  cases hw : env.wait with
  | error e =>
      simp [connect, h.storeTarget, h.readConfig, h.createCustomChannel, hstub, hw, ← hb,
        waitStatus, newChannel, InterfacesClient.setChannel, InterfacesClient.setStub]
  | ok u =>
      by_cases hr : waitFrom env.history (getDeadline env.now config.channelReadyTimeoutMs)
          env.now (env.history env.now) = .ready <;>
        simp [connect, h.storeTarget, h.readConfig, h.createCustomChannel, hstub, hw, ← hb,
          waitStatus, newChannel, InterfacesClient.setChannel, InterfacesClient.setStub,
          waitForChannelReady, hr]

/-- **The exits of `Connect`**, with what each of them returns and leaves. -/
theorem connect_cases (target : String) (env : ConnectEnv) (c : InterfacesClient) :
    (¬ (∃ config, Opens c env config) ∧ ∃ (e : StdException) (c' : InterfacesClient),
        (c' = c ∨ c' = c.setTarget target) ∧
          connect target env c = (.ok (refused ("Connection failed: " ++ e.what)), c')) ∨
    (¬ (∃ config, Opens c env config) ∧ ∃ config : ClientConfig, connect target env c =
        (.ok (refused "Failed to create gRPC channel"),
          (c.setTarget target).setChannel false target config.args)) ∨
    ∃ config, Opens c env config ∧
      ((∃ e, env.newStub = .error e ∧ connect target env c =
          (.ok (refused ("Connection failed: " ++ e.what)), opened c target config)) ∨
       (env.newStub = .ok false ∧ connect target env c =
          (.ok (refused "Failed to create service stub"),
            (opened c target config).setStub false (newChannel c target config))) ∨
       (env.newStub = .ok true ∧
          connect target env c = (.ok (waitStatus env config), built c target config))) := by
  cases hout : channelOutcome c env with
  | error e =>
      refine Or.inl ⟨fun ⟨config, h⟩ => ?_, e, connect_of_early_error hout⟩
      have hok : channelOutcome c env = .ok true :=
        channelOutcome_ok_iff.2 ⟨h.storeTarget, ⟨config, h.readConfig⟩, h.createCustomChannel⟩
      cases hout.symm.trans hok
  | ok created =>
      obtain ⟨ht, ⟨config, hc⟩, hch⟩ := channelOutcome_ok_iff.1 hout
      cases created with
      | false =>
          refine Or.inr (Or.inl ⟨fun ⟨config, h⟩ => ?_, config,
            connect_of_null_channel ht hc hch⟩)
          cases hch.symm.trans h.createCustomChannel
      | true =>
          have h : Opens c env config := ⟨ht, hc, hch⟩
          refine Or.inr (Or.inr ⟨config, h, ?_⟩)
          cases hstub : env.newStub with
          | error e => exact Or.inl ⟨e, rfl, connect_of_stub_error h hstub⟩
          | ok created =>
              cases created with
              | false => exact Or.inr (Or.inl ⟨rfl, connect_of_null_stub h hstub⟩)
              | true => exact Or.inr (Or.inr ⟨rfl, connect_of_stub h hstub⟩)

/-- **`Connect` never throws.** -/
theorem connect_returns (target : String) (env : ConnectEnv) (c : InterfacesClient) :
    ∃ status, (connect target env c).1 = .ok status := by
  rcases connect_cases target env c with
    ⟨-, e, c', -, h⟩ | ⟨-, config, h⟩ | ⟨config, -, ⟨e, -, h⟩ | ⟨-, h⟩ | ⟨-, h⟩⟩ <;>
    exact ⟨_, congrArg Prod.fst h⟩

/-! ### An instance -/

/-- A configuration of 100 MB each way and a wait of one second. -/
def sampleConfig : ConfigNode := fun path =>
  if path.getLast? = some "channel_ready_timeout_ms" then .ok "1000" else .ok "100"

/-- A channel and a stub are made, and the channel stays in one state. -/
def steady (state : ConnectivityState) : ConnectEnv where
  storeTarget := .ok ()
  createCustomChannel := .ok true
  newStub := .ok true
  now := 0
  history _ := state
  wait := .ok ()

end Client
end ClientSdk
