/-
# Reconnecting

`source/robot/client/interfaces_client.cpp`: `Connect` and `Disconnect` called
any number of times, in any order, with any outcome of each step.

A `Connect` that reports an error should not leave the client connected to
something new: the guards of `Send`, `Query`, `Action`, `Subscribe` and
`Unsubscribe` look at `IsConnected` alone.  Of the failing exits, those with a
null channel or a null stub leave `IsConnected` false and those before the
channel is made leave channel and stub as they were.  Two others do neither.
The exit after the wait has `connected_` set already, and an exception of
`NewStub` puts a new channel next to the old stub under a `connected_` left
over from an earlier call.  `Settles` excludes these two, and
`session_failedConnect_iff` says that they are the only ones.
-/

import ClientSdk.Client.Connection
import ClientSdk.Lib.Machine
import Mathlib.Data.List.Induction

namespace ClientSdk
namespace Client

open Common Lib

/-- A call of the connection management, with what it meets. -/
inductive Call where
  | connect (target : String) (env : ConnectEnv)
  | connectTo (serverAddress : String) (port : ℤ) (env : ConnectEnv)
  | disconnect

/-- The status a call reports, if it reports one, and the client after it. -/
def Call.perform : Call → InterfacesClient → Option Status × InterfacesClient
  | .connect target env, c =>
      ((Client.connect target env c).1.toOption, (Client.connect target env c).2)
  | .connectTo serverAddress port env, c =>
      ((Client.connectTo serverAddress port env c).1.toOption,
        (Client.connectTo serverAddress port env c).2)
  | .disconnect, c => (none, Client.disconnect c)

/-- A client of configuration `config`, from its construction on. -/
def session (config : ConfigNode) : Machine InterfacesClient Call where
  init := { loadedConfig := config }
  next c a := (a.perform c).2

/-- The objects held are among those made so far. -/
structure Held (c : InterfacesClient) : Prop where
  channel : ∀ ch, c.impl.channel = some ch → ch.id < c.made
  stub : ∀ st, c.impl.stub = some st → st.id < c.made

variable {c : InterfacesClient} {target : String} {env : ConnectEnv} {config : ClientConfig}

theorem Held.opened (h : Held c) : Held (opened c target config) where
  channel ch hch := by
    obtain rfl : newChannel c target config = ch := Option.some.inj hch
    exact Nat.lt_succ_self _
  stub st hst := Nat.lt_succ_of_lt (h.stub st hst)

theorem Held.built (h : Held c) : Held (built c target config) where
  channel ch hch := by
    have hopened : Held (Client.opened c target config) := h.opened
    exact Nat.lt_succ_of_lt (hopened.channel ch hch)
  stub st hst := by
    obtain rfl : ⟨c.made + 1, newChannel c target config⟩ = st := Option.some.inj hst
    exact Nat.lt_succ_self _

theorem Held.connect (h : Held c) : Held (Client.connect target env c).2 := by
  rcases connect_cases target env c with
    ⟨-, e, c', hc', he⟩ | ⟨-, config, he⟩ | ⟨config, -, ⟨e, -, he⟩ | ⟨-, he⟩ | ⟨-, he⟩⟩ <;>
    rw [he]
  · rcases hc' with rfl | rfl
    · exact h
    · exact ⟨h.channel, h.stub⟩
  · exact ⟨nofun, h.stub⟩
  · exact h.opened
  · exact ⟨h.opened.channel, nofun⟩
  · exact h.built

theorem Held.perform (h : Held c) (a : Call) : Held (a.perform c).2 := by
  cases a with
  | connect target env => exact h.connect
  | connectTo serverAddress port env => exact h.connect
  | disconnect => exact ⟨nofun, nofun⟩

theorem held_init (config : ConfigNode) : Held (session config).init :=
  ⟨nofun, nofun⟩

/-- A new channel is none of those held. -/
theorem Held.newChannel_ne (h : Held c) : some (newChannel c target config) ≠ c.impl.channel := by
  intro he
  exact absurd (h.channel _ he.symm) (Nat.lt_irrefl _)

/-- If the status is an error, the client is not connected or holds the channel
and stub it held before. -/
def FailureHarmless (c : InterfacesClient) (status : Status) (c' : InterfacesClient) : Prop :=
  status.ok = false →
    c'.isConnected = false ∨ c'.impl.channel = c.impl.channel ∧ c'.impl.stub = c.impl.stub

/-- A `Connect` given a channel finds it ready if it is also given a stub, and
meets no exception of `NewStub` while a stub is held under `connected_`. -/
def Settles (c : InterfacesClient) (env : ConnectEnv) : Prop :=
  ∀ config, Opens c env config →
    (env.newStub = .ok true → BecomesReady env config) ∧
    ((∃ e, env.newStub = .error e) → c.impl.connected = true → c.impl.stub = none)

theorem settles_of_not_opens (h : ¬ ∃ config, Opens c env config) : Settles c env :=
  fun config hc => absurd ⟨config, hc⟩ h

theorem Opens.eq {config' : ClientConfig} (h : Opens c env config) (h' : Opens c env config') :
    config' = config := by
  simpa using h'.readConfig.symm.trans h.readConfig

/-- **When a failing `Connect` is harmless.** -/
theorem connect_failureHarmless_iff (hc : Held c) {status : Status}
    (hs : (connect target env c).1 = .ok status) :
    FailureHarmless c status (connect target env c).2 ↔ Settles c env := by
  rcases connect_cases target env c with
    ⟨hno, e, c', hc', he⟩ | ⟨hno, config, he⟩ |
      ⟨config, ho, ⟨e, hstub, he⟩ | ⟨hstub, he⟩ | ⟨hstub, he⟩⟩ <;>
    rw [he] at hs ⊢ <;> obtain rfl := Except.ok.inj hs
  · refine iff_of_true (fun _ => Or.inr ?_) (settles_of_not_opens hno)
    rcases hc' with rfl | rfl <;> exact ⟨rfl, rfl⟩
  · refine iff_of_true (fun _ => Or.inl ?_) (settles_of_not_opens hno)
    simp [InterfacesClient.isConnected, InterfacesClientImpl.isConnected,
      InterfacesClient.setChannel]
  · constructor
    · intro h config' ho'
      obtain rfl := ho.eq ho'
      refine ⟨fun hok => by simp [hstub] at hok, fun _ hconn => ?_⟩
      rcases h (by simp [refused]) with h | ⟨h, -⟩
      · simpa [InterfacesClient.isConnected, InterfacesClientImpl.isConnected, hconn] using h
      · exact absurd h hc.newChannel_ne
    · intro h _
      have hst := (h config ho).2 ⟨e, hstub⟩
      cases hconn : c.impl.connected with
      | false => simp [InterfacesClient.isConnected, InterfacesClientImpl.isConnected, hconn]
      | true => simp [InterfacesClient.isConnected, InterfacesClientImpl.isConnected, hst hconn]
  · refine iff_of_true (fun _ => Or.inl ?_) fun config' _ => ⟨by simp [hstub], by simp [hstub]⟩
    simp [InterfacesClient.isConnected, InterfacesClientImpl.isConnected,
      InterfacesClient.setStub]
  · constructor
    · intro h config' ho'
      obtain rfl := ho.eq ho'
      refine ⟨fun _ => ?_, by simp [hstub]⟩
      rw [← waitStatus_ok_iff]
      by_contra hnot
      rcases h (by simpa using hnot) with h | ⟨h, -⟩
      · simp at h
      · exact absurd h hc.newChannel_ne
    · intro h hfail
      have hready := (waitStatus_ok_iff env config).2 ((h config ho).1 hstub)
      rw [hready] at hfail
      cases hfail

/-- Whatever status a call reports as an error, it is harmless. -/
def Call.FailureHarmless (c : InterfacesClient) (a : Call) (c' : InterfacesClient) : Prop :=
  ∀ status, (a.perform c).1 = some status → Client.FailureHarmless c status c'

/-- The condition on a call, in the state it is made in. -/
def Call.Settles (c : InterfacesClient) : Call → Prop
  | .connect _ env | .connectTo _ _ env => Client.Settles c env
  | .disconnect => True

theorem Call.failureHarmless_iff (hc : Held c) (a : Call) :
    a.FailureHarmless c (a.perform c).2 ↔ a.Settles c := by
  have key : ∀ target env, (∀ status, (Client.connect target env c).1.toOption = some status →
      Client.FailureHarmless c status (Client.connect target env c).2) ↔ Client.Settles c env := by
    intro target env
    obtain ⟨status, hs⟩ := connect_returns target env c
    rw [← connect_failureHarmless_iff hc hs, hs]
    constructor
    · intro h
      exact h status rfl
    · intro h status' hs'
      obtain rfl := Option.some.inj hs'
      exact h
  cases a with
  | connect target env => exact key target env
  | connectTo serverAddress port env => exact key _ env
  | disconnect => exact iff_of_true (fun status h => by cases h) trivial

/-- **Where a connection comes from.**  A client that is connected after a call
meeting `Settles` is so because that call reported success, or was connected to
the same channel and stub before. -/
theorem Call.connected_cases {a : Call} (ha : a.Settles c)
    (h : (a.perform c).2.isConnected = true) :
    (∃ status, (a.perform c).1 = some status ∧ status.ok = true) ∨
      c.isConnected = true ∧ (a.perform c).2.impl.channel = c.impl.channel ∧
        (a.perform c).2.impl.stub = c.impl.stub := by
  have key : ∀ target env, Client.Settles c env →
      (Client.connect target env c).2.isConnected = true →
        (∃ status, (Client.connect target env c).1.toOption = some status ∧ status.ok = true) ∨
          c.isConnected = true ∧
            (Client.connect target env c).2.impl.channel = c.impl.channel ∧
            (Client.connect target env c).2.impl.stub = c.impl.stub := by
    intro target env hset hconn
    rcases connect_cases target env c with ⟨-, e, c', hc', he⟩ | ⟨-, config, he⟩ |
      ⟨config, ho, ⟨e, hstub, he⟩ | ⟨hstub, he⟩ | ⟨hstub, he⟩⟩ <;> rw [he] at hconn ⊢
    · rcases hc' with rfl | rfl <;> exact Or.inr ⟨hconn, rfl, rfl⟩
    · simp [InterfacesClient.isConnected, InterfacesClientImpl.isConnected,
        InterfacesClient.setChannel] at hconn
    · have hst := (hset config ho).2 ⟨e, hstub⟩
      simp [InterfacesClient.isConnected, InterfacesClientImpl.isConnected] at hconn
      simp [hst hconn.1] at hconn
    · simp [InterfacesClient.isConnected, InterfacesClientImpl.isConnected,
        InterfacesClient.setStub] at hconn
    · exact Or.inl ⟨_, rfl, (waitStatus_ok_iff env config).2 ((hset config ho).1 hstub)⟩
  cases a with
  | connect target env => exact key target env ha h
  | connectTo serverAddress port env => exact key _ env ha h
  | disconnect => cases h

/-- Some call of the session reported success and left the channel and the stub
held at its end. -/
def Vouched (config : ConfigNode) (calls : List Call) : Prop :=
  ∃ pre a post status, calls = pre ++ a :: post ∧
    (a.perform ((session config).run pre)).1 = some status ∧ status.ok = true ∧
    ((session config).run (pre ++ [a])).impl.channel = ((session config).run calls).impl.channel ∧
    ((session config).run (pre ++ [a])).impl.stub = ((session config).run calls).impl.stub

theorem vouched_of_everyStep (config : ConfigNode) (calls : List Call)
    (h : (session config).EveryStep (fun c a _ => a.Settles c) calls)
    (hconn : ((session config).run calls).isConnected = true) : Vouched config calls := by
  induction calls using List.reverseRecOn with
  | nil => cases hconn
  | append_singleton calls a ih =>
      obtain ⟨hpre, ha⟩ := Machine.everyStep_concat.1 h
      rw [Machine.run_concat] at hconn
      rcases Call.connected_cases ha hconn with ⟨status, hs, hok⟩ | ⟨hconn', hch, hst⟩
      · exact ⟨calls, a, [], status, rfl, hs, hok, rfl, rfl⟩
      · obtain ⟨pre, b, post, status, rfl, hs, hok, hch', hst'⟩ := ih hpre hconn'
        refine ⟨pre, b, post ++ [a], status, by simp, hs, hok, ?_, ?_⟩
        · rw [hch', Machine.run_concat]
          exact hch.symm
        · rw [hst', Machine.run_concat]
          exact hst.symm

/-- **When failed connects are harmless over a whole session.**  Every `Connect`
that reports an error leaves the client disconnected or as connected as before,
exactly if every `Connect` settles.  If so, whoever is let through to the stub
meets a channel and a stub that some `Connect` of the session reported as
connected. -/
theorem session_failedConnect_iff (config : ConfigNode) (calls : List Call) :
    ((session config).EveryStep (fun c a c' => a.FailureHarmless c c') calls ↔
      (session config).EveryStep (fun c a _ => a.Settles c) calls) ∧
    ((session config).EveryStep (fun c a _ => a.Settles c) calls →
      ((session config).run calls).isConnected = true → Vouched config calls) :=
  ⟨Machine.everyStep_iff (held_init config) (fun _ a hc => hc.perform a)
      (fun _ a hc => a.failureHarmless_iff hc) calls,
    vouched_of_everyStep config calls⟩

/-- The first `Connect` to a peer that does not answer is refused and leaves the
client connected. -/
theorem session_failedConnect_neverReady :
    ¬ (session sampleConfig).EveryStep (fun c a c' => a.FailureHarmless c c')
      [.connect "localhost:50051" (steady .idle)] := by
  intro h
  rcases h [] _ [] rfl (refused "Failed to create gRPC channel") rfl rfl with h | ⟨h, -⟩
  · cases h
  · cases h

end Client
end ClientSdk
