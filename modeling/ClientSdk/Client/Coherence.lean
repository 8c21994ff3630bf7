/-
# One connection at a time

`source/robot/client/interfaces_client.cpp`: `Connect`, `Disconnect`,
`IsConnected` and `GetChannelState`.

A connection is a target, a channel made for it and a stub made over that
channel.  `Connect` replaces the three one after the other, and an exception in
between replaces a part of them: the target alone, or the target and the channel.
`connected_` is what a successful call left, and the exception does not reset it,
so the client goes on as connected.  `Disconnect` and the exits with a null
channel or a null stub take the connection apart.

`session_coherent_iff` says which calls of a session leave parts of two
connections together.
-/

import ClientSdk.Client.Calls
import ClientSdk.Client.Reconnect

namespace ClientSdk
namespace Client

open Common Lib

/-- `GetChannelState(try_to_connect)`; `state` is what the channels answer. -/
def getChannelState (c : InterfacesClient) (state : Channel → ConnectivityState) :
    ConnectivityState :=
  match c.impl.channel with
  | none => .shutdown
  | some channel => state channel

/-- A client that is connected holds one connection: its stub was made over its
channel, and its channel for its target. -/
def Coherent (c : InterfacesClient) : Prop :=
  c.isConnected = true → ∃ channel stub, c.impl.channel = some channel ∧
    c.impl.stub = some stub ∧ stub.channel = channel ∧ channel.target = c.impl.target

/-- A connected client that is coherent tells the state of the channel its calls
go over. -/
theorem Coherent.getChannelState {c : InterfacesClient} (h : Coherent c)
    (hconn : c.isConnected = true) (state : Channel → ConnectivityState) :
    Client.getChannelState c state = state (c.impl.heldStub hconn).channel := by
  obtain ⟨channel, stub, hch, hst, rfl, -⟩ := h hconn
  simp [Client.getChannelState, InterfacesClientImpl.heldStub, hch, hst]

/-! ### What one `Connect` leaves together -/

variable {c : InterfacesClient} {target : String} {env : ConnectEnv} {config : ClientConfig}

/-- A client that is not connected is coherent. -/
theorem coherent_of_not_connected (h : c.isConnected = false) : Coherent c := fun hconn => by
  rw [h] at hconn
  cases hconn

theorem connected_of_isConnected (h : c.isConnected = true) : c.impl.connected = true :=
  (Bool.and_eq_true_iff.1 (Bool.and_eq_true_iff.1 h).1).1

theorem isConnected_of_channel_none (h : c.impl.channel = none) : c.isConnected = false := by
  simp [InterfacesClient.isConnected, InterfacesClientImpl.isConnected, h]

theorem isConnected_of_stub_none (h : c.impl.stub = none) : c.isConnected = false := by
  simp [InterfacesClient.isConnected, InterfacesClientImpl.isConnected, h]

/-- The objects held, and the channel below the stub, are among those made so
far. -/
structure Owned (c : InterfacesClient) : Prop extends Held c where
  stubChannel : ∀ st, c.impl.stub = some st → st.channel.id < c.made

theorem Owned.connect (h : Owned c) : Owned (Client.connect target env c).2 := by
  refine ⟨h.toHeld.connect, ?_⟩
  rcases connect_cases target env c with
    ⟨-, e, c', hc', he⟩ | ⟨-, config, he⟩ | ⟨config, -, ⟨e, -, he⟩ | ⟨-, he⟩ | ⟨-, he⟩⟩ <;>
    rw [he]
  · rcases hc' with rfl | rfl <;> exact h.stubChannel
  · exact h.stubChannel
  · intro st hst
    exact Nat.lt_succ_of_lt (h.stubChannel st hst)
  · exact nofun
  · intro st hst
    obtain rfl : ⟨c.made + 1, newChannel c target config⟩ = st := Option.some.inj hst
    exact Nat.lt_succ_of_lt (Nat.lt_succ_self c.made)

theorem Owned.perform (h : Owned c) (a : Call) : Owned (a.perform c).2 := by
  cases a with
  | connect target env => exact h.connect
  | connectTo serverAddress port env => exact h.connect
  | disconnect => exact ⟨h.toHeld.perform .disconnect, nofun⟩

theorem owned_init (config : ConfigNode) : Owned (session config).init :=
  ⟨held_init config, nofun⟩

/-- An exception that comes after the target was stored and before the channel is
made meets a client that is not connected, or is given the target it has; and an
exception of `NewStub` meets no stub held under `connected_`. -/
structure Replaces (c : InterfacesClient) (target : String) (env : ConnectEnv) : Prop where
  channel : env.storeTarget = .ok () → (∃ e, channelOutcome c env = .error e) →
    c.isConnected = true → c.impl.target = target
  stub : channelOutcome c env = .ok true → (∃ e, env.newStub = .error e) →
    c.impl.connected = true → c.impl.stub = none

/-- An exception of storing the target leaves everything. -/
theorem connect_of_not_stored {e : StdException} (ht : env.storeTarget = .error e) :
    (connect target env c).2 = c := by simp [connect, ht]

/-- A later one that comes before the channel is made leaves the new target. -/
theorem connect_of_no_channel {e : StdException} (ht : env.storeTarget = .ok ())
    (h : channelOutcome c env = .error e) : (connect target env c).2 = c.setTarget target := by
  cases hc : readConfig c.loadedConfig with
  | error e' => simp [connect, ht, hc]
  | ok config =>
      have hch : env.createCustomChannel = .error e := by
        simpa [channelOutcome, ht, hc, bind, Except.bind] using h
      simp [connect, ht, hc, hch]

/-- A new target is coherent with an old connection exactly if it is the old
one. -/
theorem coherent_setTarget_iff (h : Coherent c) :
    Coherent (c.setTarget target) ↔ (c.isConnected = true → c.impl.target = target) := by
  constructor
  · intro h' hconn
    obtain ⟨channel, stub, hch, -, -, htarget⟩ := h hconn
    obtain ⟨channel', stub', hch', -, -, htarget'⟩ := h' hconn
    obtain rfl : channel = channel' := Option.some.inj (hch.symm.trans hch')
    exact htarget.symm.trans htarget'
  · intro htarget hconn
    obtain ⟨channel, stub, hch, hst, hover, hfor⟩ := h hconn
    exact ⟨channel, stub, hch, hst, hover, hfor.trans (htarget hconn)⟩

/-- An old stub is never coherent with a new channel. -/
theorem coherent_opened_iff (h : Owned c) :
    Coherent (opened c target config) ↔ (c.impl.connected = true → c.impl.stub = none) := by
  constructor
  · intro h' hconn
    cases hst : c.impl.stub with
    | none => rfl
    | some st =>
        have hconn' : (opened c target config).isConnected = true := by
          simp [InterfacesClient.isConnected, InterfacesClientImpl.isConnected, hconn, hst]
        obtain ⟨channel, stub, hch, hst', hover, -⟩ := h' hconn'
        obtain rfl : st = stub := Option.some.inj (hst.symm.trans hst')
        obtain rfl : newChannel c target config = channel := Option.some.inj hch
        have hlt : st.channel.id < c.made := h.stubChannel st hst
        rw [hover] at hlt
        exact absurd hlt (Nat.lt_irrefl _)
  · intro hstub hconn
    have hnone : (opened c target config).impl.stub = none :=
      hstub (connected_of_isConnected (c := opened c target config) hconn)
    rw [isConnected_of_stub_none hnone] at hconn
    cases hconn

/-- A new channel and a new stub over it are coherent. -/
theorem coherent_built : Coherent (built c target config) := fun _ =>
  ⟨_, _, built_channel, built_stub, rfl, rfl⟩

/-- **When one `Connect` leaves one connection.** -/
theorem connect_coherent_iff (ho : Owned c) (h : Coherent c) :
    Coherent (connect target env c).2 ↔ Replaces c target env := by
  cases hout : channelOutcome c env with
  | error e =>
      have hstub : channelOutcome c env = .ok true → False := by
        rw [hout]
        exact nofun
      cases ht : env.storeTarget with
      | error e' =>
          rw [connect_of_not_stored ht]
          refine iff_of_true h ⟨?_, fun hok => (hstub hok).elim⟩
          rw [ht]
          exact nofun
      | ok u =>
          rw [connect_of_no_channel ht hout, coherent_setTarget_iff h]
          exact ⟨fun htarget => ⟨fun _ _ => htarget, fun hok => (hstub hok).elim⟩,
            fun hr => hr.channel ht ⟨e, hout⟩⟩
  | ok created =>
      obtain ⟨ht, ⟨config, hc⟩, hch⟩ := channelOutcome_ok_iff.1 hout
      have hno : ¬ ∃ e, channelOutcome c env = .error e := by
        rintro ⟨e, he⟩
        cases hout.symm.trans he
      cases created with
      | false =>
          rw [connect_of_null_channel ht hc hch]
          refine iff_of_true (coherent_of_not_connected (isConnected_of_channel_none rfl))
            ⟨fun _ he => absurd he hno, fun hok => ?_⟩
          cases hout.symm.trans hok
      | true =>
          have hopens : Opens c env config := ⟨ht, hc, hch⟩
          cases hstub : env.newStub with
          | error e =>
              rw [connect_of_stub_error hopens hstub, coherent_opened_iff ho]
              exact ⟨fun hnone => ⟨fun _ he => absurd he hno, fun _ _ => hnone⟩,
                fun hr => hr.stub hout ⟨e, hstub⟩⟩
          | ok created =>
              have hr : Replaces c target env := by
                refine ⟨fun _ he => absurd he hno, fun _ he => ?_⟩
                obtain ⟨e, he⟩ := he
                cases hstub.symm.trans he
              cases created with
              | false =>
                  rw [connect_of_null_stub hopens hstub]
                  exact iff_of_true (coherent_of_not_connected (isConnected_of_stub_none rfl)) hr
              | true =>
                  rw [connect_of_stub hopens hstub]
                  exact iff_of_true coherent_built hr

/-! ### Sessions -/

/-- The condition on a call, in the state it is made in. -/
def Call.Replaces (c : InterfacesClient) : Call → Prop
  | .connect target env => Client.Replaces c target env
  | .connectTo serverAddress port env =>
      Client.Replaces c (serverAddress ++ ":" ++ toString port) env
  | .disconnect => True

theorem Call.coherent_iff (a : Call) (ho : Owned c) (h : Coherent c) :
    Coherent (a.perform c).2 ↔ a.Replaces c := by
  cases a with
  | connect target env => exact connect_coherent_iff ho h
  | connectTo serverAddress port env => exact connect_coherent_iff ho h
  | disconnect => exact iff_of_true (coherent_of_not_connected rfl) trivial

/-- **When a session holds one connection at a time.**  In every state of it a
connected client has a stub made over its channel and a channel made for its
target, exactly if no exception of a `Connect` leaves a part of a connection in
place of that of a client that stays connected. -/
theorem session_coherent_iff (config : ConfigNode) (calls : List Call) :
    (session config).EveryState Coherent calls ↔
      (session config).EveryStep (fun c a _ => a.Replaces c) calls :=
  Machine.everyState_iff (owned_init config) (coherent_of_not_connected rfl)
    (fun _ a ho => ho.perform a) (fun _ a ho h => a.coherent_iff ho h) calls

/-- No channel is made: `CreateCustomChannel` raises. -/
def noChannel : ConnectEnv :=
  { steady .ready with createCustomChannel := .error (.other "no resources") }

/-- A connected client is told to connect to another robot and no channel can be
made: it stays connected to the first robot under the name of the second. -/
theorem session_coherent_retargeted :
    ¬ (session sampleConfig).EveryState Coherent
      [.connect "localhost:50051" (steady .ready), .connect "localhost:50052" noChannel] := by
  intro h
  obtain ⟨channel, stub, hch, -, -, htarget⟩ := h _ [] (List.append_nil _).symm rfl
  have hheld : ((session sampleConfig).run [.connect "localhost:50051" (steady .ready),
      .connect "localhost:50052" noChannel]).impl.channel.map Channel.target =
      some "localhost:50051" := rfl
  rw [hch] at hheld
  exact absurd (htarget.symm.trans (Option.some.inj hheld)) (by decide)

end Client
end ClientSdk
