/-
# Which robot a command reaches

A call goes through the stub the client holds, and a stub keeps the channel it was made
over.  The target the client was last told, its channel and its stub can be of three
different `Connect`s (`session_coherent_iff`), but the stub alone decides where a
command goes: to the robot of the last `Connect` that was given one, if neither a
`Disconnect` nor a null stub came after it (`route`).  Whether it goes at all is up to
`IsConnected`.
-/

import ClientSdk.Modules.Session

namespace ClientSdk
namespace Modules

open Common Lib Client

/-- The target a call of `Connect` names. -/
def connectTarget : Client.Call → Option String
  | .connect target _ => some target
  | .connectTo serverAddress port _ => some (serverAddress ++ ":" ++ toString port)
  | .disconnect => none

/-- The target commands go to after a `Connect`, from that before it. -/
def connectRoute (config : ConfigNode) (target : String) (env : ConnectEnv)
    (before : Option String) : Option String :=
  match channelOutcome (session config).init env, env.newStub with
  | .ok true, .ok true => some target
  | .ok true, .ok false => none
  | _, _ => before

/-- The target commands go to after an event, from that before it. -/
def Event.route {ts : MessageTypes} (config : ConfigNode) (before : Option String) :
    Event ts → Option String
  | .manage (.connect target env) => connectRoute config target env before
  | .manage (.connectTo serverAddress port env) =>
      connectRoute config (serverAddress ++ ":" ++ toString port) env before
  | .manage .disconnect => none
  | .visit _ => before

/-- The target commands go to after the events. -/
def route {ts : MessageTypes} (config : ConfigNode) (events : List (Event ts)) : Option String :=
  events.foldl (Event.route config) none

/-! ### The stub of a client -/

/-- The target of the stub held. -/
def stubTarget (c : InterfacesClient) : Option String := c.impl.stub.map (·.channel.target)

section Connect

variable {c : InterfacesClient} {config : ConfigNode}

/-- The configuration decides what comes of a `Connect` up to its channel. -/
theorem channelOutcome_init (h : c.loadedConfig = config) (env : ConnectEnv) :
    channelOutcome c env = channelOutcome (session config).init env := by
  subst h
  rfl

/-- A `Connect` leaves the configuration. -/
theorem connect_loadedConfig (target : String) (env : ConnectEnv) (c : InterfacesClient) :
    (connect target env c).2.loadedConfig = c.loadedConfig := by
  rcases connect_cases target env c with
    ⟨-, e, c', hc', he⟩ | ⟨-, config, he⟩ | ⟨config, -, ⟨e, -, he⟩ | ⟨-, he⟩ | ⟨-, he⟩⟩ <;> rw [he]
  · rcases hc' with rfl | rfl <;> rfl
  all_goals rfl

/-- A client keeps its configuration. -/
theorem perform_loadedConfig (call : Client.Call) (c : InterfacesClient) :
    (call.perform c).2.loadedConfig = c.loadedConfig := by
  cases call with
  | connect target env => exact connect_loadedConfig target env c
  | connectTo serverAddress port env => exact connect_loadedConfig _ env c
  | disconnect => rfl

theorem session_loadedConfig (config : ConfigNode) (calls : List Client.Call) :
    ((session config).run calls).loadedConfig = config :=
  Machine.run_invariant (I := fun c : InterfacesClient => c.loadedConfig = config) rfl
    (fun c call h => (perform_loadedConfig call c).trans h) calls

/-- **Where a `Connect` points the stub.** -/
theorem stubTarget_connect (h : c.loadedConfig = config) (target : String) (env : ConnectEnv) :
    stubTarget (connect target env c).2 = connectRoute config target env (stubTarget c) := by
  have hinit : channelOutcome (session config).init env = channelOutcome c env :=
    (channelOutcome_init h env).symm
  rw [connectRoute, hinit]
  cases hout : channelOutcome c env with
  | error e =>
      obtain ⟨c', hc', he⟩ : ∃ c', (c' = c ∨ c' = c.setTarget target) ∧ connect target env c =
          (.ok (refused ("Connection failed: " ++ e.what)), c') := connect_of_early_error hout
      rw [he]
      rcases hc' with rfl | rfl <;> rfl
  | ok created =>
      obtain ⟨ht, ⟨config, hc⟩, hch⟩ := channelOutcome_ok_iff.1 hout
      cases created with
      | false =>
          rw [connect_of_null_channel ht hc hch]
          rfl
      | true =>
          have hopens : Opens c env config := ⟨ht, hc, hch⟩
          cases hstub : env.newStub with
          | error e =>
              rw [connect_of_stub_error hopens hstub]
              rfl
          | ok created =>
              cases created with
              | false =>
                  rw [connect_of_null_stub hopens hstub]
                  rfl
              | true =>
                  rw [connect_of_stub hopens hstub]
                  rfl

/-- A `Connect` that reports success points the stub to its target. -/
theorem connectRoute_of_ok (h : c.loadedConfig = config) {target : String} {env : ConnectEnv}
    {status : Status} (hs : (connect target env c).1 = .ok status) (hok : status.ok = true)
    (before : Option String) : connectRoute config target env before = some target := by
  rcases connect_cases target env c with ⟨-, e, c', -, he⟩ | ⟨-, config', he⟩ |
    ⟨config', ho, ⟨e, -, he⟩ | ⟨-, he⟩ | ⟨hstub, -⟩⟩
  · rw [he] at hs
    obtain rfl := Except.ok.inj hs
    cases hok
  · rw [he] at hs
    obtain rfl := Except.ok.inj hs
    cases hok
  · rw [he] at hs
    obtain rfl := Except.ok.inj hs
    cases hok
  · rw [he] at hs
    obtain rfl := Except.ok.inj hs
    cases hok
  · have hout : channelOutcome (session config).init env = .ok true := by
      rw [← channelOutcome_init h env]
      exact channelOutcome_ok_iff.2 ⟨ho.storeTarget, ⟨config', ho.readConfig⟩,
        ho.createCustomChannel⟩
    simp [connectRoute, hout, hstub]

/-- So does a call of either form. -/
theorem route_of_ok {ts : MessageTypes} (h : c.loadedConfig = config) {call : Client.Call}
    {target : String} (htarget : connectTarget call = some target) {status : Status}
    (hs : (call.perform c).1 = some status) (hok : status.ok = true) (before : Option String) :
    Event.route config before (.manage call : Event ts) = some target := by
  have hconnect {target' : String} {env : ConnectEnv} (htarget : target' = target)
      (hs : (connect target' env c).1.toOption = some status) :
      connectRoute config target' env before = some target := by
    cases hout : (connect target' env c).1 with
    | error e =>
        rw [hout] at hs
        cases hs
    | ok status' =>
        rw [hout] at hs
        obtain rfl := Option.some.inj hs
        rw [← htarget]
        exact connectRoute_of_ok h hout hok before
  cases call with
  | connect target' env => exact hconnect (Option.some.inj htarget) hs
  | connectTo serverAddress port env => exact hconnect (Option.some.inj htarget) hs
  | disconnect => cases htarget

end Connect

/-- The stub of a connected client is the one its calls go through. -/
theorem stubTarget_of_connected {c : InterfacesClient} (h : c.impl.isConnected = true) :
    stubTarget c = some (c.impl.heldStub h).channel.target := by
  have hstub : c.impl.stub = some (c.impl.heldStub h) := by
    simp [InterfacesClientImpl.heldStub]
  rw [stubTarget, hstub]
  rfl

/-! ### Sessions -/

/-- Calls leave the route. -/
theorem foldl_route_visits {ts : MessageTypes} {config : ConfigNode} {events : List (Event ts)}
    (h : ∀ event ∈ events, ∃ y, event = .visit y) (before : Option String) :
    events.foldl (Event.route config) before = before := by
  induction events with
  | nil => rfl
  | cons event events ih =>
      obtain ⟨y, rfl⟩ := h event List.mem_cons_self
      exact ih fun event' h' => h event' (List.mem_cons_of_mem _ h')

section Session

variable {σ : Type} {ts : MessageTypes} (v : Vocabulary) (robot : Robot σ) (config : ConfigNode)
  (robots : String → σ)

theorem world_loadedConfig (events : List (Event ts)) :
    ((world v ts robot config robots).run events).client.loadedConfig = config := by
  refine Machine.run_invariant (I := fun w : World σ => w.client.loadedConfig = config) rfl ?_
    events
  intro w event hw
  cases event with
  | visit x => exact hw
  | manage call => exact (perform_loadedConfig call w.client).trans hw

/-- **The stub of a session is its route.** -/
theorem stubTarget_world (events : List (Event ts)) :
    stubTarget ((world v ts robot config robots).run events).client = route config events := by
  induction events using List.reverseRecOn with
  | nil => rfl
  | append_singleton events event ih =>
      have hconfig := world_loadedConfig v robot config robots events
      rw [Machine.run_concat, route, List.foldl_append, ← route, ← ih]
      cases event with
      | visit x => rfl
      | manage call =>
          cases call with
          | connect target env => exact stubTarget_connect hconfig target env
          | connectTo serverAddress port env => exact stubTarget_connect hconfig _ env
          | disconnect => rfl

/-- **Commands go where the client was last connected.**  Every request a call writes
goes over a connected client to the robot of the last `Connect` that was given a stub,
with no `Disconnect` and no null stub since.  In particular, after a `Connect` that
reports success it goes to that target, however many calls come between.  A call of a
client that is not connected writes nothing, leaves its output argument as it was, and
returns `ERROR_DATA_GET_FAILED`, or `ERROR_PARSE_FAILED` if it has no request to
write. -/
theorem session_routed (events : List (Event ts)) (x : Visit ts) :
    let w := (world v ts robot config robots).run events
    (∀ a ∈ (w.entry v robot x).attempts,
      w.client.isConnected = true ∧ route config events = some a.request.1) ∧
    (∀ before call target visits status, events = before ++ .manage call :: visits →
      connectTarget call = some target →
        (call.perform ((world v ts robot config robots).run before).client).1 = some status →
          status.ok = true → (∀ event ∈ visits, ∃ y, event = .visit y) →
            ∀ a ∈ (w.entry v robot x).attempts, a.request.1 = target) ∧
    (w.client.isConnected = false →
      (w.outcome v robot x).1 = .ok
          (if (x.f.request v x.messages).isSome then x.f.dataGetFailed v else x.f.parseFailed v) ∧
        (w.outcome v robot x).2.ops = [] ∧ (w.outcome v robot x).2.result = x.response) := by
  intro w
  have hrouted : ∀ a ∈ (w.entry v robot x).attempts,
      w.client.isConnected = true ∧ route config events = some a.request.1 := by
    intro a ha
    rcases entry_attempts v robot w x with ⟨-, hnone⟩ | ⟨hc, q, -, hone⟩
    · rw [hnone] at ha
      cases ha
    · rw [hone] at ha
      obtain rfl := List.mem_singleton.1 ha
      refine ⟨hc, ?_⟩
      rw [← stubTarget_world v robot config robots events]
      exact stubTarget_of_connected hc
  refine ⟨hrouted, ?_, fun h => x.f.call_of_not_connected v _ _ _ _ h⟩
  rintro before call target visits status rfl htarget hs hok hvisits a ha
  have hroute : route config (before ++ .manage call :: visits) = some target := by
    rw [route, List.foldl_append, List.foldl_cons, foldl_route_visits hvisits]
    exact route_of_ok (world_loadedConfig v robot config robots before) htarget hs hok _
  rw [(hrouted a ha).2] at hroute
  exact Option.some.inj hroute

end Session

end Modules
end ClientSdk
