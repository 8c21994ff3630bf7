/-
# How long a session takes

A session with a clock: each event begins when the one before it is over, its deadlines
are set from there, and the network decides how long a remote operation takes, within the
deadline it is under.

A call of a module function is over ten or thirty seconds after it began, however many
operations it makes and whatever comes of them: they are all under the one deadline of
the stream it opens (`operations_deadline`).  So a session as a whole has a limit, the sum
of what its calls are allowed, unless a connected client subscribes without a timeout;
and then it has none (`session_bounded_iff`).
-/

import ClientSdk.Client.Duration
import ClientSdk.Modules.Remote
import ClientSdk.Modules.Routing

namespace ClientSdk
namespace Modules

open Common Lib Client

/-- The deadlines of operations, each that of the stream opened last. -/
def deadlines : Option ℤ → List StreamOp → List (Option ℤ)
  | _, [] => []
  | _, .opened stream :: ops => some stream.deadline :: deadlines (some stream.deadline) ops
  | d, .write _ :: ops => d :: deadlines d ops
  | d, .read :: ops => d :: deadlines d ops
  | d, .writesDone :: ops => d :: deadlines d ops
  | d, .finish :: ops => d :: deadlines d ops

variable {σ : Type} {ts : MessageTypes}

/-- The deadlines of the remote operations of a call.  One that is not given a stream has
asked for it, if it came to that. -/
def World.operations (v : Vocabulary) (robot : Robot σ) (w : World σ) (x : Visit ts) :
    List (Option ℤ) :=
  let ops := (w.outcome v robot x).2.ops
  if ops.isEmpty then
    if (x.f.request v x.messages).isSome && w.client.isConnected then
      [some (getDeadline x.meets.now x.f.timeoutMs)]
    else []
  else deadlines none ops

/-- The event, begun at `now`. -/
def Event.timed (now : ℤ) : Event ts → Event ts
  | .manage call => .manage (call.timed now)
  | .visit x => .visit { x with meets := { x.meets with now := now } }

/-- The instant and the operations after an event. -/
def Event.spend (v : Vocabulary) (robot : Robot σ) (clock : Clock) (w : World σ)
    (watch : Stopwatch) : Event ts → Stopwatch
  | .manage call => call.spend clock w.client watch
  | .visit x => watch.through clock (w.operations v robot x)

/-- What an event is allowed. -/
def Event.allowance (config : ConfigNode) : Event ts → ℤ
  | .manage call => call.allowance config
  | .visit x => x.f.timeoutMs * 1000000

/-- What happens in a session with a clock: the events of a session, and the other calls
that take a timeout, with the states of the channel in case they wait for it. -/
inductive TimedEvent (ts : MessageTypes) where
  | session (event : Event ts)
  | asks (call : TimedCall) (timeoutMs : ℤ) (history : ℤ → ConnectivityState)

/-- The calls of the connection management in it. -/
def TimedEvent.manages : TimedEvent ts → List Client.Call
  | .session (.manage call) => [call]
  | .session (.visit _) => []
  | .asks _ _ _ => []

def TimedEvent.allowance (config : ConfigNode) : TimedEvent ts → ℤ
  | .session event => event.allowance config
  | .asks call timeoutMs _ => call.allowance timeoutMs

/-- A session and its clock. -/
structure TimedWorld (σ : Type) where
  world : World σ
  watch : Stopwatch

/-- The session after one event, which begins now. -/
def TimedWorld.next (v : Vocabulary) (robot : Robot σ) (clock : Clock) (t : TimedWorld σ) :
    TimedEvent ts → TimedWorld σ
  | .session event =>
      let event := event.timed t.watch.now
      { world := t.world.next v robot event
        watch := event.spend v robot clock t.world t.watch }
  | .asks call timeoutMs history =>
      { t with watch := call.spend clock t.world.client.impl timeoutMs history t.watch }

/-- A session that begins at `start`. -/
def timedWorld (v : Vocabulary) (ts : MessageTypes) (robot : Robot σ) (config : ConfigNode)
    (robots : String → σ) (start : ℤ) (clock : Clock) :
    Machine (TimedWorld σ) (TimedEvent ts) where
  init := ⟨(world v ts robot config robots).init, ⟨start, 0⟩⟩
  next := TimedWorld.next v robot clock

/-- No connected client subscribes without a timeout. -/
def Limited (config : ConfigNode) (events : List (TimedEvent ts)) : Prop :=
  ∀ pre timeoutMs history post, events = pre ++ .asks .subscribe timeoutMs history :: post →
    ((session config).run (pre.flatMap TimedEvent.manages)).isConnected = true → 0 < timeoutMs

/-! ### One call -/

theorem deadlines_closing (d : Option ℤ) (env : StreamEnv) :
    ∀ d' ∈ deadlines d (closing env), d' = d := by
  unfold closing
  cases env.writesDone <;> simp [deadlines]

/-- A conversation keeps to the deadline of its stream. -/
theorem Conversation.deadlines {stream : ClientReaderWriter} {q : SendRequest} {env : StreamEnv}
    {ops : List StreamOp} (h : Conversation stream q env ops) :
    ops ≠ [] ∧ ∀ d ∈ Modules.deadlines none ops, d = some stream.deadline := by
  have hclosing := deadlines_closing (some stream.deadline) env
  cases h with
  | written => exact ⟨List.cons_ne_nil _ _, by simp [Modules.deadlines]⟩
  | read => exact ⟨List.cons_ne_nil _ _, by simp [Modules.deadlines]⟩
  | refused => exact ⟨List.cons_ne_nil _ _, by simpa [Modules.deadlines] using hclosing⟩
  | closed => exact ⟨List.cons_ne_nil _ _, by simpa [Modules.deadlines] using hclosing⟩

section Visit

variable (v : Vocabulary) (robot : Robot σ) (w : World σ) (x : Visit ts)

/-- **A call has one deadline.** -/
theorem operations_deadline : ∀ d ∈ w.operations v robot x,
    d = some (getDeadline x.meets.now x.f.timeoutMs) := by
  intro d hd
  rcases x.f.call_converses v w.client.impl (w.env v robot x) x.messages x.response with
    ⟨-, hops⟩ | ⟨q, stream, -, -, hopening, hconv⟩
  · have hnone : (w.outcome v robot x).2.ops = [] := hops
    simp only [World.operations, hnone, List.isEmpty_nil, if_true] at hd
    split at hd
    · exact List.mem_singleton.1 hd
    · cases hd
  · obtain ⟨hc, rfl⟩ := opened_stream hopening
    obtain ⟨hne, hdeadlines⟩ := hconv.deadlines
    have hsome : (w.outcome v robot x).2.ops ≠ [] := hne
    simp only [World.operations, List.isEmpty_iff, hsome, if_false] at hd
    exact hdeadlines d hd

/-- The timeouts of the functions are what they allow for. -/
theorem patience_timeoutMs (f : ModuleFunction) : patience f.timeoutMs = f.timeoutMs * 1000000 := by
  have hten : patience 10000 = 10000 * 1000000 := by decide
  have hthirty : patience 30000 = 30000 * 1000000 := by decide
  cases f with
  | control f => exact hten
  | navigation f => exact hthirty
  | perception f => exact hten

variable {x} {clock : Clock} {watch : Stopwatch}

/-- **A call is over** when its timeout is. -/
theorem operations_le (h : clock.InTime) (hnow : 0 ≤ watch.now) (hx : x.meets.now = watch.now) :
    (watch.through clock (w.operations v robot x)).now ≤
      watch.now + x.f.timeoutMs * 1000000 := by
  have hthrough := Stopwatch.through_le (w := watch) h (operations_deadline v robot w x)
  have hdeadline := getDeadline_le hnow x.f.timeoutMs
  have hnonneg := patience_nonneg x.f.timeoutMs
  rw [hx] at hthrough
  rw [patience_timeoutMs] at hdeadline hnonneg
  omega

end Visit

/-! ### One event -/

section Event

variable (v : Vocabulary) (robot : Robot σ) {clock : Clock} {w : World σ} {watch : Stopwatch}

theorem Event.le_spend (h : clock.InTime) (event : Event ts) :
    watch.now ≤ (event.spend v robot clock w watch).now := by
  cases event with
  | manage call => exact call.le_spend h
  | visit x => exact Stopwatch.le_through h _

/-- **An event keeps to its allowance.** -/
theorem Event.spend_le (h : clock.InTime) (hnow : 0 ≤ watch.now) (event : Event ts) :
    ((event.timed watch.now).spend v robot clock w watch).now ≤
      watch.now + event.allowance w.client.loadedConfig := by
  cases event with
  | manage call =>
      have hcall : ((call.timed watch.now).spend clock w.client watch).now ≤
          watch.now + (call.timed watch.now).allowance w.client.loadedConfig :=
        (call.timed watch.now).spend_le hnow
      cases call <;> exact hcall
  | visit x => exact operations_le v robot w h hnow rfl

end Event

/-! ### Whole sessions -/

section Session

variable (v : Vocabulary) (robot : Robot σ) (config : ConfigNode) (robots : String → σ)
  (start : ℤ) (clock : Clock)

/-- The clock decides nothing about the client. -/
theorem timedWorld_client (events : List (TimedEvent ts)) :
    ((timedWorld v ts robot config robots start clock).run events).world.client =
      (session config).run (events.flatMap TimedEvent.manages) := by
  induction events using List.reverseRecOn with
  | nil => rfl
  | append_singleton events event ih =>
      rw [Machine.run_concat, List.flatMap_append, Machine.run_append, ← ih]
      cases event with
      | asks call timeoutMs history => rfl
      | session event =>
          cases event with
          | visit x => rfl
          | manage call => exact call.perform_timed _ _

variable {clock}

theorem le_now (h : clock.InTime) (t : TimedWorld σ) (event : TimedEvent ts) :
    t.watch.now ≤ (t.next v robot clock event).watch.now := by
  cases event with
  | session event => exact (event.timed t.watch.now).le_spend v robot h
  | asks call timeoutMs history => exact call.le_spend h

/-- **A session keeps to its allowance** if its subscriptions have timeouts. -/
theorem timedWorld_le (h : clock.InTime) (hstart : 0 ≤ start) {events : List (TimedEvent ts)}
    (hlimited : Limited config events) :
    ((timedWorld v ts robot config robots start clock).run events).watch.now ≤
      (events.map (TimedEvent.allowance config)).foldl (· + ·) start := by
  refine Machine.run_le_add (M := timedWorld v ts robot config robots start clock)
    (I := fun t => 0 ≤ t.watch.now) (fun t => t.watch.now) hstart
    (fun t event ht => Int.le_trans ht (le_now v robot h t event)) events ?_
  intro pre event post he ht
  have hclient := timedWorld_client v robot config robots start clock pre
  generalize (timedWorld v ts robot config robots start clock).run pre = t at ht hclient ⊢
  cases event with
  | session event =>
      have hspend := event.spend_le v robot (w := t.world) h ht
      have hconfig : t.world.client.loadedConfig = config := by
        rw [hclient]
        exact session_loadedConfig config _
      rwa [hconfig] at hspend
  | asks call timeoutMs history =>
      refine call.spend_le h ht ?_
      rintro rfl hc
      refine hlimited pre timeoutMs history post he ?_
      rw [← hclient]
      exact hc

/-- **A session has a limit** exactly if no connected client subscribes without a timeout:
the sum of what its calls are allowed, whatever comes of them and however long the
network takes within the deadlines. -/
theorem session_bounded_iff (hstart : 0 ≤ start) (events : List (TimedEvent ts)) :
    ((∃ limit, ∀ clock : Clock, clock.InTime →
        ((timedWorld v ts robot config robots start clock).run events).watch.now ≤ limit) ↔
      Limited config events) ∧
    (Limited config events → ∀ clock : Clock, clock.InTime →
      ((timedWorld v ts robot config robots start clock).run events).watch.now ≤
        (events.map (TimedEvent.allowance config)).foldl (· + ·) start) := by
  have hsum (hlimited : Limited config events) (clock : Clock) (h : clock.InTime) :
      ((timedWorld v ts robot config robots start clock).run events).watch.now ≤
        (events.map (TimedEvent.allowance config)).foldl (· + ·) start :=
    timedWorld_le v robot config robots start h hstart hlimited
  refine ⟨⟨?_, fun hlimited => ⟨_, hsum hlimited⟩⟩, hsum⟩
  rintro ⟨limit, hlimit⟩ pre timeoutMs history post rfl hc
  by_contra hnot
  let clock := Stopwatch.lasting limit
  have hclock : clock.InTime := Stopwatch.inTime_lasting limit
  let t := (timedWorld v ts robot config robots start clock).run pre
  let subscribe : TimedEvent ts := .asks .subscribe timeoutMs history
  -- The `Subscribe` lasts until the limit is over, and the clock does not go back.
  have hconnected : t.world.client.isConnected = true := by
    rw [timedWorld_client]
    exact hc
  have hover : limit < (t.next v robot clock subscribe).watch.now :=
    TimedCall.spend_lasting limit history hconnected (Int.not_lt.1 hnot)
  have hrest := Machine.le_runFrom (M := timedWorld v ts robot config robots start clock)
    (fun t => t.watch.now) (le_now v robot hclock)
    (t.next v robot clock subscribe) post
  have hrun := hlimit clock hclock
  rw [Machine.run_append] at hrun
  exact absurd (Int.lt_of_lt_of_le hover hrest) (Int.not_lt.2 hrun)

end Session

/-- A client connects and subscribes. -/
def subscribing (timeoutMs : ℤ) : List (TimedEvent sampleTypes) :=
  [.session (.manage (.connect "localhost:50051" (steady .ready))),
    .asks .subscribe timeoutMs fun _ => .ready]

theorem limited_subscribing_iff (timeoutMs : ℤ) :
    Limited sampleConfig (subscribing timeoutMs) ↔ 0 < timeoutMs := by
  constructor
  · intro h
    exact h [.session (.manage (.connect "localhost:50051" (steady .ready)))] timeoutMs
      (fun _ => .ready) [] rfl (by decide)
  · intro hpos pre timeoutMs' history post he _
    cases pre with
    | nil => cases he
    | cons event pre =>
        cases pre with
        | nil =>
            cases he
            exact hpos
        | cons event' pre => simp [subscribing] at he

/-- With a timeout of five seconds that has a limit, and without one it has none. -/
theorem session_bounded_subscribing :
    (∃ limit, ∀ clock : Clock, clock.InTime →
      ((timedWorld sampleVocabulary sampleTypes countingRobot sampleConfig (fun _ => 0) 0 clock).run
        (subscribing 5000)).watch.now ≤ limit) ∧
    ¬ ∃ limit, ∀ clock : Clock, clock.InTime →
      ((timedWorld sampleVocabulary sampleTypes countingRobot sampleConfig (fun _ => 0) 0 clock).run
        (subscribing 0)).watch.now ≤ limit := by
  constructor
  · refine (session_bounded_iff _ _ _ _ 0 (Int.le_refl 0) _).1.2 ?_
    exact (limited_subscribing_iff 5000).2 (by decide)
  · rw [(session_bounded_iff _ _ _ _ 0 (Int.le_refl 0) _).1, limited_subscribing_iff]
    exact Int.lt_irrefl 0

end Modules
end ClientSdk
