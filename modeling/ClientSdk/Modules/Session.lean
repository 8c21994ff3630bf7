/-
# A session with robots

One client over its whole life: `Connect` and `Disconnect`, and calls of the module
functions between them, against robots that keep a state and answer requests from it.

The network between them is the worst that does not forge.  A request that is written
may arrive or not, whatever `Write` returned, and its answer may arrive or not; but an
answer that is read is the robot's answer to the request that was written (`Meets`).
Here a request that arrives does so during its call.
The functions make no attempt again, so what the robots did is a part of what was
asked, in its order, and whatever a function called a success was done
(`session_atMostOnce`).
-/

import ClientSdk.Client.Coherence
import ClientSdk.Lib.Remote
import ClientSdk.Modules.Interface
import Mathlib.Data.List.Flatten

namespace ClientSdk
namespace Modules

open Common Lib Client

/-- The message types of the functions. -/
structure MessageTypes where
  R : ModuleFunction → Type
  M : ModuleFunction → Type
  requestType : ∀ f, MessageType (R f)
  responseType : ∀ f, MessageType (M f)

/-- A robot: what a request makes of its state, and its answer. -/
abbrev Robot (σ : Type) := Service σ SendRequest SendResponse

/-- What a call meets beside the robot it asks.  `unread` is what `Read` does if no
answer arrives. -/
structure Meets where
  now : ℤ
  created : Except StdException Bool
  write : Except StdException Bool
  fate : Fate
  unread : Except StdException Unit
  writesDone : Except StdException Unit
  finish : Except StdException GrpcStatus
  readCode : Except StdException Unit
  lookup : Except StdException Unit

/-- The same with the answer of the robot: it is read if it arrives. -/
def Meets.env (m : Meets) (answer : Option SendResponse) : CallEnv where
  now := m.now
  created := m.created
  write := m.write
  read :=
    match m.fate, answer with
    | .answered, some sendResp => .ok (some sendResp)
    | _, _ => m.unread.map fun _ => none
  writesDone := m.writesDone
  finish := m.finish
  readCode := m.readCode
  lookup := m.lookup

/-- A call of a function, with what it is given and what it meets. -/
structure Visit (ts : MessageTypes) where
  f : ModuleFunction
  request : ts.R f
  response : ts.M f
  meets : Meets

/-- The messages of a call. -/
abbrev Visit.messages {ts : MessageTypes} (x : Visit ts) : Messages :=
  ⟨ts.requestType x.f, ts.responseType x.f, x.request⟩

/-- What a call gives its caller: what it returns or raises, and its output argument. -/
abbrev Result (ts : MessageTypes) := Except StdException ℤ × (f : ModuleFunction) × ts.M f

/-- What happens in a session. -/
inductive Event (ts : MessageTypes) where
  | manage (call : Client.Call)
  | visit (x : Visit ts)

/-- What a call leaves in the log: the request it had to write, its operations, what
became of what it wrote, and whether it returned success. -/
structure Entry where
  request : Option SendRequest
  ops : List StreamOp
  fate : Fate
  success : Bool

/-- The client, the robots under their targets, and the calls so far. -/
structure World (σ : Type) where
  client : InterfacesClient
  robots : String → σ
  log : List Entry := []

/-- The requests written, each with the target of the stream it was written to. -/
def writtenTo : Option ClientReaderWriter → List StreamOp → List (String × SendRequest)
  | _, [] => []
  | _, .opened stream :: ops => writtenTo (some stream) ops
  | stream, .write q :: ops =>
      (stream.toList.map fun s => (s.stub.channel.target, q)) ++ writtenTo stream ops
  | stream, .read :: ops => writtenTo stream ops
  | stream, .writesDone :: ops => writtenTo stream ops
  | stream, .finish :: ops => writtenTo stream ops

/-- What a call asked of which robot, and what became of it. -/
def Entry.attempts (e : Entry) : List (Attempt (String × SendRequest)) :=
  (writtenTo none e.ops).map fun q => ⟨q, e.fate⟩

variable {σ : Type} {ts : MessageTypes}

namespace World

section

variable (v : Vocabulary) (robot : Robot σ) (w : World σ) (x : Visit ts)

/-- What a call meets: if an answer arrives, it is that of the robot its stub leads to. -/
def env : CallEnv :=
  x.meets.env (do
    let q ← x.f.request v x.messages
    let stub ← w.client.impl.stub
    return (robot.serve (w.robots stub.channel.target) q).2)

/-- A call. -/
def outcome : Outcome (ts.M x.f) :=
  x.f.call v w.client.impl (w.env v robot x) x.messages x.response

/-- What it leaves in the log. -/
def entry : Entry where
  request := x.f.request v x.messages
  ops := (w.outcome v robot x).2.ops
  fate := x.meets.fate
  success :=
    match (w.outcome v robot x).1 with
    | .ok status => status == x.f.success v
    | .error _ => false

/-- The session after one event. -/
def next : Event ts → World σ
  | .manage call => { w with client := (call.perform w.client).2 }
  | .visit x =>
      let e := w.entry v robot x
      { w with
        robots := robot.each.after w.robots (arrived e.attempts)
        log := w.log ++ [e] }

end

/-- What was asked of the robots so far. -/
def attempts (w : World σ) : List (Attempt (String × SendRequest)) := w.log.flatMap Entry.attempts

/-- The requests of the calls that returned success, in order. -/
def acknowledged (w : World σ) : List SendRequest :=
  (w.log.filter Entry.success).flatMap fun e => e.request.toList

end World

/-- A client of configuration `config` and robots in the states `robots`, from the
construction of the client on. -/
def world (v : Vocabulary) (ts : MessageTypes) (robot : Robot σ) (config : ConfigNode)
    (robots : String → σ) : Machine (World σ) (Event ts) where
  init := { client := (session config).init, robots := robots }
  next := World.next v robot

/-- The request an event has to write. -/
def Event.request (v : Vocabulary) : Event ts → Option SendRequest
  | .manage _ => none
  | .visit x => x.f.request v x.messages

/-! ### What one call leaves in the log -/

/-- The stream that opening gives goes through the stub of a connected client, with the
deadline the timeout leads to. -/
theorem opened_stream {client : InterfacesClientImpl} {timeoutMs : ℤ} {env : StreamEnv}
    {stream : ClientReaderWriter} (h : opening client timeoutMs env = [.opened stream]) :
    ∃ hc : client.isConnected = true,
      stream = ⟨client.heldStub hc, getDeadline env.now timeoutMs⟩ := by
  by_cases hc : client.isConnected = true
  · refine ⟨hc, ?_⟩
    rcases hcr : env.created with e | _ | _
    · simp [opening, hcr, send_of_error _ _ hc] at h
    · simp [opening, hcr, send_of_null _ _ hc] at h
    · simp only [opening, hcr, send_of_created _ _ hc, List.cons.injEq, StreamOp.opened.injEq,
        and_true] at h
      exact h.symm
  · simp [opening, send_of_not_connected _ _ (Bool.not_eq_true _ ▸ hc)] at h

/-- Closing a stream writes nothing. -/
theorem writtenTo_closing (stream : Option ClientReaderWriter) (env : StreamEnv) :
    writtenTo stream (closing env) = [] := by
  unfold closing
  cases env.writesDone <;> rfl

/-- A conversation writes its request, to the target of its stream. -/
theorem Conversation.writtenTo {stream : ClientReaderWriter} {q : SendRequest} {env : StreamEnv}
    {ops : List StreamOp} (h : Conversation stream q env ops) :
    Modules.writtenTo none ops = [(stream.stub.channel.target, q)] := by
  cases h with
  | written => rfl
  | read => rfl
  | refused => simp [Modules.writtenTo, writtenTo_closing]
  | closed => simp [Modules.writtenTo, writtenTo_closing]

/-- What a call asks of the robots: nothing, or once its request, of the robot its stub
leads to. -/
structure Entry.Sound (e : Entry) : Prop where
  attempts : e.attempts = [] ∨
    ∃ target q, e.request = some q ∧ e.attempts = [⟨(target, q), e.fate⟩]
  success : e.success = true → e.fate = .answered ∧ e.attempts ≠ []

section Visit

variable {v : Vocabulary} {robot : Robot σ} {w : World σ} {x : Visit ts}

/-- A call attempts its request if it is given a stream and has one, and nothing else. -/
theorem entry_attempts (v : Vocabulary) (robot : Robot σ) (w : World σ) (x : Visit ts) :
    (¬ ((x.f.request v x.messages).isSome = true ∧
        opens w.client.impl (w.env v robot x).toStreamEnv = .ok true) ∧
      (w.entry v robot x).attempts = []) ∨
    ∃ (hc : w.client.isConnected = true) (q : SendRequest),
      x.f.request v x.messages = some q ∧
      (w.entry v robot x).attempts =
        [⟨((w.client.impl.heldStub hc).channel.target, q), x.meets.fate⟩] := by
  rcases x.f.call_converses v w.client.impl (w.env v robot x) x.messages x.response with
    ⟨hno, hops⟩ | ⟨q, stream, hq, -, hopening, hconv⟩
  · refine Or.inl ⟨hno, ?_⟩
    have hentry : (w.entry v robot x).ops = [] := hops
    rw [Entry.attempts, hentry]
    rfl
  · obtain ⟨hc, rfl⟩ := opened_stream hopening
    refine Or.inr ⟨hc, q, hq, ?_⟩
    have hwritten : writtenTo none (w.entry v robot x).ops =
        [((w.client.impl.heldStub hc).channel.target, q)] := hconv.writtenTo
    rw [Entry.attempts, hwritten]
    rfl

/-- An answer that is read is the robot's, to a request there was. -/
theorem fate_of_read {m : Meets} {answer : Option SendResponse} {sendResp : SendResponse}
    (h : (m.env answer).read = .ok (some sendResp)) :
    m.fate = .answered ∧ answer = some sendResp := by
  have hunread : m.unread.map (fun _ => (none : Option SendResponse)) ≠ .ok (some sendResp) := by
    cases m.unread <;> simp [Except.map]
  cases hf : m.fate with
  | answered =>
      cases answer with
      | none =>
          simp only [Meets.env, hf] at h
          exact absurd h hunread
      | some answer =>
          simp only [Meets.env, hf, Except.ok.injEq, Option.some.injEq] at h
          exact ⟨rfl, congrArg some h⟩
  | lost =>
      simp only [Meets.env, hf] at h
      exact absurd h hunread
  | unanswered =>
      simp only [Meets.env, hf] at h
      exact absurd h hunread

/-- **What one call leaves in the log.**  At most its request was asked, and if it
returned success, it was asked and answered. -/
theorem entry_sound (v : Vocabulary) (robot : Robot σ) (w : World σ) (x : Visit ts) :
    (w.entry v robot x).Sound where
  attempts := by
    rcases entry_attempts v robot w x with ⟨-, hnone⟩ | ⟨hc, q, hq, hone⟩
    · exact Or.inl hnone
    · exact Or.inr ⟨_, q, hq, hone⟩
  success := by
    intro hsuccess
    have hstatus : (w.outcome v robot x).1 = .ok (x.f.success v) := by
      unfold World.entry at hsuccess
      cases hout : (w.outcome v robot x).1 with
      | error e =>
          simp only [hout] at hsuccess
          cases hsuccess
      | ok status =>
          simp only [hout, beq_iff_eq] at hsuccess
          rw [hsuccess]
    obtain ⟨sendResp, hd, -⟩ := x.f.call_success v w.client.impl (w.env v robot x) x.messages
      x.response hstatus
    obtain ⟨hfate, hanswer⟩ := fate_of_read hd.read
    refine ⟨hfate, ?_⟩
    rcases entry_attempts v robot w x with ⟨hno, -⟩ | ⟨hc, q, hq, hone⟩
    · refine absurd ⟨?_, hd.opens⟩ hno
      cases hq : x.f.request v x.messages with
      | some q => rfl
      | none => simp [hq] at hanswer
    · rw [hone]
      exact List.cons_ne_nil _ _

end Visit

/-! ### Whole sessions -/

section Log

variable {log : List Entry} (h : ∀ e ∈ log, e.Sound)
include h

/-- What a log attempts is a part of what its calls had to write. -/
theorem attempts_sublist : ((log.flatMap Entry.attempts).map fun a => a.request.2).Sublist
    (log.flatMap fun e => e.request.toList) := by
  rw [List.map_flatMap]
  refine List.Sublist.flatMap_right log fun e he => ?_
  rcases (h e he).attempts with hnone | ⟨target, q, hq, hone⟩
  · rw [hnone]
    exact List.nil_sublist _
  · rw [hone, hq]
    exact List.Sublist.refl _

/-- What a log calls a success is a part of what was answered. -/
theorem acknowledged_sublist :
    ((log.filter Entry.success).flatMap fun e => e.request.toList).Sublist
      ((answered (log.flatMap Entry.attempts)).map Prod.snd) := by
  induction log with
  | nil => exact List.Sublist.refl _
  | cons e log ih =>
      have hlog := ih fun e' he' => h e' (List.mem_cons_of_mem e he')
      have he : e.Sound := h e List.mem_cons_self
      rw [List.flatMap_cons, answered, List.filter_append, List.map_append, List.map_append]
      cases hs : e.success with
      | false =>
          rw [List.filter_cons_of_neg (by simp [hs])]
          exact hlog.trans (List.sublist_append_right _ _)
      | true =>
          obtain ⟨hfate, hne⟩ := he.success hs
          rcases he.attempts with hnone | ⟨target, q, hq, hone⟩
          · exact absurd hnone hne
          · rw [List.filter_cons_of_pos hs, List.flatMap_cons, hq, hone, hfate]
            exact hlog.cons_cons q

end Log

section Session

variable (v : Vocabulary) (robot : Robot σ) (config : ConfigNode) (robots : String → σ)

theorem log_sound (events : List (Event ts)) :
    ∀ e ∈ ((world v ts robot config robots).run events).log, e.Sound := by
  refine Machine.run_invariant (I := fun w : World σ => ∀ e ∈ w.log, e.Sound)
    (fun e he => absurd he List.not_mem_nil) ?_ events
  intro w event hw
  cases event with
  | manage call => exact hw
  | visit x =>
      intro e he
      rcases List.mem_append.1 he with he | he
      · exact hw e he
      · obtain rfl := List.mem_singleton.1 he
        exact entry_sound v robot w x

/-- The log has the calls of the session, in order. -/
theorem log_requests (events : List (Event ts)) :
    (((world v ts robot config robots).run events).log.flatMap fun e => e.request.toList) =
      events.flatMap fun event => (event.request v).toList := by
  induction events using List.reverseRecOn with
  | nil => rfl
  | append_singleton events event ih =>
      rw [Machine.run_concat, List.flatMap_append, ← ih]
      cases event with
      | manage call => simp [world, World.next, Event.request]
      | visit x =>
          simp only [world, World.next, List.flatMap_append]
          rfl

/-- The robots are where the requests that arrived took them. -/
theorem robots_eq (events : List (Event ts)) :
    ((world v ts robot config robots).run events).robots = robot.each.after robots
      (arrived ((world v ts robot config robots).run events).attempts) := by
  induction events using List.reverseRecOn with
  | nil => rfl
  | append_singleton events event ih =>
      rw [Machine.run_concat]
      cases event with
      | manage call => exact ih
      | visit x =>
          simp only [world, World.next, World.attempts, List.flatMap_append, arrived,
            List.filter_append, List.map_append, Service.after_append] at ih ⊢
          rw [ih]
          simp

/-- **Every command at most once, in order, and every success for real.**  Over any
session, with any outcome of every step and whatever the network loses: each robot is
where the requests that arrived at its target took it; what arrived is a part of what
the calls asked for, in their order and none of it twice; and the requests of the calls
that returned success are a part of what arrived. -/
theorem session_atMostOnce (events : List (Event ts)) :
    let w := (world v ts robot config robots).run events
    (∀ target, w.robots target =
      robot.after (robots target) (Service.addressed target (arrived w.attempts))) ∧
    ((arrived w.attempts).map Prod.snd).Sublist
      (events.flatMap fun event => (event.request v).toList) ∧
    w.acknowledged.Sublist ((arrived w.attempts).map Prod.snd) := by
  intro w
  have hsound : ∀ e ∈ w.log, e.Sound := log_sound v robot config robots events
  refine ⟨fun target => ?_, ?_, ?_⟩
  · have hrobots : w.robots = robot.each.after robots (arrived w.attempts) :=
      robots_eq v robot config robots events
    rw [hrobots, Service.after_each]
  · have hattempts := attempts_sublist hsound
    rw [log_requests v robot config robots events] at hattempts
    refine List.Sublist.trans ?_ hattempts
    have harrived := (arrived_sublist w.attempts).map Prod.snd
    rwa [List.map_map] at harrived
  · exact (acknowledged_sublist hsound).trans ((answered_sublist w.attempts).map Prod.snd)

end Session

end Modules
end ClientSdk
