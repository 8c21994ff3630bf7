/-
# Calling a robot is running it

A robot is programmed by handlers: for each function, what a request makes of the
state, the code it ends with, and a reply, if any (`Handler`).  A robot implements the
handlers if it answers every request that encodes a call as they say (`Implements`).

`remote_eq_local` says that the SDK is transparent: over a connection that loses
nothing, a list of calls returns the statuses and the outputs of running the handlers
in place, and leaves the robot in their state.  `implements_dispatcher` says that the
format of the requests is enough for it: whatever the handlers, a robot that looks at
the command code and the key implements them.
-/

import ClientSdk.Modules.Request
import ClientSdk.Modules.Session

namespace ClientSdk
namespace Modules

open Common Lib Client Control Navigation Perception

/-- An `int` to answer with. -/
abbrev Code := { code : ℤ // intMin ≤ code ∧ code ≤ intMax }

/-- What a robot does when it is asked for a function. -/
abbrev Handler (σ : Type) (ts : MessageTypes) :=
  (f : ModuleFunction) → σ → ts.R f → σ × Code × Option (ts.M f)

variable {σ : Type} {ts : MessageTypes}

/-- The output of an answer carries the reply: there is no data, or the data decodes to
it. -/
def Carries {M : Type} (t : MessageType M) (output : KeyValueList) : Option M → Prop
  | none => output.find "data" = none
  | some m => ∃ data, output.find "data" = some data ∧ t.decode data.bytevalue = some m

/-- The robot answers a request that encodes a call as its handler says. -/
structure Implements (v : Vocabulary) (robot : Robot σ) (handler : Handler σ ts) : Prop where
  state : ∀ {f s request q}, Encodes (f.commandCode v) f.key (ts.requestType f) request q →
    (robot.serve s q).1 = (handler f s request).1
  code : ∀ {f s request q}, Encodes (f.commandCode v) f.key (ts.requestType f) request q →
    (robot.serve s q).2.ret.code = toString (handler f s request).2.1.1
  reply : ∀ {f s request q}, Encodes (f.commandCode v) f.key (ts.requestType f) request q →
    Carries (ts.responseType f) (robot.serve s q).2.output (handler f s request).2.2

/-! ### Running in place -/

/-- What the caller of a function is told, status and output, if its robot ends with a
code and a reply.  A navigation function tells of a reply to a success only, and takes a
success without one for a failure. -/
def ModuleFunction.told {M : Type} (f : ModuleFunction) (v : Vocabulary) (code : ℤ)
    (reply : Option M) (response : M) : ℤ × M :=
  match f with
  | .navigation _ =>
      if code = f.success v then
        match reply with
        | some m => (code, m)
        | none => (f.dataGetFailed v, response)
      else (code, response)
  | .control _ | .perception _ => (code, reply.getD response)

/-- Running the handlers in place. -/
def inPlace (v : Vocabulary) (handler : Handler σ ts) : Service σ (Visit ts) (Result ts) where
  serve s x :=
    let (s', code, reply) := handler x.f s x.request
    let told := x.f.told v code.1 reply x.response
    (s', .ok told.1, ⟨x.f, told.2⟩)

/-- Calling the robot. -/
def remote (v : Vocabulary) (robot : Robot σ) : Service (World σ) (Visit ts) (Result ts) where
  serve w x :=
    (w.next v robot (.visit x), (w.outcome v robot x).1, ⟨x.f, (w.outcome v robot x).2.result⟩)

/-- Nothing is lost and nothing fails. -/
structure Meets.Quiet (m : Meets) : Prop where
  created : m.created = .ok true
  write : m.write = .ok true
  fate : m.fate = .answered
  writesDone : m.writesDone = .ok ()
  finish : ∃ finished, m.finish = .ok finished
  readCode : m.readCode = .ok ()
  lookup : m.lookup = .ok ()

/-- A call whose request serializes, and that meets nothing bad. -/
structure Visit.Smooth (x : Visit ts) : Prop where
  serialized : x.messages.serialized.isSome = true
  meets : x.meets.Quiet

/-! ### One call -/

section Report

variable {client : InterfacesClientImpl} {env : CallEnv} {sendResp : SendResponse} {code : ℤ}

/-- What a typed call comes to that is answered with a code and a reply. -/
theorem Text.report_of_carries {R M : Type} (text : Text) (status : ResponseStatus)
    (command : Command R M) {request : R}
    (hs : (command.request.serialize request).isSome = true)
    (hd : Delivers client env.toStreamEnv sendResp) (hclose : closes env.toStreamEnv = .ok ())
    (hc : codeOf env sendResp = .ok code) (hl : env.lookup = .ok ()) {reply : Option M}
    (hreply : Carries command.response sendResp.output reply) :
    (text.report status command client env request).status = code ∧
      (text.report status command client env request).update = reply := by
  obtain ⟨bytes, hs⟩ := Option.isSome_iff_exists.1 hs
  rw [Text.report_of_response hs (transmitted_some_iff.2 hd)]
  cases reply with
  | none =>
      rw [Text.answer_of_no_data hc hl hreply]
      exact ⟨rfl, rfl⟩
  | some m =>
      obtain ⟨data, hdata, hm⟩ := hreply
      rw [Text.answer_of_decoded hc hl hdata hm hclose]
      exact ⟨rfl, rfl⟩

/-- **What a call comes to that is answered with a code and a reply.** -/
theorem ModuleFunction.report_of_carries (f : ModuleFunction) (v : Vocabulary) (a : Messages)
    (hs : a.serialized.isSome = true) (hd : Delivers client env.toStreamEnv sendResp)
    (hclose : closes env.toStreamEnv = .ok ()) (hc : codeOf env sendResp = .ok code)
    (hl : env.lookup = .ok ()) {reply : Option a.M}
    (hreply : Carries a.responseType sendResp.output reply) (response : a.M) :
    (f.report v client env a).status = (f.told v code reply response).1 ∧
      (f.report v client env a).update.getD response = (f.told v code reply response).2 := by
  cases f with
  | control f =>
      have hser : ((f.command v.controlCodes a).request.serialize a.request).isSome = true := by
        rw [f.command_request]
        exact hs
      have hcarries : Carries (f.command v.controlCodes a).response sendResp.output reply := by
        rw [f.command_response]
        exact hreply
      obtain ⟨hstatus, hupdate⟩ := f.text.report_of_carries v.controlStatus
        (f.command v.controlCodes a) hser hd hclose hc hl hcarries
      exact ⟨hstatus, congrArg (·.getD response) hupdate⟩
  | navigation f =>
      have hreceived : Navigation.received client env.toStreamEnv = .ok (some sendResp) :=
        received_some_iff.2 ⟨hd, hclose⟩
      by_cases hsuccess : code = v.navigationStatus.responseSuccess
      · subst hsuccess
        cases reply with
        | none =>
            have hdata : sendResp.output.find "data" = none := hreply
            simp [report, NavigationFunction.report, Navigation.report, hreceived, answer, hc, hl,
              hdata, Report.after, told, success, dataGetFailed]
        | some m =>
            obtain ⟨data, hdata, hm⟩ := hreply
            simp [report, NavigationFunction.report, Navigation.report, hreceived, answer, hc, hl,
              hdata, hm, Report.after, told, success]
      · simp [report, NavigationFunction.report, Navigation.report, hreceived, answer, hc,
          hsuccess, Report.after, told, success]
  | perception f =>
      have hser : ((f.command v.perceptionCodes a).request.serialize a.request).isSome =
          true := by
        rw [f.command_request]
        exact hs
      have hcarries : Carries (f.command v.perceptionCodes a).response sendResp.output reply := by
        rw [f.command_response]
        exact hreply
      obtain ⟨hstatus, hupdate⟩ := f.text.report_of_carries v.perceptionStatus
        (f.command v.perceptionCodes a) hser hd hclose hc hl hcarries
      exact ⟨hstatus, congrArg (·.getD response) hupdate⟩

end Report

section Call

variable {v : Vocabulary} {robot : Robot σ} {handler : Handler σ ts} {w : World σ}
  {x : Visit ts}

/-- A smooth call over a connected client gives the robot its request, and is given the
answer. -/
theorem Visit.Smooth.delivers (hx : x.Smooth) (v : Vocabulary) (robot : Robot σ)
    (hc : w.client.isConnected = true) :
    ∃ bytes, x.messages.serialized = some bytes ∧
      Delivers w.client.impl (w.env v robot x).toStreamEnv
        (robot.serve (w.robots (w.client.impl.heldStub hc).channel.target)
          (commandRequest (x.f.commandCode v) x.f.key bytes)).2 := by
  obtain ⟨bytes, hs⟩ := Option.isSome_iff_exists.1 hx.serialized
  refine ⟨bytes, hs, hc, hx.meets.created, hx.meets.write, ?_⟩
  have hstub : w.client.impl.stub = some (w.client.impl.heldStub hc) := by
    simp [InterfacesClientImpl.heldStub]
  have hrequest : x.f.request v x.messages =
      some (commandRequest (x.f.commandCode v) x.f.key bytes) :=
    x.f.request_of_serialized v x.messages hs
  simp [World.env, Meets.env, hx.meets.fate, hrequest, hstub]

/-- A smooth call moves its robot on by its request, and no other. -/
theorem Visit.Smooth.robots (hx : x.Smooth) (hc : w.client.isConnected = true) {bytes : Bytes}
    (hs : x.messages.serialized = some bytes) :
    (w.next v robot (.visit x)).robots = Function.update w.robots
      (w.client.impl.heldStub hc).channel.target
      (robot.serve (w.robots (w.client.impl.heldStub hc).channel.target)
        (commandRequest (x.f.commandCode v) x.f.key bytes)).1 := by
  have hrequest : x.f.request v x.messages =
      some (commandRequest (x.f.commandCode v) x.f.key bytes) :=
    x.f.request_of_serialized v x.messages hs
  obtain ⟨bytes', -, hd⟩ := hx.delivers v robot hc
  rcases entry_attempts v robot w x with ⟨hno, -⟩ | ⟨_, q, hq, hone⟩
  · exact absurd ⟨by rw [hrequest]; rfl, hd.opens⟩ hno
  · obtain rfl := Option.some.inj (hrequest.symm.trans hq)
    simp [World.next, hone, arrived, hx.meets.fate, Fate.arrives, Service.after, Service.each]

/-- **One call.**  Over a client connected to a robot that implements the handlers, a
smooth call gives its caller and the robot what running the handler in place would. -/
theorem call_eq_inPlace (himp : Implements v robot handler)
    (hrt : ∀ f, (ts.requestType f).RoundTrips) (hx : x.Smooth)
    (hc : w.client.isConnected = true) :
    ((remote v robot).serve w x).2 = ((inPlace v handler).serve
        (w.robots (w.client.impl.heldStub hc).channel.target) x).2 ∧
      ((remote v robot).serve w x).1.robots (w.client.impl.heldStub hc).channel.target =
        ((inPlace v handler).serve (w.robots (w.client.impl.heldStub hc).channel.target) x).1 := by
  obtain ⟨bytes, hs, hd⟩ := hx.delivers v robot hc
  have hencodes : Encodes (x.f.commandCode v) x.f.key (ts.requestType x.f) x.request
      (commandRequest (x.f.commandCode v) x.f.key bytes) :=
    encodes_commandRequest _ _ (hrt x.f) hs
  constructor
  · let s := w.robots (w.client.impl.heldStub hc).channel.target
    obtain ⟨finished, hfinish⟩ := hx.meets.finish
    have hclose : closes (w.env v robot x).toStreamEnv = .ok () := by
      simp [closes, World.env, Meets.env, hx.meets.writesDone, hfinish]
    have hreads : ReadsCode (w.env v robot x)
        (robot.serve s (commandRequest (x.f.commandCode v) x.f.key bytes)).2
        (handler x.f s x.request).2.1.1 := by
      refine ⟨hx.meets.readCode, ?_⟩
      rw [himp.code hencodes]
      exact stoi_toString (handler x.f s x.request).2.1.2
    obtain ⟨hstatus, hupdate⟩ := x.f.report_of_carries v x.messages hx.serialized hd hclose
      (codeOf_ok_iff.2 hreads) hx.meets.lookup (himp.reply hencodes) x.response
    have hdescribes := x.f.call_report v w.client.impl (w.env v robot x) x.messages x.response
    have hfirst : (w.outcome v robot x).1 = _ := hdescribes.status.trans (congrArg _ hstatus)
    have hsecond : (w.outcome v robot x).2.result = _ := hdescribes.result.trans hupdate
    simp only [remote, inPlace, hfirst, hsecond]
    rfl
  · simp only [remote, inPlace, hx.robots hc hs, Function.update_self]
    exact himp.state hencodes

end Call

/-! ### Sessions -/

/-- The client is connected to the robot at `target`, which is in the state `s`. -/
def AtRobot (target : String) (w : World σ) (s : σ) : Prop :=
  ∃ hc : w.client.isConnected = true, (w.client.impl.heldStub hc).channel.target = target ∧
    w.robots target = s

/-- **The SDK is transparent.**  Let the client be connected to a robot that implements
the handlers, and the request types read back what they write.  Then any list of smooth
calls returns the statuses and the outputs of running the handlers in place, one after
the other, and leaves the robot in the state that would lead to. -/
theorem remote_eq_local {v : Vocabulary} {robot : Robot σ} {handler : Handler σ ts}
    (himp : Implements v robot handler) (hrt : ∀ f, (ts.requestType f).RoundTrips)
    {w : World σ} {s : σ} {target : String} (hat : AtRobot target w s) (xs : List (Visit ts))
    (hxs : ∀ x ∈ xs, x.Smooth) :
    (remote v robot).answers w xs = (inPlace v handler).answers s xs ∧
      ((remote v robot).after w xs).robots target = (inPlace v handler).after s xs := by
  have hstep : ∀ (w : World σ) (s : σ) (x : Visit ts), AtRobot target w s → x.Smooth →
      ((remote v robot).serve w x).2 = ((inPlace v handler).serve s (id x)).2 ∧
        AtRobot target ((remote v robot).serve w x).1 ((inPlace v handler).serve s (id x)).1 := by
    rintro w s x ⟨hc, htarget, hs⟩ hx
    obtain ⟨hanswer, hstate⟩ := call_eq_inPlace himp hrt hx hc
    rw [htarget, hs] at hanswer hstate
    exact ⟨hanswer, hc, htarget, hstate⟩
  obtain ⟨hanswers, -, -, hafter⟩ := Service.answers_eq hstep hat xs hxs
  rw [List.map_id] at hanswers hafter
  exact ⟨hanswers, hafter⟩

/-- One byte each way, for an instance. -/
def sampleTypes : MessageTypes where
  R _ := UInt8
  M _ := UInt8
  requestType _ := byteMessage
  responseType _ := byteMessage

/-- The enumerations, for an instance. -/
def sampleVocabulary : Vocabulary where
  controlStatus := Control.sampleStatus
  controlCodes := sampleCodes
  navigationStatus := Navigation.sampleStatus
  navigationCodes := ⟨201, 202, 203, 204, 205, 206, 207⟩
  perceptionStatus := Control.sampleStatus
  perceptionCodes := ⟨301, 302, 303⟩

theorem zero_mem_int : intMin ≤ 0 ∧ (0 : ℤ) ≤ intMax := by decide

/-- A robot that counts the requests, ends each with code 0 and replies 9. -/
def countingHandler : Handler ℕ sampleTypes :=
  fun _ count _ => (count + 1, ⟨0, zero_mem_int⟩, some (9 : UInt8))

/-- The same on the wire. -/
def countingRobot : Robot ℕ where
  serve count _ := (count + 1, ⟨⟨"0", ""⟩, [("data", .byteValue [9])]⟩)

/-- Nothing happens to a call. -/
def quiet : Meets where
  now := 0
  created := .ok true
  write := .ok true
  fate := .answered
  unread := .ok ()
  writesDone := .ok ()
  finish := .ok {}
  readCode := .ok ()
  lookup := .ok ()

theorem quiet_quiet : quiet.Quiet := ⟨rfl, rfl, rfl, rfl, ⟨_, rfl⟩, rfl, rfl⟩

/-- A stop, and a look at the pose. -/
def sampleVisits : List (Visit sampleTypes) :=
  [⟨.control .emergencyStop, (7 : UInt8), (42 : UInt8), quiet⟩,
    ⟨.navigation .getCurrentPose, (8 : UInt8), (42 : UInt8), quiet⟩]

/-- They leave the counting robot at two. -/
theorem remote_eq_local_counting :
    ((remote sampleVocabulary countingRobot).after
      { client := ⟨connectedClient, sampleConfig, 2⟩, robots := fun _ => 0 } sampleVisits).robots
      "localhost:50051" = 2 := by
  have himp : Implements sampleVocabulary countingRobot countingHandler :=
    ⟨fun _ => rfl, fun _ => rfl, fun _ => ⟨.byteValue [9], rfl, rfl⟩⟩
  have hsmooth : ∀ x ∈ sampleVisits, x.Smooth := by
    intro x hx
    rcases List.mem_cons.1 hx with rfl | hx
    · exact ⟨rfl, quiet_quiet⟩
    · obtain rfl := List.mem_singleton.1 hx
      exact ⟨rfl, quiet_quiet⟩
  exact (remote_eq_local himp (fun _ => roundTrips_byteMessage) ⟨rfl, rfl, rfl⟩ _ hsmooth).2

/-! ### A robot that looks at command code and key -/

namespace ModuleFunction

/-- All thirteen. -/
def all : List ModuleFunction :=
  [.control .emergencyStop, .control .getJointInfo, .control .jointMotion,
    .navigation .getCurrentPose, .navigation .getGridMap2D, .navigation .navigationTo,
    .navigation .getRemainingPathDistance, .navigation .cancelNavigationTask,
    .navigation .startChargingTask, .navigation .stopChargingTask,
    .perception .detection, .perception .division, .perception .perception]

theorem mem_all (f : ModuleFunction) : f ∈ all := by
  cases f with
  | control f => cases f <;> decide
  | navigation f => cases f <;> decide
  | perception f => cases f <;> decide

/-- A key is one function's, but for that of the navigation module. -/
theorem eq_of_key {f g : ModuleFunction} (h : g.key = f.key) :
    g = f ∨ ∃ f' g', f = .navigation f' ∧ g = .navigation g' := by
  cases f with
  | control f =>
      cases g with
      | control g => cases f <;> cases g <;> first | exact Or.inl rfl | exact absurd h (by decide)
      | navigation g =>
          have hkey : "request_data" = f.key := h
          cases f <;> exact absurd hkey (by decide)
      | perception g => cases f <;> cases g <;> exact absurd h (by decide)
  | navigation f =>
      cases g with
      | control g =>
          have hkey : g.key = "request_data" := h
          cases g <;> exact absurd hkey (by decide)
      | navigation g => exact Or.inr ⟨f, g, rfl, rfl⟩
      | perception g =>
          have hkey : g.key = "request_data" := h
          cases g <;> exact absurd hkey (by decide)
  | perception f =>
      cases g with
      | control g => cases f <;> cases g <;> exact absurd h (by decide)
      | navigation g =>
          have hkey : "request_data" = f.key := h
          cases f <;> exact absurd hkey (by decide)
      | perception g =>
          cases f <;> cases g <;> first | exact Or.inl rfl | exact absurd h (by decide)

end ModuleFunction

/-- The command code of a request, and the key and the bytes of its one entry. -/
def payload (q : SendRequest) : Option (ℤ × String × Bytes) := do
  let command ← q.input.find "command_id"
  let data ← q.input.find "data"
  match data.dictvalue with
  | [(key, value)] => return (command.int32value, key, value.bytevalue)
  | _ => none

/-- The function a command code and a key are for. -/
def functionFor (v : Vocabulary) (commandId : ℤ) (key : String) : Option ModuleFunction :=
  ModuleFunction.all.find? fun f => f.commandCode v == commandId && f.key == key

/-- A robot that asks the handler of the function its request is for, and answers with
the code in decimal and the reply, serialized, under `data`. -/
def dispatcher (v : Vocabulary) (handler : Handler σ ts) : Robot σ where
  serve s q :=
    let call := do
      let (commandId, key, bytes) ← payload q
      let f ← functionFor v commandId key
      let request ← (ts.requestType f).decode bytes
      let (s', code, reply) := handler f s request
      let output := (reply.bind (ts.responseType f).serialize).toList.map fun bytes =>
        ("data", Variant.byteValue bytes)
      return (s', (⟨⟨toString code.1, ""⟩, output⟩ : SendResponse))
    call.getD (s, ⟨⟨"", "unknown request"⟩, []⟩)

/-- Command code and key tell the functions apart, if the command codes of the
navigation module do. -/
theorem functionFor_self {v : Vocabulary}
    (hinj : ∀ f g : NavigationFunction,
      f.commandCode v.navigationCodes = g.commandCode v.navigationCodes → f = g)
    (f : ModuleFunction) : functionFor v (f.commandCode v) f.key = some f := by
  have huniq : ∀ g : ModuleFunction,
      (g.commandCode v == f.commandCode v && g.key == f.key) = true → g = f := by
    intro g hg
    obtain ⟨hcode, hkey⟩ := Bool.and_eq_true_iff.1 hg
    rcases ModuleFunction.eq_of_key (eq_of_beq hkey) with rfl | ⟨f, g, rfl, rfl⟩
    · rfl
    · rw [hinj g f (eq_of_beq hcode)]
  rw [functionFor]
  cases hfind : ModuleFunction.all.find? fun g =>
      g.commandCode v == f.commandCode v && g.key == f.key with
  | none => exact absurd (List.find?_eq_none.1 hfind f f.mem_all) (by simp)
  | some g =>
      have hg := List.find?_some hfind
      rw [huniq g hg]

/-- A request that encodes a call has its payload. -/
theorem Encodes.payload {R : Type} {commandId : ℤ} {key : String} {rt : MessageType R}
    {request : R} {q : SendRequest} (h : Encodes commandId key rt request q) :
    ∃ bytes, Modules.payload q = some (commandId, key, bytes) ∧
      rt.decode bytes = some request := by
  obtain ⟨command, hcommand, rfl⟩ := h.command
  obtain ⟨data, value, hdata, hentries, hrequest⟩ := h.data
  refine ⟨value.bytevalue, ?_, hrequest⟩
  simp [Modules.payload, hcommand, hdata, hentries]

/-- **The format of the requests is enough.**  Let the command codes of the navigation
module tell its functions apart, and the replies be read back from what they are
written as.  Then for any handlers a robot that looks at the command code and the key of
a request, and at nothing else but its payload, implements them. -/
theorem implements_dispatcher {v : Vocabulary} (handler : Handler σ ts)
    (hinj : ∀ f g : NavigationFunction,
      f.commandCode v.navigationCodes = g.commandCode v.navigationCodes → f = g)
    (hreply : ∀ f m, ∃ bytes, (ts.responseType f).serialize m = some bytes ∧
      (ts.responseType f).decode bytes = some m) :
    Implements v (dispatcher v handler) handler := by
  have hserve : ∀ {f s request q},
      Encodes (f.commandCode v) f.key (ts.requestType f) request q →
      (dispatcher v handler).serve s q = ((handler f s request).1,
        ⟨⟨toString (handler f s request).2.1.1, ""⟩,
          ((handler f s request).2.2.bind (ts.responseType f).serialize).toList.map fun bytes =>
            ("data", Variant.byteValue bytes)⟩) := by
    intro f s request q h
    obtain ⟨bytes, hpayload, hrequest⟩ := h.payload
    simp [dispatcher, hpayload, functionFor_self hinj f, hrequest]
  refine ⟨fun h => by rw [hserve h], fun h => by rw [hserve h], ?_⟩
  intro f s request q h
  rw [hserve h]
  rcases (handler f s request).2.2 with _ | m
  · rfl
  · obtain ⟨bytes, hbytes, hm⟩ := hreply f m
    refine ⟨.byteValue bytes, ?_, hm⟩
    simp [hbytes, KeyValueList.find]

/-- The counting handlers are implemented by looking at the requests, too. -/
theorem implements_dispatcher_counting :
    Implements sampleVocabulary (dispatcher sampleVocabulary countingHandler) countingHandler := by
  refine implements_dispatcher countingHandler (fun f g h => ?_) fun f m => ⟨[m], rfl, rfl⟩
  cases f <;> cases g <;> first | rfl | exact absurd h (by decide)

end Modules
end ClientSdk
