/-
# What is left in the output argument

The output argument of a call is decoded in place, from whatever `bytevalue()` gives
of the `data` entry of a response.  Two things follow that a caller may not expect.

* `bytevalue()` of an entry of another kind is the empty string, and for most message
  types the empty string is the default message.  `navigation_successTyped_iff` says
  when a success of navigation comes with the message that was sent.
* `ParseFromString` clears its target before it fails.  `output_kept` says what a
  call that reports an error leaves.
-/

import ClientSdk.Modules.Api
import Mathlib.Tactic.ByContra

namespace ClientSdk
namespace Modules

open Common Lib Client Control Navigation

variable {R M : Type} {client : InterfacesClientImpl} {env : CallEnv}

/-! ### Success -/

/-- If the call returns success, a response was read whose code says so and whose data
is a byte value that decodes to the message now in the result. -/
def SuccessTyped (status : ResStatus) (t : MessageType M) (env : CallEnv) (out : Outcome M) :
    Prop :=
  out.1 = .ok status.responseSuccess → ∃ sendResp bytes, .read ∈ out.2.ops ∧
    env.read = .ok (some sendResp) ∧ stoi sendResp.ret.code = .ok status.responseSuccess ∧
    sendResp.output.find "data" = some (.byteValue bytes) ∧ t.decode bytes = some out.2.result

/-- No response that says success and is looked into has data of another kind, or the
empty string is no message. -/
def HoldsBytes (status : ResStatus) (t : MessageType M) (client : InterfacesClientImpl)
    (env : CallEnv) : Prop :=
  ∀ sendResp data, Delivers client env.toStreamEnv sendResp → closes env.toStreamEnv = .ok () →
    ReadsCode env sendResp status.responseSuccess → env.lookup = .ok () →
      sendResp.output.find "data" = some data → (∀ bytes, data ≠ .byteValue bytes) →
        t.decode [] = none

/-- A variant of another kind reads as no bytes. -/
theorem bytevalue_eq_nil {data : Variant} (h : ∀ bytes, data ≠ .byteValue bytes) :
    data.bytevalue = [] := by
  cases data with
  | byteValue bytes => exact absurd rfl (h bytes)
  | unset => rfl
  | int32Value v => rfl
  | stringValue v => rfl
  | dictValue entries => rfl

/-- A response that is received was read. -/
theorem read_mem_sending {sendReq : SendRequest} {sendResp : SendResponse}
    (hd : Delivers client env.toStreamEnv sendResp) :
    .read ∈ Navigation.sending client sendReq env.toStreamEnv := by
  refine List.mem_append_right _ ?_
  simp [exchanging, hd.opens, hd.write]

section

variable (status : ResStatus) (commandId : ℤ) (rt : MessageType R) (t : MessageType M)
  (client : InterfacesClientImpl) (env : CallEnv) (requestData : R) (result : M)

/-- **When a success of navigation carries a message.**  Exactly if no response that
says success holds data of another kind than bytes, unless the empty string does not
decode. -/
theorem navigation_successTyped_iff :
    SuccessTyped status t env
        (navigationRequestTemplate status commandId rt t client env requestData result) ↔
      HoldsBytes status t client env := by
  have hrep := template_report status commandId rt t client env requestData result
  have hway := Navigation.report_way status commandId rt t client env requestData
  constructor
  · intro h sendResp data hd hclose hc hl hdata hkind
    cases hm : t.decode [] with
    | none => rfl
    | some m =>
        -- The empty string decodes, so the call succeeds with data that is no byte value.
        have hsucceeds : Succeeds status t client env sendResp data m :=
          ⟨hd, hclose, hc, hl, hdata, by rw [bytevalue_eq_nil hkind, hm]⟩
        have hok : (navigationRequestTemplate status commandId rt t client env requestData
            result).1 = .ok status.responseSuccess := by
          rw [hrep.status, hsucceeds.report]
        obtain ⟨sendResp', bytes, -, hread, -, hbytes, -⟩ := h hok
        obtain rfl : sendResp = sendResp' :=
          Option.some.inj (Except.ok.inj (hd.read.symm.trans hread))
        exact absurd (Option.some.inj (hdata.symm.trans hbytes)) (hkind bytes)
  · intro h hok
    rw [hrep.status] at hok
    obtain ⟨sendResp, data, m, hsucceeds, hupdate⟩ := hway.succeeds (Except.ok.inj hok)
    have hbytes : ∃ bytes, data = .byteValue bytes := by
      by_contra hno
      have hkind : ∀ bytes, data ≠ .byteValue bytes := fun bytes h => hno ⟨bytes, h⟩
      have hnone := h sendResp data hsucceeds.delivers hsucceeds.closed hsucceeds.code
        hsucceeds.lookup hsucceeds.found hkind
      have hm := hsucceeds.decoded
      rw [bytevalue_eq_nil hkind, hnone] at hm
      cases hm
    obtain ⟨bytes, rfl⟩ := hbytes
    refine ⟨sendResp, bytes, ?_, hsucceeds.delivers.read, hsucceeds.code.2, hsucceeds.found, ?_⟩
    · rw [hrep.ops, List.nil_append, hway.ops]
      exact read_mem_sending hsucceeds.delivers
    · rw [hrep.result, hupdate]
      exact hsucceeds.decoded

/-- A message type with a default that the empty string decodes to. -/
def defaultMessage : MessageType UInt8 :=
  { byteMessage with
    decode
      | [] => some 0
      | [b] => some b
      | _ => none }

/-- A peer that says success with a text for data. -/
def answersText : CallEnv :=
  { answersEmpty with read := .ok (some ⟨⟨"0", "ok"⟩, [("data", .stringValue "here")]⟩) }

/-- A pose told in words is a success with the default pose. -/
theorem navigation_successTyped_text :
    ¬ SuccessTyped Navigation.sampleStatus defaultMessage answersText
      (navigationRequestTemplate Navigation.sampleStatus 201 byteMessage defaultMessage
        connectedClient answersText 7 42) := by
  intro h
  obtain ⟨sendResp, bytes, -, hread, -, hbytes, -⟩ := h rfl
  obtain rfl := Option.some.inj (Except.ok.inj hread)
  cases hbytes

end

/-! ### Failure -/

/-- A data entry of the response read was rejected by `ParseFromString`, the call says
so, and the output argument is what the rejected parse left. -/
def ParseRejected (t : MessageType M) (client : InterfacesClientImpl) (env : CallEnv)
    (errorParseFailed : ℤ) (out : Outcome M) : Prop :=
  ∃ sendResp data, Delivers client env.toStreamEnv sendResp ∧
    sendResp.output.find "data" = some data ∧ t.decode data.bytevalue = none ∧
    out.1 = .ok errorParseFailed ∧ out.2.result = t.leftover data.bytevalue

/-- The response read says something other than success, and its data is looked up and
decodes. -/
def DecodesError (status : ResponseStatus) (t : MessageType M) (client : InterfacesClientImpl)
    (env : CallEnv) : Prop :=
  ∃ sendResp code data, Delivers client env.toStreamEnv sendResp ∧ ReadsCode env sendResp code ∧
    code ≠ status.success ∧ env.lookup = .ok () ∧ sendResp.output.find "data" = some data ∧
    (t.decode data.bytevalue).isSome = true

/-- The response read says success, its data was decoded into the output argument, and
closing the stream raised something then; the call returns `failed`. -/
def ClosingRaised (status : ResponseStatus) (t : MessageType M) (client : InterfacesClientImpl)
    (env : CallEnv) (failed : ℤ) (out : Outcome M) : Prop :=
  ∃ sendResp data e, Delivers client env.toStreamEnv sendResp ∧
    ReadsCode env sendResp status.success ∧ sendResp.output.find "data" = some data ∧
    closes env.toStreamEnv = .error e ∧ out.1 = .ok failed ∧
    t.decode data.bytevalue = some out.2.result

/-- Of a typed call, what is left in the output argument without success, unless the data
of an error was decoded. -/
theorem Text.Way.update_cases {text : Text} {status : ResponseStatus} {command : Command R M}
    {request : R} {report : Report M}
    (h : Text.Way text status command client env request report)
    (hno : ¬ DecodesError status command.response client env)
    (hfail : report.status ≠ status.success) :
    report.update = none ∨
    (∃ sendResp data, Delivers client env.toStreamEnv sendResp ∧
      sendResp.output.find "data" = some data ∧
      command.response.decode data.bytevalue = none ∧ report.status = status.errorParseFailed ∧
      report.update = some (command.response.leftover data.bytevalue)) ∨
    ∃ sendResp data e m, Delivers client env.toStreamEnv sendResp ∧
      ReadsCode env sendResp status.success ∧ sendResp.output.find "data" = some data ∧
      closes env.toStreamEnv = .error e ∧ text = .checked ∧
      report.status = status.errorUnknownService ∧ report.update = some m ∧
      command.response.decode data.bytevalue = some m := by
  cases h with
  | unserialized => exact Or.inl rfl
  | raised => exact Or.inl rfl
  | unanswered => exact Or.inl rfl
  | @answered _ hs sendResp ht r ha =>
      have hd : Delivers client env.toStreamEnv sendResp := transmitted_some_iff.1 ht
      -- Where data decodes, the code of the response says success.
      have hsuccess {code : ℤ} (hc : codeOf env sendResp = .ok code) (hl : env.lookup = .ok ())
          {data : Variant} (hdata : sendResp.output.find "data" = some data) {m : M}
          (hm : command.response.decode data.bytevalue = some m) : code = status.success := by
        by_contra hne
        exact hno ⟨sendResp, code, data, hd, codeOf_ok_iff.1 hc, hne, hl, hdata, by rw [hm]; rfl⟩
      cases ha with
      | noCode => exact Or.inl rfl
      | interrupted => exact Or.inl rfl
      | noData => exact Or.inl rfl
      | @undecoded code hc hl data hdata hm =>
          exact Or.inr (Or.inl ⟨sendResp, data, hd, hdata, hm, rfl, rfl⟩)
      | @decoded code hc hl data hdata m hm => exact absurd (hsuccess hc hl hdata hm) hfail
      | @unclosed code hc hl data hdata m hm e hclose =>
          obtain rfl := hsuccess hc hl hdata hm
          cases text with
          | unchecked => exact absurd rfl hfail
          | checked =>
              exact Or.inr (Or.inr ⟨sendResp, data, e, m, hd, codeOf_ok_iff.1 hc, hdata, hclose,
                rfl, rfl, rfl, hm⟩)

/-- Of a navigation request, what is left in the output argument without success. -/
theorem Navigation.Way.update_cases {status : ResStatus} {t : MessageType M}
    {sendReq : SendRequest} {report : Report M}
    (h : Navigation.Way status t client sendReq env report)
    (hfail : report.status ≠ status.responseSuccess) :
    report.update = none ∨ ∃ sendResp data, Delivers client env.toStreamEnv sendResp ∧
      sendResp.output.find "data" = some data ∧ t.decode data.bytevalue = none ∧
      report.status = status.errorParseFailed ∧
      report.update = some (t.leftover data.bytevalue) := by
  cases h with
  | unanswered => exact Or.inl rfl
  | @answered sendResp hd hclose r ha =>
      cases ha with
      | noCode => exact Or.inl rfl
      | refused => exact Or.inl rfl
      | interrupted => exact Or.inl rfl
      | noData => exact Or.inl rfl
      | @undecoded hc hl data hdata hm =>
          exact Or.inr ⟨sendResp, data, hd, hdata, hm, rfl, rfl⟩
      | decoded => exact absurd rfl hfail

/-- Only `EmergencyStop` is a copy of the text that looks at what is raised. -/
theorem Control.ControlFunction.eq_of_text_checked {f : ControlFunction} (h : f.text = .checked) :
    f = .emergencyStop := by
  cases f with
  | emergencyStop => rfl
  | getJointInfo => cases h
  | jointMotion => cases h

/-- **What a failed call leaves.**  A function that does not return success leaves the
output argument as it was, or returns `ERROR_PARSE_FAILED` with what the rejected data
left there; and `EmergencyStop` returns `ERROR_UNKNOWN_SERVICE` with the message a
success came with if closing the stream raises.  Of the control functions this leaves
out the responses that report an error and have data that decodes. -/
theorem output_kept (statusC : ResponseStatus) (codesC : ControlCommandCode)
    (statusN : ResStatus) (codesN : NavigationCommandCode) (client : InterfacesClientImpl)
    (env : CallEnv) (a : Messages) (response : a.M) :
    (∀ f : ControlFunction, ¬ DecodesError statusC a.responseType client env →
      (f.call statusC codesC client env a response).1 ≠ .ok statusC.success →
        (f.call statusC codesC client env a response).2.result = response ∨
          ParseRejected a.responseType client env statusC.errorParseFailed
            (f.call statusC codesC client env a response) ∨
          f = .emergencyStop ∧ ClosingRaised statusC a.responseType client env
            statusC.errorUnknownService (f.call statusC codesC client env a response)) ∧
    (∀ f : NavigationFunction,
      (f.call statusN codesN client env a response).1 ≠ .ok statusN.responseSuccess →
        (f.call statusN codesN client env a response).2.result = response ∨
          ParseRejected a.responseType client env statusN.errorParseFailed
            (f.call statusN codesN client env a response)) := by
  constructor
  · intro f hno hfail
    have hrep := f.call_report statusC codesC client env a response
    have hway := f.text.report_way statusC (f.command codesC a) client env a.request
    have hne : (f.report statusC codesC client env a).status ≠ statusC.success := by
      intro heq
      rw [hrep.status, heq] at hfail
      exact hfail rfl
    rw [← f.command_response codesC a] at hno
    rcases hway.update_cases hno hne with
      hnone | ⟨sendResp, data, hd, hdata, hm, hstatus, hupdate⟩ |
      ⟨sendResp, data, e, m, hd, hcode, hdata, hclose, htext, hstatus, hupdate, hm⟩
    · refine Or.inl ?_
      rw [hrep.result, ControlFunction.report, hnone]
      rfl
    · rw [f.command_response] at hm hupdate
      refine Or.inr (Or.inl ⟨sendResp, data, hd, hdata, hm, ?_, ?_⟩)
      · rw [hrep.status, ControlFunction.report, hstatus]
      · rw [hrep.result, ControlFunction.report, hupdate]
        rfl
    · rw [f.command_response] at hm
      refine Or.inr (Or.inr ⟨ControlFunction.eq_of_text_checked htext, sendResp, data, e, hd,
        hcode, hdata, hclose, ?_, ?_⟩)
      · rw [hrep.status, ControlFunction.report, hstatus]
      · rw [hrep.result, ControlFunction.report, hupdate]
        exact hm
  · intro f hfail
    have hrep := f.call_report statusN codesN client env a response
    have hway := Navigation.report_way statusN (f.commandCode codesN) a.requestType
      a.responseType client env a.request
    rw [← NavigationFunction.report] at hway
    have hne : (f.report statusN codesN client env a).status ≠ statusN.responseSuccess := by
      intro heq
      rw [hrep.status, heq] at hfail
      exact hfail rfl
    rcases hway.update_cases hne with hnone | ⟨sendResp, data, hd, hdata, hm, hstatus, hupdate⟩
    · refine Or.inl ?_
      rw [hrep.result, hnone]
      rfl
    · refine Or.inr ⟨sendResp, data, hd, hdata, hm, ?_, ?_⟩
      · rw [hrep.status, hstatus]
      · rw [hrep.result, hupdate]
        rfl

/-- A peer whose code is no number, with data that is a message. -/
def answersUnnumbered : CallEnv :=
  { answersEmpty with read := .ok (some ⟨⟨"abc", "ok"⟩, [("data", .byteValue [9])]⟩) }

/-- A code that is no number keeps the output, data or not. -/
theorem output_kept_unnumbered :
    let out := ControlFunction.call .emergencyStop Control.sampleStatus sampleCodes
      connectedClient answersUnnumbered ⟨byteMessage, byteMessage, 7⟩ (42 : UInt8)
    out.1 ≠ .ok Control.sampleStatus.success ∧ out.2.result = (42 : UInt8) := by
  intro out
  have hfail : out.1 ≠ .ok Control.sampleStatus.success := fun h =>
    absurd (Except.ok.inj h) (by decide)
  have hresponse (sendResp : SendResponse)
      (hd : Delivers connectedClient answersUnnumbered.toStreamEnv sendResp) :
      sendResp = ⟨⟨"abc", "ok"⟩, [("data", .byteValue [9])]⟩ :=
    (Option.some.inj (Except.ok.inj hd.read)).symm
  have hno : ¬ DecodesError Control.sampleStatus byteMessage connectedClient answersUnnumbered := by
    rintro ⟨sendResp, code, data, hd, hcode, -⟩
    obtain rfl := hresponse sendResp hd
    cases hcode.2
  refine ⟨hfail, ?_⟩
  rcases (output_kept Control.sampleStatus sampleCodes Navigation.sampleStatus
    ⟨201, 202, 203, 204, 205, 206, 207⟩ connectedClient answersUnnumbered
    ⟨byteMessage, byteMessage, 7⟩ (42 : UInt8)).1 .emergencyStop hno hfail with
    hkept | ⟨sendResp, data, hd, hdata, hm, -⟩ | ⟨-, sendResp, data, e, hd, hcode, -⟩
  · exact hkept
  · obtain rfl := hresponse sendResp hd
    obtain rfl := Option.some.inj hdata
    cases hm
  · obtain rfl := hresponse sendResp hd
    cases hcode.2

/-- A peer that says success with data that is no message. -/
def answersGarbage : CallEnv :=
  { answersEmpty with read := .ok (some ⟨⟨"0", "ok"⟩, [("data", .byteValue [])]⟩) }

/-- The parse fails, and the previous result is gone. -/
theorem output_kept_garbage :
    (NavigationFunction.call .getCurrentPose Navigation.sampleStatus
      ⟨201, 202, 203, 204, 205, 206, 207⟩ connectedClient answersGarbage
      ⟨byteMessage, byteMessage, 7⟩ (42 : UInt8)).1 ≠
        .ok Navigation.sampleStatus.responseSuccess ∧
    (NavigationFunction.call .getCurrentPose Navigation.sampleStatus
      ⟨201, 202, 203, 204, 205, 206, 207⟩ connectedClient answersGarbage
      ⟨byteMessage, byteMessage, 7⟩ (42 : UInt8)).2.result ≠ (42 : UInt8) :=
  ⟨fun h => absurd (Except.ok.inj h) (by decide), by decide⟩

end Modules
end ClientSdk
