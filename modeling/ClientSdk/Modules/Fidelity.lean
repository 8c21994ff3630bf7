/-
# What becomes of the robot's code

A response carries its code in decimal, and the functions return it as a status.
Three questions:

* Navigation returns a code that is not the success value before it looks at
  anything else, so the code comes through and the result stays untouched
  (`navigation_codeKept`).
* The control functions go on to the data of the response on every code, and what
  they meet there replaces the code.  `control_codeKept_iff` says when it comes
  through.
* `std::stoi` reads the code, so a function returns success on every spelling of the
  success value and not on its decimal form alone (`success_spelled`).
-/

import ClientSdk.Common.Decimal
import ClientSdk.Modules.Api

namespace ClientSdk
namespace Modules

open Common Lib Client Control Navigation

variable {R M : Type} {client : InterfacesClientImpl} {env : CallEnv} {sendResp : SendResponse}

/-- The code of a response in decimal is read, unless something is raised before. -/
theorem codeOf_toString {c : ℤ} (hcode : sendResp.ret.code = toString c)
    (hint : intMin ≤ c ∧ c ≤ intMax) (hr : env.readCode = .ok ()) :
    codeOf env sendResp = .ok c := by
  rw [codeOf, hr, hcode]
  exact stoi_toString hint

/-! ### Navigation -/

section Navigation

variable (status : Navigation.ResStatus) (commandId : ℤ) (rt : MessageType R) (t : MessageType M)
  (client : InterfacesClientImpl) (env : CallEnv) (requestData : R) (result : M)

/-- A response with a code in decimal that is not the success value. -/
theorem template_of_code {c : ℤ} (hd : Delivers client env.toStreamEnv sendResp)
    (hcode : sendResp.ret.code = toString c) (hint : intMin ≤ c ∧ c ≤ intMax)
    (hne : c ≠ status.responseSuccess) :
    (navigationRequestTemplate status commandId rt t client env requestData result).2.result =
        result ∧
      (closes env.toStreamEnv = .ok () → env.readCode = .ok () →
        (navigationRequestTemplate status commandId rt t client env requestData result).1 =
          .ok c) := by
  have hrep := template_report status commandId rt t client env requestData result
  have hway := Navigation.report_way status commandId rt t client env requestData
  generalize Navigation.report status commandId rt t client env requestData = report
    at hrep hway
  rw [hrep.status, hrep.result]
  cases hway with
  | unanswered h =>
      exact ⟨rfl, fun hclose => absurd ⟨hd, hclose⟩ (h sendResp)⟩
  | @answered sendResp' hd' hclose r ha =>
      obtain rfl : sendResp = sendResp' := hd.eq hd'
      -- Whatever is read of the code is `c`, so the response does not say success.
      have hcodeOf : ∀ code, codeOf env sendResp = .ok code → code = c := fun code hc => by
        have hr : env.readCode = .ok () := (codeOf_ok_iff.1 hc).1
        exact Except.ok.inj (hc.symm.trans (codeOf_toString hcode hint hr))
      cases ha with
      | noCode hc =>
          refine ⟨rfl, fun _ hr => ?_⟩
          cases hc.symm.trans (codeOf_toString hcode hint hr)
      | refused hc =>
          obtain rfl := hcodeOf _ hc
          exact ⟨rfl, fun _ _ => rfl⟩
      | interrupted hc => exact absurd (hcodeOf _ hc).symm hne
      | noData hc => exact absurd (hcodeOf _ hc).symm hne
      | undecoded hc => exact absurd (hcodeOf _ hc).symm hne
      | decoded hc => exact absurd (hcodeOf _ hc).symm hne

/-- No response with a code. -/
theorem template_of_no_code
    (hno : ∀ sendResp code, Delivers client env.toStreamEnv sendResp →
      stoi sendResp.ret.code ≠ .ok code) :
    (navigationRequestTemplate status commandId rt t client env requestData result).1 =
        .ok status.errorDataGetFailed ∧
      (navigationRequestTemplate status commandId rt t client env requestData result).2.result =
        result := by
  have hrep := template_report status commandId rt t client env requestData result
  have hway := Navigation.report_way status commandId rt t client env requestData
  generalize Navigation.report status commandId rt t client env requestData = report
    at hrep hway
  rw [hrep.status, hrep.result]
  cases hway with
  | unanswered => exact ⟨rfl, rfl⟩
  | @answered sendResp hd hclose r ha =>
      have hcodeOf : ∀ code, codeOf env sendResp ≠ .ok code := fun code hc =>
        hno sendResp code hd (codeOf_ok_iff.1 hc).2
      cases ha with
      | noCode => exact ⟨rfl, rfl⟩
      | refused hc => exact absurd hc (hcodeOf _)
      | interrupted hc => exact absurd hc (hcodeOf _)
      | noData hc => exact absurd hc (hcodeOf _)
      | undecoded hc => exact absurd hc (hcodeOf _)
      | decoded hc => exact absurd hc (hcodeOf _)

/-- **Navigation passes on the robot's code.**  A response with a code in decimal
that is not the success value leaves the result as it was, and if closing the stream
and reading the code raise nothing, that code is returned.  If no response is read,
or its code is none, the call returns `ERROR_DATA_GET_FAILED` and leaves the result
as it was. -/
theorem navigation_codeKept :
    (∀ sendResp (c : ℤ), Delivers client env.toStreamEnv sendResp →
      sendResp.ret.code = toString c → intMin ≤ c ∧ c ≤ intMax → c ≠ status.responseSuccess →
        (navigationRequestTemplate status commandId rt t client env requestData result).2.result =
            result ∧
          (closes env.toStreamEnv = .ok () → env.readCode = .ok () →
            (navigationRequestTemplate status commandId rt t client env requestData result).1 =
              .ok c)) ∧
    ((∀ sendResp, ¬ Delivers client env.toStreamEnv sendResp) ∨
        (∃ sendResp e, Delivers client env.toStreamEnv sendResp ∧
          stoi sendResp.ret.code = .error e) →
      (navigationRequestTemplate status commandId rt t client env requestData result).1 =
          .ok status.errorDataGetFailed ∧
        (navigationRequestTemplate status commandId rt t client env requestData result).2.result =
          result) := by
  refine ⟨fun sendResp c hd hcode hint hne => template_of_code status commandId rt t client env
    requestData result hd hcode hint hne, fun hno => ?_⟩
  refine template_of_no_code status commandId rt t client env requestData result
    fun sendResp code hd hs => ?_
  rcases hno with hno | ⟨r, e, hr, hs'⟩
  · exact hno sendResp hd
  · obtain rfl := hr.eq hd
    cases hs.symm.trans hs'

/-- A peer that reports error 5, with data that is no message. -/
def answersFault : CallEnv :=
  { answersEmpty with read := .ok (some ⟨⟨"5", "fault"⟩, [("data", .byteValue [])]⟩) }

/-- The error is passed on. -/
theorem navigation_codeKept_fault :
    (navigationRequestTemplate Navigation.sampleStatus 201 byteMessage byteMessage connectedClient
      answersFault 7 42).1 = .ok 5 :=
  ((navigation_codeKept Navigation.sampleStatus 201 byteMessage byteMessage connectedClient
    answersFault 7 42).1 ⟨⟨"5", "fault"⟩, [("data", .byteValue [])]⟩ 5 ⟨rfl, rfl, rfl, rfl⟩ rfl
    (by decide) (by decide)).2 rfl rfl

end Navigation

/-! ### Control -/

/-- What a response must not meet for its code `c` to come through: an exception or
data that does not decode, unless the status that leads to is `c`. -/
structure Text.Keeps (text : Text) (status : ResponseStatus) (t : MessageType M) (env : CallEnv)
    (sendResp : SendResponse) (c : ℤ) : Prop where
  read : (∃ e, env.readCode = .error e) → text.raised status status.errorDataGetFailed = c
  lookup : env.readCode = .ok () → (∃ e, env.lookup = .error e) → text.raised status c = c
  decode : env.readCode = .ok () → env.lookup = .ok () →
    ∀ data, sendResp.output.find "data" = some data → t.decode data.bytevalue = none →
      status.errorParseFailed = c
  close : env.readCode = .ok () → env.lookup = .ok () →
    ∀ data, sendResp.output.find "data" = some data →
      (t.decode data.bytevalue).isSome = true → (∃ e, closes env.toStreamEnv = .error e) →
        text.raised status c = c

/-- **When the robot's code comes through a text.** -/
theorem Text.answer_status_iff_keeps (text : Text) (status : ResponseStatus)
    (t : MessageType M) {c : ℤ} (hcode : sendResp.ret.code = toString c)
    (hint : intMin ≤ c ∧ c ≤ intMax) :
    (text.answer status t env sendResp).status = c ↔ text.Keeps status t env sendResp c := by
  have hread (hr : env.readCode = .ok ()) : codeOf env sendResp = .ok c :=
    codeOf_toString hcode hint hr
  constructor
  · intro heq
    refine ⟨?_, ?_, ?_, ?_⟩
    · rintro ⟨e, he⟩
      have hc : codeOf env sendResp = .error e := by rw [codeOf, he]; rfl
      rw [Text.answer_of_no_code hc] at heq
      exact heq
    · rintro hr ⟨e, hl⟩
      rw [Text.answer_of_interrupted (hread hr) hl] at heq
      exact heq
    · intro hr hl data hd hm
      rw [Text.answer_of_undecoded (hread hr) hl hd hm] at heq
      exact heq
    · rintro hr hl data hd hm ⟨e, hclose⟩
      obtain ⟨m, hm⟩ := Option.isSome_iff_exists.1 hm
      rw [Text.answer_of_unclosed (hread hr) hl hd hm hclose] at heq
      exact heq
  · intro h
    have hanswers := text.answer_answers status t env sendResp
    generalize text.answer status t env sendResp = r at hanswers ⊢
    -- Whatever is read of the code is `c`.
    have hcodeOf : ∀ code, codeOf env sendResp = .ok code → env.readCode = .ok () ∧ code = c := by
      intro code hc
      have hr : env.readCode = .ok () := (codeOf_ok_iff.1 hc).1
      exact ⟨hr, Except.ok.inj (hc.symm.trans (hread hr))⟩
    cases hanswers with
    | noCode hc =>
        cases hr : env.readCode with
        | error e => exact h.read ⟨e, hr⟩
        | ok u => cases hc.symm.trans (hread hr)
    | interrupted hc hl =>
        obtain ⟨hr, rfl⟩ := hcodeOf _ hc
        exact h.lookup hr ⟨_, hl⟩
    | noData hc => exact (hcodeOf _ hc).2
    | undecoded hc hl hd hm => exact h.decode (hcodeOf _ hc).1 hl _ hd hm
    | decoded hc => exact (hcodeOf _ hc).2
    | unclosed hc hl hd hm hclose =>
        obtain ⟨hr, rfl⟩ := hcodeOf _ hc
        exact h.close hr hl _ hd (Option.isSome_iff_exists.2 ⟨_, hm⟩) ⟨_, hclose⟩

section Control

variable (f : ControlFunction) (status : ResponseStatus) (codes : ControlCommandCode)
  (client : InterfacesClientImpl) (env : CallEnv) (a : Messages) (response : a.M)

/-- **When a control function returns the robot's code.**  Of a response whose code
is given in decimal, exactly if nothing is raised from reading the code to closing
the stream and its data, if there is any, decodes, unless the status these lead to
is the code itself. -/
theorem control_codeKept_iff {bytes : Bytes} (hs : a.serialized = some bytes)
    (hd : Delivers client env.toStreamEnv sendResp) {c : ℤ}
    (hcode : sendResp.ret.code = toString c) (hint : intMin ≤ c ∧ c ≤ intMax) :
    (f.call status codes client env a response).1 = .ok c ↔
      f.text.Keeps status a.responseType env sendResp c := by
  have hser : (f.command codes a).request.serialize a.request = some bytes := by
    rw [f.command_request]
    exact hs
  rw [(f.call_report status codes client env a response).status, ControlFunction.report,
    Text.report_of_response hser (transmitted_some_iff.2 hd), f.command_response, Except.ok.injEq]
  exact f.text.answer_status_iff_keeps status a.responseType hcode hint

end Control

/-- A peer that reports error 5 and no data. -/
def answersError : CallEnv := { answersEmpty with read := .ok (some ⟨⟨"5", "error"⟩, []⟩) }

/-- An error without data comes through. -/
theorem control_codeKept_error :
    (ControlFunction.call .emergencyStop Control.sampleStatus sampleCodes connectedClient
      answersError ⟨byteMessage, byteMessage, 7⟩ (42 : UInt8)).1 = .ok 5 := by
  refine (control_codeKept_iff .emergencyStop Control.sampleStatus sampleCodes connectedClient
    answersError ⟨byteMessage, byteMessage, 7⟩ (42 : UInt8) rfl
    (⟨rfl, rfl, rfl, rfl⟩ : Delivers connectedClient answersError.toStreamEnv _) rfl
    (by decide)).2 ⟨nofun, fun _ => nofun, fun _ _ _ => nofun, fun _ _ _ => nofun⟩

/-- The error of a robot that adds undecodable data to it is replaced by
`ERROR_PARSE_FAILED`. -/
theorem control_codeKept_fault :
    (∃ sendResp, Delivers connectedClient answersFault.toStreamEnv sendResp ∧
      sendResp.ret.code = toString (5 : ℤ)) ∧
    (ControlFunction.call .emergencyStop Control.sampleStatus sampleCodes connectedClient
      answersFault ⟨byteMessage, byteMessage, 7⟩ (42 : UInt8)).1 ≠ .ok 5 :=
  ⟨⟨_, ⟨rfl, rfl, rfl, rfl⟩, rfl⟩, fun h => absurd (Except.ok.inj h) (by decide)⟩

/-! ### Success -/

/-- The status an exception leads to is the success value only if it was before. -/
theorem Text.eq_success_of_raised {text : Text} {status : ResponseStatus} {code : ℤ}
    (h : text.raised status code = status.success) : code = status.success := by
  cases text with
  | checked => exact absurd h.symm status.success_ne_unknownService
  | unchecked => exact h

/-- A typed call returns success only if it was given a response that says so. -/
theorem Text.Way.readsSuccess {text : Text} {status : ResponseStatus} {command : Command R M}
    {request : R} {report : Report M}
    (h : Text.Way text status command client env request report)
    (hsuccess : report.status = status.success) :
    ∃ sendResp, Delivers client env.toStreamEnv sendResp ∧
      ReadsCode env sendResp status.success := by
  cases h with
  | unserialized => exact absurd hsuccess.symm status.success_ne_parseFailed
  | raised =>
      exact absurd (Text.eq_success_of_raised hsuccess).symm status.success_ne_dataGetFailed
  | unanswered => exact absurd hsuccess.symm status.success_ne_dataGetFailed
  | @answered _ hs sendResp ht r ha =>
      refine ⟨sendResp, transmitted_some_iff.1 ht, ?_⟩
      cases ha with
      | noCode =>
          exact absurd (Text.eq_success_of_raised hsuccess).symm status.success_ne_dataGetFailed
      | interrupted hc =>
          obtain rfl := Text.eq_success_of_raised hsuccess
          exact codeOf_ok_iff.1 hc
      | noData hc =>
          obtain rfl : _ = status.success := hsuccess
          exact codeOf_ok_iff.1 hc
      | undecoded => exact absurd hsuccess.symm status.success_ne_parseFailed
      | decoded hc =>
          obtain rfl : _ = status.success := hsuccess
          exact codeOf_ok_iff.1 hc
      | unclosed hc =>
          obtain rfl := Text.eq_success_of_raised hsuccess
          exact codeOf_ok_iff.1 hc

/-- **Success is a spelling of the success value.**  A function returns success only
if it was given a response whose code is that value after white space and a sign, if
any, and before any text that does not go on with a digit. -/
theorem success_spelled (statusC : ResponseStatus) (codesC : ControlCommandCode)
    (statusN : ResStatus) (codesN : NavigationCommandCode) (client : InterfacesClientImpl)
    (env : CallEnv) (a : Messages) (response : a.M) :
    (∀ f : ControlFunction,
      (f.call statusC codesC client env a response).1 = .ok statusC.success →
        ∃ sendResp, Delivers client env.toStreamEnv sendResp ∧
          ∃ p : Spelling, p.toList = sendResp.ret.code.toList ∧ p.value = statusC.success) ∧
    (∀ f : NavigationFunction,
      (f.call statusN codesN client env a response).1 = .ok statusN.responseSuccess →
        ∃ sendResp, Delivers client env.toStreamEnv sendResp ∧
          ∃ p : Spelling, p.toList = sendResp.ret.code.toList ∧
            p.value = statusN.responseSuccess) := by
  constructor
  · intro f h
    rw [(f.call_report statusC codesC client env a response).status] at h
    have hway := f.text.report_way statusC (f.command codesC a) client env a.request
    obtain ⟨sendResp, hd, hc⟩ := hway.readsSuccess (Except.ok.inj h)
    exact ⟨sendResp, hd, (stoi_ok_iff.1 hc.2).1⟩
  · intro f h
    rw [(f.call_report statusN codesN client env a response).status] at h
    have hway := Navigation.report_way statusN (f.commandCode codesN) a.requestType
      a.responseType client env a.request
    obtain ⟨sendResp, data, m, hsucceeds, -⟩ := hway.succeeds (Except.ok.inj h)
    exact ⟨sendResp, hsucceeds.delivers, (stoi_ok_iff.1 hsucceeds.code.2).1⟩

/-- A peer whose code is a hexadecimal number, with data that decodes. -/
def answersHex : CallEnv :=
  { answersEmpty with read := .ok (some ⟨⟨" 0x1F", "fault"⟩, [("data", .byteValue [9])]⟩) }

/-- A blank, a zero and anything behind it is a success. -/
theorem success_spelled_hex :
    (∃ sendResp, Delivers connectedClient answersHex.toStreamEnv sendResp ∧
      sendResp.ret.code ≠ toString (0 : ℤ)) ∧
    (NavigationFunction.call .getCurrentPose Navigation.sampleStatus
      ⟨201, 202, 203, 204, 205, 206, 207⟩ connectedClient answersHex
      ⟨byteMessage, byteMessage, 7⟩ (42 : UInt8)).1 = .ok 0 :=
  ⟨⟨_, ⟨rfl, rfl, rfl, rfl⟩, by decide⟩, rfl⟩

end Modules
end ClientSdk
