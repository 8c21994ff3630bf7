/-
# The control functions side by side

`source/robot/modules/control_api.cpp` has the exchange three times.  Given the
same exchange, requests that serialize alike and responses that decode alike, the
three functions touch their output arguments alike, and two of them return the
same status.  `EmergencyStop` does not always: its handler replaces the status by
`ERROR_UNKNOWN_SERVICE`, those of the other two keep the one there is.

So they agree exactly if nothing is raised, the code of the response included,
apart from statuses that happen to be equal (`control_alike_iff`).
-/

import ClientSdk.Modules.Api
import Mathlib.Tactic.ByContra

namespace ClientSdk
namespace Modules

open Common Lib Client

variable {R M R' M' : Type} {status : ResponseStatus} {client : InterfacesClientImpl}
  {env : CallEnv}

/-! ### Texts -/

/-- **A text treats all messages alike.**  Its status, and whether it touches the
output argument, depend on the request and the responses only by what serializes
and what decodes. -/
theorem Text.report_alike (text : Text) {command : Command R M} {command' : Command R' M'}
    {request : R} {request' : R'}
    (hs : (command.request.serialize request).isSome =
      (command'.request.serialize request').isSome)
    (hd : ∀ bytes, (command.response.decode bytes).isSome =
      (command'.response.decode bytes).isSome) :
    (text.report status command client env request).status =
        (text.report status command' client env request').status ∧
      (text.report status command client env request).update.isSome =
        (text.report status command' client env request').update.isSome := by
  rcases hser : command.request.serialize request with _ | bytes <;>
    rcases hser' : command'.request.serialize request' with _ | bytes' <;>
    simp only [hser, hser', Option.isSome_none, Option.isSome_some, reduceCtorEq] at hs
  · simp [Text.report, hser, hser']
  rcases ht : transmitted client env.toStreamEnv with e | _ | sendResp
  · simp [Text.report, hser, hser', ht]
  · simp [Text.report, hser, hser', ht]
  rcases hc : codeOf env sendResp with e | code
  · simp [Text.report, hser, hser', ht, Report.after, Text.answer, hc]
  rcases hl : env.lookup with e | u
  · simp [Text.report, hser, hser', ht, Report.after, Text.answer, hc, hl]
  rcases hdata : sendResp.output.find "data" with _ | data
  · cases text <;> simp [Text.report, hser, hser', ht, Report.after, Text.answer, hc, hl, hdata]
  have hdec := hd data.bytevalue
  rcases hm : command.response.decode data.bytevalue with _ | m <;>
    rcases hm' : command'.response.decode data.bytevalue with _ | m' <;>
    simp only [hm, hm', Option.isSome_none, Option.isSome_some, reduceCtorEq] at hdec
  · simp [Text.report, hser, hser', ht, Report.after, Text.answer, hc, hl, hdata, hm, hm']
  · simp [Text.report, hser, hser', ht, Report.after, Text.answer, hc, hl, hdata, hm, hm']

/-- The two texts touch the output argument alike. -/
theorem report_update_eq (command : Command R M) (request : R) :
    (Text.checked.report status command client env request).update =
      (Text.unchecked.report status command client env request).update := by
  have hway := Text.checked.report_way status command client env request
  generalize Text.checked.report status command client env request = r at hway
  cases hway with
  | unserialized hs => rw [Text.report_of_not_serialized hs]
  | raised hs ht => rw [Text.report_of_raised hs ht]
  | unanswered hs ht => rw [Text.report_of_no_response hs ht]
  | answered hs ht ha =>
      rw [Text.report_of_response hs ht]
      cases ha with
      | noCode hc => rw [Text.answer_of_no_code hc]; rfl
      | interrupted hc hl => rw [Text.answer_of_interrupted hc hl]; rfl
      | noData hc hl hd => rw [Text.answer_of_no_data hc hl hd]; rfl
      | undecoded hc hl hd hm => rw [Text.answer_of_undecoded hc hl hd hm]
      | decoded hc hl hd hm hclose => rw [Text.answer_of_decoded hc hl hd hm hclose]
      | unclosed hc hl hd hm hclose => rw [Text.answer_of_unclosed hc hl hd hm hclose]; rfl

/-- Nothing is raised from opening the stream to the code of the response, unless
the status of an exception is the one a call starts with; and nothing after it, the
closing of the stream after a decoded response included, unless it is the code. -/
structure Undisturbed (status : ResponseStatus) (client : InterfacesClientImpl) (env : CallEnv)
    (t : MessageType M) : Prop where
  before : status.errorUnknownService ≠ status.errorDataGetFailed →
    (∀ e, transmitted client env.toStreamEnv ≠ .error e) ∧
      ∀ sendResp, Delivers client env.toStreamEnv sendResp → ∃ code, ReadsCode env sendResp code
  after : ∀ sendResp code, Delivers client env.toStreamEnv sendResp →
    ReadsCode env sendResp code → status.errorUnknownService ≠ code →
      env.lookup = .ok () ∧ ∀ data, sendResp.output.find "data" = some data →
        (t.decode data.bytevalue).isSome = true → closes env.toStreamEnv = .ok ()

section Statuses

variable {command : Command R M} {request : R} {sendResp : SendResponse}

/-- Once a code is read, the condition on every code that is read is about that one. -/
theorem codes_iff {code : ℤ} (hc : ReadsCode env sendResp code) {u v : ℤ} {P : Prop} :
    ((u ≠ v → ∃ code, ReadsCode env sendResp code) ∧
      ∀ code, ReadsCode env sendResp code → u ≠ code → P) ↔ (u ≠ code → P) := by
  constructor
  · rintro ⟨-, h⟩
    exact h code hc
  · intro h
    refine ⟨fun _ => ⟨code, hc⟩, fun code' hc' hne => ?_⟩
    obtain rfl := hc.eq hc'
    exact h hne

/-- Two statuses that must differ for something impossible are one. -/
theorem eq_iff_of_not {u code : ℤ} {P : Prop} (h : ¬ P) : u = code ↔ (u ≠ code → P) := by
  constructor
  · intro heq hne
    exact absurd heq hne
  · intro himp
    by_contra hne
    exact h (himp hne)

/-- From the response on, the two texts return one status exactly if nothing is
raised, unless the status of an exception is the one there is anyway. -/
theorem answer_statuses_eq_iff (t : MessageType M) :
    (Text.checked.answer status t env sendResp).status =
        (Text.unchecked.answer status t env sendResp).status ↔
      (status.errorUnknownService ≠ status.errorDataGetFailed →
        ∃ code, ReadsCode env sendResp code) ∧
      ∀ code, ReadsCode env sendResp code → status.errorUnknownService ≠ code →
        env.lookup = .ok () ∧ ∀ data, sendResp.output.find "data" = some data →
          (t.decode data.bytevalue).isSome = true → closes env.toStreamEnv = .ok () := by
  have hways := Text.checked.answer_answers status t env sendResp
  generalize Text.checked.answer status t env sendResp = r at hways
  cases hways with
  | noCode hc =>
      have hno : ∀ code, ¬ ReadsCode env sendResp code := fun code h => by
        cases hc.symm.trans (codeOf_ok_iff.2 h)
      rw [Text.answer_of_no_code hc]
      rw [and_iff_left fun code hcode => absurd hcode (hno code)]
      refine eq_iff_of_not fun h => ?_
      obtain ⟨code, hcode⟩ := h
      exact hno code hcode
  | interrupted hc hl =>
      rw [Text.answer_of_interrupted hc hl, codes_iff (codeOf_ok_iff.1 hc)]
      refine eq_iff_of_not fun h => ?_
      cases hl.symm.trans h.1
  | noData hc hl hd =>
      rw [Text.answer_of_no_data hc hl hd, codes_iff (codeOf_ok_iff.1 hc)]
      refine iff_of_true rfl fun _ => ⟨hl, fun data hdata => ?_⟩
      cases hd.symm.trans hdata
  | @undecoded code hc hl data hd hm =>
      rw [Text.answer_of_undecoded hc hl hd hm, codes_iff (codeOf_ok_iff.1 hc)]
      refine iff_of_true rfl fun _ => ⟨hl, fun data' hdata' hsome => ?_⟩
      obtain rfl : data = data' := Option.some.inj (hd.symm.trans hdata')
      rw [hm] at hsome
      cases hsome
  | decoded hc hl hd hm hclose =>
      rw [Text.answer_of_decoded hc hl hd hm hclose, codes_iff (codeOf_ok_iff.1 hc)]
      exact iff_of_true rfl fun _ => ⟨hl, fun _ _ _ => hclose⟩
  | unclosed hc hl hd hm hclose =>
      rw [Text.answer_of_unclosed hc hl hd hm hclose, codes_iff (codeOf_ok_iff.1 hc)]
      refine eq_iff_of_not fun h => ?_
      cases hclose.symm.trans (h.2 _ hd (Option.isSome_iff_exists.2 ⟨_, hm⟩))

/-- **When the two texts return one status.** -/
theorem report_statuses_eq_iff (command : Command R M) (request : R) :
    (Text.checked.report status command client env request).status =
        (Text.unchecked.report status command client env request).status ↔
      ((command.request.serialize request).isSome = true →
        Undisturbed status client env command.response) := by
  rcases hs : command.request.serialize request with _ | bytes
  · rw [Text.report_of_not_serialized hs, Text.report_of_not_serialized hs]
    exact iff_of_true rfl nofun
  rcases ht : transmitted client env.toStreamEnv with e | _ | sendResp
  · have hno : ∀ r, ¬ Delivers client env.toStreamEnv r := fun r hr => by
      cases ht.symm.trans (transmitted_some_iff.2 hr)
    rw [Text.report_of_raised hs ht, Text.report_of_raised hs ht]
    constructor
    · intro heq _
      exact ⟨fun hne => absurd heq hne, fun r _ hr => absurd hr (hno r)⟩
    · intro h
      by_contra hne
      exact ((h rfl).before hne).1 e ht
  · have hno : ∀ r, ¬ Delivers client env.toStreamEnv r := fun r hr => by
      cases ht.symm.trans (transmitted_some_iff.2 hr)
    rw [Text.report_of_no_response hs ht, Text.report_of_no_response hs ht]
    refine iff_of_true rfl fun _ => ⟨fun _ => ⟨fun e he => ?_, fun r hr => absurd hr (hno r)⟩,
      fun r _ hr => absurd hr (hno r)⟩
    cases ht.symm.trans he
  · have hd : Delivers client env.toStreamEnv sendResp := transmitted_some_iff.1 ht
    rw [Text.report_of_response hs ht, Text.report_of_response hs ht]
    refine (answer_statuses_eq_iff command.response).trans ⟨fun h _ => ?_, fun h => ?_⟩
    · obtain ⟨hcode, hafter⟩ := h
      refine ⟨fun hne => ⟨fun e he => ?_, fun r hr => ?_⟩, fun r code hr hc hne => ?_⟩
      · cases ht.symm.trans he
      · obtain rfl := hr.eq hd
        exact hcode hne
      · obtain rfl := hr.eq hd
        exact hafter code hc hne
    · obtain ⟨hbefore, hafter⟩ := h rfl
      exact ⟨fun hne => (hbefore hne).2 sendResp hd, fun code => hafter sendResp code hd⟩

end Statuses

/-! ### The three functions -/

namespace Control

/-- The call leaves the output argument, whatever it holds. -/
def Leaves (run : M → Outcome M) : Prop := ∀ response, (run response).2.result = response

/-- The call puts one value into the output argument, whatever it holds. -/
def Overwrites (run : M → Outcome M) : Prop := ∃ m, ∀ response, (run response).2.result = m

/-- The three functions, each with its own messages, return one status, and either
all leave their output arguments or all overwrite them. -/
structure TreatAlike (status : ResponseStatus) (codes : ControlCommandCode)
    (client : InterfacesClientImpl) (env : CallEnv) (args : ControlFunction → Messages) :
    Prop where
  returned : ∀ (f g : ControlFunction) response response',
    (f.call status codes client env (args f) response).1 =
      (g.call status codes client env (args g) response').1
  touched : (∀ f : ControlFunction, Leaves (f.call status codes client env (args f))) ∨
    ∀ f : ControlFunction, Overwrites (f.call status codes client env (args f))

section

variable (status : ResponseStatus) (codes : ControlCommandCode) (client : InterfacesClientImpl)
  (env : CallEnv) (args : ControlFunction → Messages)
  (hs : ∀ f g, (args f).serialized.isSome = (args g).serialized.isSome)
  (hd : ∀ f g bytes, (args f).Accepts bytes ↔ (args g).Accepts bytes)
include hs hd

/-- Every function reports like its text does on the messages of `EmergencyStop`. -/
theorem control_report_alike (f : ControlFunction) :
    (f.report status codes client env (args f)).status =
        (f.text.report status (ControlFunction.emergencyStop.command codes (args .emergencyStop))
          client env (args .emergencyStop).request).status ∧
      (f.report status codes client env (args f)).update.isSome =
        (f.text.report status (ControlFunction.emergencyStop.command codes (args .emergencyStop))
          client env (args .emergencyStop).request).update.isSome := by
  refine f.text.report_alike ?_ fun bytes => ?_
  · rw [f.command_request, ControlFunction.command_request]
    exact hs f .emergencyStop
  · rw [f.command_response, ControlFunction.command_response]
    exact Bool.eq_iff_iff.2 (hd f .emergencyStop bytes)

/-- **The control functions touch their output arguments alike.** -/
theorem control_touched :
    (∀ f : ControlFunction, Leaves (f.call status codes client env (args f))) ∨
      ∀ f : ControlFunction, Overwrites (f.call status codes client env (args f)) := by
  have hupdate : ∀ f : ControlFunction,
      (f.report status codes client env (args f)).update.isSome =
        (Text.checked.report status
          (ControlFunction.emergencyStop.command codes (args .emergencyStop)) client env
          (args .emergencyStop).request).update.isSome := by
    intro f
    rw [(control_report_alike status codes client env args hs hd f).2]
    cases f.text with
    | checked => rfl
    | unchecked => rw [report_update_eq]
  cases hb : (Text.checked.report status
      (ControlFunction.emergencyStop.command codes (args .emergencyStop)) client env
      (args .emergencyStop).request).update.isSome with
  | false =>
      refine Or.inl fun f response => ?_
      have hnone : (f.report status codes client env (args f)).update = none := by
        simpa using (hupdate f).trans hb
      rw [(f.call_report status codes client env (args f) response).result, hnone]
      rfl
  | true =>
      refine Or.inr fun f => ?_
      obtain ⟨m, hm⟩ := Option.isSome_iff_exists.1 ((hupdate f).trans hb)
      refine ⟨m, fun response => ?_⟩
      rw [(f.call_report status codes client env (args f) response).result, hm]
      rfl

/-- **When the control functions treat an exchange alike.**  For requests that
serialize alike and responses that decode alike: exactly if the request is not
serialized or the exchange is undisturbed. -/
theorem control_alike_iff :
    TreatAlike status codes client env args ↔
      ((args .emergencyStop).serialized.isSome = true →
        Undisturbed status client env (args .emergencyStop).responseType) := by
  let command := ControlFunction.emergencyStop.command codes (args .emergencyStop)
  let request := (args .emergencyStop).request
  have hreturned : ∀ (f : ControlFunction) response,
      (f.call status codes client env (args f) response).1 =
        .ok (f.text.report status command client env request).status := by
    intro f response
    rw [(f.call_report status codes client env (args f) response).status,
      (control_report_alike status codes client env args hs hd f).1]
  constructor
  · intro h
    refine (report_statuses_eq_iff command request).1 ?_
    have hcalls := h.returned .emergencyStop .getJointInfo
      ((args .emergencyStop).responseType.leftover [])
      ((args .getJointInfo).responseType.leftover [])
    rw [hreturned, hreturned] at hcalls
    exact Except.ok.inj hcalls
  · intro h
    have hall : ∀ text : Text, (text.report status command client env request).status =
        (Text.unchecked.report status command client env request).status := by
      intro text
      cases text with
      | checked => exact (report_statuses_eq_iff command request).2 h
      | unchecked => rfl
    refine ⟨fun f g response response' => ?_, control_touched status codes client env args hs hd⟩
    rw [hreturned, hreturned, hall f.text, hall g.text]

end

/-- An answer without data is the same to all three. -/
theorem control_alike_noData :
    TreatAlike sampleStatus sampleCodes connectedClient answersEmpty
      (fun _ => ⟨byteMessage, byteMessage, 7⟩) := by
  refine (control_alike_iff sampleStatus sampleCodes connectedClient answersEmpty _
    (fun _ _ => rfl) fun _ _ _ => Iff.rfl).2 fun _ => ⟨fun _ => ⟨nofun, fun r hr => ?_⟩, ?_⟩
  · obtain rfl : (⟨⟨"0", "ok"⟩, []⟩ : SendResponse) = r :=
      Option.some.inj (Except.ok.inj hr.read)
    exact ⟨0, rfl, rfl⟩
  · intro r code _ _ _
    exact ⟨rfl, fun _ _ _ => rfl⟩

/-- A peer whose code is no number. -/
def answersNoNumber : CallEnv :=
  { answersEmpty with read := .ok (some ⟨⟨"abc", "ok"⟩, []⟩) }

/-- An answer whose code is no number is an unknown service to `EmergencyStop`, and
no answer to the other two. -/
theorem control_alike_noNumber :
    ¬ TreatAlike sampleStatus sampleCodes connectedClient answersNoNumber
      (fun _ => ⟨byteMessage, byteMessage, 7⟩) := by
  intro h
  have hreturned := h.returned .emergencyStop .getJointInfo (42 : UInt8) (42 : UInt8)
  exact absurd (Except.ok.inj hreturned) (by decide)

end Control

end Modules
end ClientSdk
