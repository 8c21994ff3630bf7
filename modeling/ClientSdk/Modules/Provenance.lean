/-
# Where statuses and outputs come from

Over a whole session, what a call gives its caller: it returns, whatever is raised on the
way, and the status it returns is one the function gives by itself, or the code of the
answer its own robot gave to its own request; what is new in the output argument was
decoded from that answer, or is what is left of the bytes in it that do not decode
(`session_provenance`).

The statuses a function gives by itself are errors (`success_notMem_localErrors`).
-/

import ClientSdk.Modules.Session

namespace ClientSdk
namespace Modules

open Common Lib Client

/-- The statuses a typed call gives by itself. -/
def Text.localErrors (text : Text) (status : ResponseStatus) : List ℤ :=
  match text with
  | .checked => [status.errorDataGetFailed, status.errorParseFailed, status.errorUnknownService]
  | .unchecked => [status.errorDataGetFailed, status.errorParseFailed]

/-- The statuses a navigation request gives by itself. -/
def Navigation.ResStatus.localErrors (status : Navigation.ResStatus) : List ℤ :=
  [status.errorDataGetFailed, status.errorParseFailed]

/-- The statuses a function gives by itself. -/
def ModuleFunction.localErrors (f : ModuleFunction) (v : Vocabulary) : List ℤ :=
  match f with
  | .control f => f.text.localErrors v.controlStatus
  | .navigation _ => v.navigationStatus.localErrors
  | .perception f => f.text.localErrors v.perceptionStatus

theorem Text.success_notMem_localErrors (text : Text) (status : ResponseStatus) :
    status.success ∉ text.localErrors status := by
  cases text <;> simp [Text.localErrors, status.success_ne_dataGetFailed,
    status.success_ne_parseFailed, status.success_ne_unknownService]

/-- **No function says success by itself.** -/
theorem success_notMem_localErrors (f : ModuleFunction) (v : Vocabulary) :
    f.success v ∉ f.localErrors v := by
  cases f with
  | control f => exact f.text.success_notMem_localErrors v.controlStatus
  | perception f => exact f.text.success_notMem_localErrors v.perceptionStatus
  | navigation f =>
      simp [ModuleFunction.success, ModuleFunction.localErrors,
        Navigation.ResStatus.localErrors, v.navigationStatus.success_ne_dataGetFailed,
        v.navigationStatus.success_ne_parseFailed]

/-- Bytes of the response make the message `m`: decoded, or as what is left of them. -/
def Makes {M : Type} (t : MessageType M) (sendResp : SendResponse) (m : M) : Prop :=
  ∃ data, sendResp.output.find "data" = some data ∧
    (t.decode data.bytevalue = some m ∨
      t.decode data.bytevalue = none ∧ m = t.leftover data.bytevalue)

/-- The report has its status from `localErrors` or from a response that was delivered,
and its update from one. -/
structure Report.Traced {M : Type} (r : Report M) (localErrors : List ℤ) (t : MessageType M)
    (client : InterfacesClientImpl) (env : CallEnv) : Prop where
  status : r.status ∈ localErrors ∨
    ∃ sendResp, Delivers client env.toStreamEnv sendResp ∧ ReadsCode env sendResp r.status
  update : ∀ m, r.update = some m →
    ∃ sendResp, Delivers client env.toStreamEnv sendResp ∧ Makes t sendResp m

section Reports

variable {R M : Type} {client : InterfacesClientImpl} {env : CallEnv}

/-- An exception leads to a local error or leaves the status there was. -/
theorem Text.raised_cases (text : Text) (status : ResponseStatus) (code : ℤ) :
    text.raised status code ∈ text.localErrors status ∨ text.raised status code = code := by
  cases text with
  | checked => exact Or.inl (by simp [Text.raised, Text.localErrors])
  | unchecked => exact Or.inr rfl

theorem Text.dataGetFailed_mem (text : Text) (status : ResponseStatus) :
    status.errorDataGetFailed ∈ text.localErrors status := by
  cases text <;> simp [Text.localErrors]

theorem Text.parseFailed_mem (text : Text) (status : ResponseStatus) :
    status.errorParseFailed ∈ text.localErrors status := by
  cases text <;> simp [Text.localErrors]

/-- What a text makes of a response is traced to it. -/
theorem Text.Answers.traced {text : Text} {status : ResponseStatus} {t : MessageType M}
    {sendResp : SendResponse} {r : Report M} (hd : Delivers client env.toStreamEnv sendResp)
    (h : Text.Answers text status t env sendResp r) :
    r.Traced (text.localErrors status) t client env := by
  have hraised {code : ℤ} (hc : codeOf env sendResp = .ok code) :
      text.raised status code ∈ text.localErrors status ∨
        ∃ sendResp, Delivers client env.toStreamEnv sendResp ∧
          ReadsCode env sendResp (text.raised status code) := by
    rcases text.raised_cases status code with hlocal | hcode
    · exact Or.inl hlocal
    · exact Or.inr ⟨sendResp, hd, by rw [hcode]; exact codeOf_ok_iff.1 hc⟩
  cases h with
  | noCode hc =>
      refine ⟨Or.inl ?_, fun m hm => by cases hm⟩
      rcases text.raised_cases status status.errorDataGetFailed with hlocal | hcode
      · exact hlocal
      · rw [hcode]
        exact text.dataGetFailed_mem status
  | interrupted hc hl => exact ⟨hraised hc, fun m hm => by cases hm⟩
  | noData hc hl hdata =>
      exact ⟨Or.inr ⟨sendResp, hd, codeOf_ok_iff.1 hc⟩, fun m hm => by cases hm⟩
  | @undecoded code hc hl data hdata hnone =>
      refine ⟨Or.inl (text.parseFailed_mem status), fun m hm => ?_⟩
      obtain rfl := Option.some.inj hm
      exact ⟨sendResp, hd, data, hdata, Or.inr ⟨hnone, rfl⟩⟩
  | @decoded code hc hl data hdata m hdecode u hclose =>
      refine ⟨Or.inr ⟨sendResp, hd, codeOf_ok_iff.1 hc⟩, fun m' hm => ?_⟩
      obtain rfl := Option.some.inj hm
      exact ⟨sendResp, hd, data, hdata, Or.inl hdecode⟩
  | @unclosed code hc hl data hdata m hdecode e hclose =>
      refine ⟨hraised hc, fun m' hm => ?_⟩
      obtain rfl := Option.some.inj hm
      exact ⟨sendResp, hd, data, hdata, Or.inl hdecode⟩

theorem Text.Way.traced {text : Text} {status : ResponseStatus} {command : Command R M}
    {request : R} {r : Report M} (h : Text.Way text status command client env request r) :
    r.Traced (text.localErrors status) command.response client env := by
  cases h with
  | unserialized hs => exact ⟨Or.inl (text.parseFailed_mem status), fun m hm => by cases hm⟩
  | raised hs ht =>
      refine ⟨Or.inl ?_, fun m hm => by cases hm⟩
      rcases text.raised_cases status status.errorDataGetFailed with hlocal | hcode
      · exact hlocal
      · rw [hcode]
        exact text.dataGetFailed_mem status
  | unanswered hs ht =>
      exact ⟨Or.inl (text.dataGetFailed_mem status), fun m hm => by cases hm⟩
  | answered hs ht ha =>
      have htraced := ha.traced (transmitted_some_iff.1 ht)
      exact ⟨htraced.status, htraced.update⟩

theorem Navigation.Way.traced {status : Navigation.ResStatus} {t : MessageType M}
    {sendReq : SendRequest} {r : Report M}
    (h : Navigation.Way status t client sendReq env r) :
    r.Traced status.localErrors t client env := by
  have hget : status.errorDataGetFailed ∈ status.localErrors := List.mem_cons_self
  have hparse : status.errorParseFailed ∈ status.localErrors :=
    List.mem_cons_of_mem _ List.mem_cons_self
  cases h with
  | unanswered => exact ⟨Or.inl hget, fun m hm => by cases hm⟩
  | @answered sendResp hd hclose r ha =>
      cases ha with
      | noCode hc => exact ⟨Or.inl hget, fun m hm => by cases hm⟩
      | refused hc hne =>
          exact ⟨Or.inr ⟨sendResp, hd, codeOf_ok_iff.1 hc⟩, fun m hm => by cases hm⟩
      | interrupted hc hl => exact ⟨Or.inl hget, fun m hm => by cases hm⟩
      | noData hc hl hdata => exact ⟨Or.inl hget, fun m hm => by cases hm⟩
      | @undecoded hc hl data hdata hnone =>
          refine ⟨Or.inl hparse, fun m hm => ?_⟩
          obtain rfl := Option.some.inj hm
          exact ⟨sendResp, hd, data, hdata, Or.inr ⟨hnone, rfl⟩⟩
      | @decoded hc hl data hdata m hdecode =>
          refine ⟨Or.inr ⟨sendResp, hd, codeOf_ok_iff.1 hc⟩, fun m' hm => ?_⟩
          obtain rfl := Option.some.inj hm
          exact ⟨sendResp, hd, data, hdata, Or.inl hdecode⟩

end Reports

/-- **What any function comes to is traced.** -/
theorem ModuleFunction.report_traced (f : ModuleFunction) (v : Vocabulary)
    (client : InterfacesClientImpl) (env : CallEnv) (a : Messages) :
    (f.report v client env a).Traced (f.localErrors v) a.responseType client env := by
  cases f with
  | control f =>
      have h := (f.text.report_way v.controlStatus (f.command v.controlCodes a) client env
        a.request).traced
      rwa [f.command_response] at h
  | navigation f => exact (Navigation.report_way _ _ _ _ _ _ _).traced
  | perception f =>
      have h := (f.text.report_way v.perceptionStatus (f.command v.perceptionCodes a) client env
        a.request).traced
      rwa [f.command_response] at h

variable {σ : Type} {ts : MessageTypes}

/-- The answer of the robot its stub leads to, to the request of a call. -/
def World.answer (v : Vocabulary) (robot : Robot σ) (w : World σ) (x : Visit ts) :
    Option SendResponse := do
  let q ← x.f.request v x.messages
  let stub ← w.client.impl.stub
  return (robot.serve (w.robots stub.channel.target) q).2

/-- **Statuses and outputs have a source.**  After any session, whatever a call meets: it
returns; its status is an error the function gives by itself, or the code of the answer of
the robot its client is connected to, to its own request; and its output argument is as it
was, or was made from that answer. -/
theorem session_provenance (v : Vocabulary) (robot : Robot σ) (config : ConfigNode)
    (robots : String → σ) (events : List (Event ts)) (x : Visit ts) :
    let w := (world v ts robot config robots).run events
    let out := w.outcome v robot x
    (∃ status, out.1 = .ok status ∧ (status ∈ x.f.localErrors v ∧ status ≠ x.f.success v ∨
      ∃ answer, w.answer v robot x = some answer ∧ stoi answer.ret.code = .ok status)) ∧
    (out.2.result = x.response ∨
      ∃ answer, w.answer v robot x = some answer ∧
        Makes (ts.responseType x.f) answer out.2.result) := by
  intro w out
  have hdescribes := x.f.call_report v w.client.impl (w.env v robot x) x.messages x.response
  have htraced := x.f.report_traced v w.client.impl (w.env v robot x) x.messages
  have hanswer {sendResp : SendResponse}
      (hd : Delivers w.client.impl (w.env v robot x).toStreamEnv sendResp) :
      w.answer v robot x = some sendResp := (fate_of_read hd.read).2
  refine ⟨⟨_, hdescribes.status, ?_⟩, ?_⟩
  · rcases htraced.status with hlocal | ⟨sendResp, hd, hcode⟩
    · refine Or.inl ⟨hlocal, fun he => ?_⟩
      rw [he] at hlocal
      exact success_notMem_localErrors x.f v hlocal
    · exact Or.inr ⟨sendResp, hanswer hd, hcode.2⟩
  · have hresult : out.2.result = (x.f.report v w.client.impl (w.env v robot x)
        x.messages).update.getD x.response := hdescribes.result
    cases hu : (x.f.report v w.client.impl (w.env v robot x) x.messages).update with
    | none =>
        rw [hu] at hresult
        exact Or.inl hresult
    | some m =>
        rw [hu] at hresult
        obtain ⟨sendResp, hd, hmakes⟩ := htraced.update m hu
        refine Or.inr ⟨sendResp, hanswer hd, ?_⟩
        rw [hresult]
        exact hmakes

end Modules
end ClientSdk
