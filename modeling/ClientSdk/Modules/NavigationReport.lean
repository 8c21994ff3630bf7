/-
# What a navigation request comes to

The report of `NavigationRequestTemplate` (`Modules.Report` has those of the typed
calls).  It differs from theirs in two places: the stream is closed on every way
out of `SendGrpcRequest`, before the response is looked at, and only the output of
a response that says success is looked at.

`template_report` says that the template comes to it.
-/

import ClientSdk.Modules.Navigation
import ClientSdk.Modules.Report

namespace ClientSdk
namespace Modules
namespace Navigation

open Common Lib Client

variable {R M : Type}

/-- `SendGrpcRequest`: the response, if one is read. -/
def received (client : InterfacesClientImpl) (env : StreamEnv) :
    Except StdException (Option SendResponse) := do
  if ← opens client env then
    if ← env.write then
      let sendResp ← env.read
      closes env
      return sendResp
    else
      closes env
      return none
  else return none

/-- `SendGrpcRequest`: the operations, once the stream is opened. -/
def exchanging (client : InterfacesClientImpl) (sendReq : SendRequest) (env : StreamEnv) :
    List StreamOp :=
  match opens client env with
  | .ok true => .write sendReq :: match env.write with
      | .ok true => .read :: match env.read with
          | .ok _ => closing env
          | .error _ => []
      | .ok false => closing env
      | .error _ => []
  | _ => []

/-- `ParseResponse`, and what the template makes of it. -/
def answer (status : ResStatus) (t : MessageType M) (env : CallEnv) (sendResp : SendResponse) :
    Report M :=
  match codeOf env sendResp with
  | .error _ => { status := status.errorDataGetFailed }
  | .ok code =>
      if code ≠ status.responseSuccess then { status := code }
      else
        match env.lookup with
        | .error _ => { status := status.errorDataGetFailed }
        | .ok () =>
            match sendResp.output.find "data" with
            | none => { status := status.errorDataGetFailed }
            | some data =>
                match t.decode data.bytevalue with
                | none =>
                    { status := status.errorParseFailed
                      update := some (t.leftover data.bytevalue) }
                | some m =>
                    { status := status.responseSuccess
                      update := some m }

/-- `SendGrpcRequest`: all operations. -/
def sending (client : InterfacesClientImpl) (sendReq : SendRequest) (env : StreamEnv) :
    List StreamOp :=
  opening client 30000 env ++ exchanging client sendReq env

/-- What `NavigationRequestTemplate` comes to. -/
def report (status : ResStatus) (commandId : ℤ) (rt : MessageType R) (t : MessageType M)
    (client : InterfacesClientImpl) (env : CallEnv) (requestData : R) : Report M :=
  let sent := sending client (buildSendRequest commandId rt requestData) env.toStreamEnv
  match received client env.toStreamEnv with
  | .ok (some sendResp) => (answer status t env sendResp).after sent
  | _ => { status := status.errorDataGetFailed, ops := sent }

variable {client : InterfacesClientImpl} {sendReq : SendRequest} {env : CallEnv}
  {x : Exchange M}

/-- **`SendGrpcRequest`** operates on the stream and changes nothing else. -/
theorem sendGrpcRequest_eq (client : InterfacesClientImpl) (sendReq : SendRequest)
    (env : StreamEnv) (x : Exchange M) :
    sendGrpcRequest client sendReq env x =
      Body.lift (received client env) (x.log (sending client sendReq env)) := by
  unfold sending
  rcases ho : opens client env with e | created
  · simp [sendGrpcRequest, openStream_eq, received, exchanging, ho]
  cases created with
  | false => simp [sendGrpcRequest, openStream_eq, received, exchanging, ho]
  | true =>
      rcases hw : env.write with e | written
      · simp [sendGrpcRequest, exchangeOnStream, openStream_eq, received, exchanging, ho, hw,
          writeStream]
      cases written with
      | false =>
          rcases hc : closes env with e | u <;>
            simp [sendGrpcRequest, exchangeOnStream, openStream_eq, received, exchanging, ho, hw,
              writeStream, closeStream_eq, hc]
      | true =>
          rcases hr : env.read with e | _ | sendResp
          · simp [sendGrpcRequest, exchangeOnStream, openStream_eq, received, exchanging, ho, hw,
              hr, writeStream, readStream]
          · rcases hc : closes env with e | u <;>
              simp [sendGrpcRequest, exchangeOnStream, openStream_eq, received, exchanging, ho,
                hw, hr, writeStream, readStream, closeStream_eq, hc]
          · rcases hc : closes env with e | u <;>
              simp [sendGrpcRequest, exchangeOnStream, openStream_eq, received, exchanging, ho,
                hw, hr, writeStream, readStream, closeStream_eq, hc]

/-- The template from the answer to its request on. -/
theorem conclude_answer (status : ResStatus) (t : MessageType M) (env : CallEnv)
    (sendResp : SendResponse) (hx : x.resStatus = status.errorDataGetFailed) :
    (answer status t env sendResp).Describes x (Body.call (do
      Body.tryCatch (conclude status t env (some sendResp)) (fun _ => pure ())
      returnStatus) x) := by
  rcases hr : env.readCode with e | u
  · constructor <;> simp [answer, codeOf, conclude, parseResponse, returnStatus, hr, hx]
  rcases hs : stoi sendResp.ret.code with e | code
  · constructor <;> simp [answer, codeOf, conclude, parseResponse, returnStatus, hr, hs, hx]
  by_cases hc : code = status.responseSuccess
  · rcases hl : env.lookup with e | u
    · constructor <;>
        simp [answer, codeOf, conclude, parseResponse, returnStatus, hr, hs, hc, hl, hx]
    rcases hd : sendResp.output.find "data" with _ | data
    · constructor <;>
        simp [answer, codeOf, conclude, parseResponse, returnStatus, hr, hs, hc, hl, hd]
    rcases hm : t.decode data.bytevalue with _ | m
    · constructor <;>
        simp [answer, codeOf, conclude, parseResponse, returnStatus, hr, hs, hc, hl, hd, hm,
          parseResult, MessageType.parseFromString_of_none hm]
    · constructor <;>
        simp [answer, codeOf, conclude, parseResponse, returnStatus, hr, hs, hc, hl, hd, hm,
          parseResult, MessageType.parseFromString_of_decode hm]
  · constructor <;> simp [answer, codeOf, conclude, parseResponse, returnStatus, hr, hs, hc]

/-- **What a navigation request comes to.**  The status, the operations and the new
result are decided by the request and by what the exchange meets. -/
theorem template_report (status : ResStatus) (commandId : ℤ) (rt : MessageType R)
    (t : MessageType M) (client : InterfacesClientImpl) (env : CallEnv) (requestData : R)
    (result : M) :
    (report status commandId rt t client env requestData).Describes
      { resStatus := status.errorDataGetFailed, result := result }
      (navigationRequestTemplate status commandId rt t client env requestData result) := by
  rw [navigationRequestTemplate_eq]
  rcases hs : received client env.toStreamEnv with e | _ | sendResp
  · constructor <;> simp [report, sendGrpcRequest_eq, hs, returnStatus]
  · constructor <;> simp [report, sendGrpcRequest_eq, hs, conclude, returnStatus]
  · have hanswer := conclude_answer (x := Exchange.log
      (sending client (buildSendRequest commandId rt requestData) env.toStreamEnv)
      { resStatus := status.errorDataGetFailed, result := result }) status t env sendResp rfl
    have hreport : report status commandId rt t client env requestData =
        (answer status t env sendResp).after
          (sending client (buildSendRequest commandId rt requestData) env.toStreamEnv) := by
      simp [report, hs]
    rw [hreport]
    simpa [sendGrpcRequest_eq, hs] using hanswer.after

/-! ### The ways a navigation request goes -/

/-- A response is received exactly if it is read and the stream is closed after
it. -/
theorem received_some_iff {env : StreamEnv} {sendResp : SendResponse} :
    received client env = .ok (some sendResp) ↔
      Delivers client env sendResp ∧ closes env = .ok () := by
  constructor
  · intro h
    rcases hc : client.isConnected with _ | _
    · simp [received, opens, hc] at h
    rcases hcr : env.created with e | _ | _ <;> simp [received, opens, hc, hcr] at h
    rcases hw : env.write with e | _ | _
    · simp [hw] at h
    · rcases hclose : closes env with e | u <;> simp [hw, hclose] at h
    · rcases hr : env.read with e | r
      · simp [hw, hr] at h
      · rcases hclose : closes env with e | u
        · simp [hw, hr, hclose] at h
        · simp only [hw, hr, hclose, except_ok_bind, if_true, Except.ok.injEq] at h
          exact ⟨⟨hc, hcr, hw, by rw [hr, h]⟩, rfl⟩
  · rintro ⟨h, hclose⟩
    simp [received, opens, h.connected, h.created, h.write, h.read, hclose]

/-- The ways a response is looked into, with what each of them comes to. -/
inductive Answers (status : ResStatus) (t : MessageType M) (env : CallEnv)
    (sendResp : SendResponse) : Report M → Prop where
  | noCode {e : StdException} (hc : codeOf env sendResp = .error e) :
      Answers status t env sendResp { status := status.errorDataGetFailed }
  | refused {code : ℤ} (hc : codeOf env sendResp = .ok code)
      (hne : code ≠ status.responseSuccess) :
      Answers status t env sendResp { status := code }
  | interrupted (hc : codeOf env sendResp = .ok status.responseSuccess) {e : StdException}
      (hl : env.lookup = .error e) :
      Answers status t env sendResp { status := status.errorDataGetFailed }
  | noData (hc : codeOf env sendResp = .ok status.responseSuccess) (hl : env.lookup = .ok ())
      (hd : sendResp.output.find "data" = none) :
      Answers status t env sendResp { status := status.errorDataGetFailed }
  | undecoded (hc : codeOf env sendResp = .ok status.responseSuccess) (hl : env.lookup = .ok ())
      {data : Variant} (hd : sendResp.output.find "data" = some data)
      (hm : t.decode data.bytevalue = none) :
      Answers status t env sendResp
        { status := status.errorParseFailed
          update := some (t.leftover data.bytevalue) }
  | decoded (hc : codeOf env sendResp = .ok status.responseSuccess) (hl : env.lookup = .ok ())
      {data : Variant} (hd : sendResp.output.find "data" = some data) {m : M}
      (hm : t.decode data.bytevalue = some m) :
      Answers status t env sendResp
        { status := status.responseSuccess
          update := some m }

theorem answer_answers (status : ResStatus) (t : MessageType M) (env : CallEnv)
    (sendResp : SendResponse) :
    Answers status t env sendResp (answer status t env sendResp) := by
  unfold answer
  rcases hc : codeOf env sendResp with e | code
  · exact .noCode hc
  by_cases hs : code = status.responseSuccess
  · subst hs
    rcases hl : env.lookup with e | u
    · simpa using .interrupted hc hl
    rcases hd : sendResp.output.find "data" with _ | data
    · simpa using .noData hc hl hd
    rcases hm : t.decode data.bytevalue with _ | m
    · simpa [hm] using .undecoded hc hl hd hm
    · simpa [hm] using .decoded hc hl hd hm
  · simpa [hs] using .refused hc hs

/-- Looking into a response operates on nothing. -/
theorem Answers.ops {status : ResStatus} {t : MessageType M} {sendResp : SendResponse}
    {r : Report M} (h : Answers status t env sendResp r) : r.ops = [] := by
  cases h <;> rfl

/-- The ways a navigation request goes, with what each of them comes to. -/
inductive Way (status : ResStatus) (t : MessageType M) (client : InterfacesClientImpl)
    (sendReq : SendRequest) (env : CallEnv) : Report M → Prop where
  | unanswered (h : ∀ sendResp, ¬ (Delivers client env.toStreamEnv sendResp ∧
      closes env.toStreamEnv = .ok ())) :
      Way status t client sendReq env
        { status := status.errorDataGetFailed
          ops := sending client sendReq env.toStreamEnv }
  | answered {sendResp : SendResponse} (hd : Delivers client env.toStreamEnv sendResp)
      (hclose : closes env.toStreamEnv = .ok ()) {r : Report M}
      (ha : Answers status t env sendResp r) :
      Way status t client sendReq env (r.after (sending client sendReq env.toStreamEnv))

theorem report_way (status : ResStatus) (commandId : ℤ) (rt : MessageType R)
    (t : MessageType M) (client : InterfacesClientImpl) (env : CallEnv) (requestData : R) :
    Way status t client (buildSendRequest commandId rt requestData) env
      (report status commandId rt t client env requestData) := by
  unfold report
  rcases hr : received client env.toStreamEnv with e | _ | sendResp
  · refine .unanswered fun sendResp h => ?_
    cases hr.symm.trans (received_some_iff.2 h)
  · refine .unanswered fun sendResp h => ?_
    cases hr.symm.trans (received_some_iff.2 h)
  · obtain ⟨hd, hclose⟩ := received_some_iff.1 hr
    exact .answered hd hclose (answer_answers status t env sendResp)

/-- The way to success: a response is received that says so and whose data decodes. -/
structure Succeeds (status : ResStatus) (t : MessageType M) (client : InterfacesClientImpl)
    (env : CallEnv) (sendResp : SendResponse) (data : Variant) (m : M) : Prop where
  delivers : Delivers client env.toStreamEnv sendResp
  closed : closes env.toStreamEnv = .ok ()
  code : ReadsCode env sendResp status.responseSuccess
  lookup : env.lookup = .ok ()
  found : sendResp.output.find "data" = some data
  decoded : t.decode data.bytevalue = some m

/-- **Success comes this way only**, and brings the decoded message. -/
theorem Way.succeeds {status : ResStatus} {t : MessageType M} {r : Report M}
    (h : Way status t client sendReq env r) (hs : r.status = status.responseSuccess) :
    ∃ sendResp data m, Succeeds status t client env sendResp data m ∧ r.update = some m := by
  cases h with
  | unanswered => exact absurd hs.symm status.success_ne_dataGetFailed
  | @answered sendResp hd hclose r ha =>
      cases ha with
      | noCode => exact absurd hs.symm status.success_ne_dataGetFailed
      | refused hc hne => exact absurd hs hne
      | interrupted => exact absurd hs.symm status.success_ne_dataGetFailed
      | noData => exact absurd hs.symm status.success_ne_dataGetFailed
      | undecoded => exact absurd hs.symm status.success_ne_parseFailed
      | @decoded hc hl data hdata m hm =>
          exact ⟨sendResp, data, m, ⟨hd, hclose, codeOf_ok_iff.1 hc, hl, hdata, hm⟩, rfl⟩

/-- On this way, success it is. -/
theorem Succeeds.report {status : ResStatus} {t : MessageType M} {sendResp : SendResponse}
    {data : Variant} {m : M} (h : Succeeds status t client env sendResp data m) (commandId : ℤ)
    (rt : MessageType R) (requestData : R) :
    (Navigation.report status commandId rt t client env requestData).status =
      status.responseSuccess := by
  have hreceived : received client env.toStreamEnv = .ok (some sendResp) :=
    received_some_iff.2 ⟨h.delivers, h.closed⟩
  simp [Navigation.report, hreceived, answer, Report.after, codeOf_ok_iff.2 h.code, h.lookup,
    h.found, h.decoded]

/-- Whatever comes of the response, the operations are those of `SendGrpcRequest`. -/
theorem Way.ops {status : ResStatus} {t : MessageType M} {r : Report M}
    (h : Way status t client sendReq env r) : r.ops = sending client sendReq env.toStreamEnv := by
  cases h with
  | unanswered => rfl
  | answered hd hclose ha => rw [Report.after, ha.ops, List.append_nil]

end Navigation
end Modules
end ClientSdk
