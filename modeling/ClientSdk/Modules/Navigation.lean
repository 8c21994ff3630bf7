/-
# Navigation

`source/robot/modules/navigation_api.cpp`: `BuildSendRequest`,
`SendGrpcRequest`, `ParseResponse`, `NavigationRequestTemplate` and the seven
functions that instantiate it.

`BuildSendRequest` tells a failed serialization by returning an empty request,
and the template asks whether the request it got is empty.  But the builder has
stored the command code by then, so the request is never empty, and a request
that does not serialize is sent with its command code alone
(`navigation_requestSafe_iff`).
-/

import ClientSdk.Modules.Exchange

namespace ClientSdk
namespace Modules
namespace Navigation

open Common Lib Client

/-- The values of `NavigationResStatus` the functions compare and return. -/
structure ResStatus where
  responseSuccess : ℤ
  errorDataGetFailed : ℤ
  errorParseFailed : ℤ
  success_ne_dataGetFailed : responseSuccess ≠ errorDataGetFailed
  success_ne_parseFailed : responseSuccess ≠ errorParseFailed
  dataGetFailed_ne_parseFailed : errorDataGetFailed ≠ errorParseFailed

/-- `NavigationCommandCode`. -/
structure NavigationCommandCode where
  kGetCurrentPose : ℤ
  kGetGridMap2D : ℤ
  kNavigationTo : ℤ
  kGetRemainingPathDistance : ℤ
  kCancelNavigationTask : ℤ
  kStartCharging : ℤ
  kStopCharging : ℤ

variable {R M : Type}

/-- `BuildSendRequest(command_id, request_data)`. -/
def buildSendRequest (commandId : ℤ) (rt : MessageType R) (requestData : R) : SendRequest :=
  match rt.serialize requestData with
  | none => ⟨commandInput commandId⟩
  | some bytes => commandRequest commandId "request_data" bytes

/-- `SendGrpcRequest` once its stream is open: every way out closes it. -/
def exchangeOnStream (sendReq : SendRequest) (env : StreamEnv) :
    Statement M (Option SendResponse) (Option SendResponse) := do
  if ← writeStream sendReq env then
    match ← readStream env with
    | some sendResp =>
        closeStream env
        return some sendResp
    | none =>
        closeStream env
        return none
  else
    closeStream env
    return none

/-- `SendGrpcRequest(client, send_req, send_resp)`: the response, if one was
received. -/
def sendGrpcRequest (client : InterfacesClientImpl) (sendReq : SendRequest) (env : StreamEnv) :
    Statement M (Option SendResponse) (Option SendResponse) := do
  if ← openStream client 30000 env then exchangeOnStream sendReq env
  else return none

/-- `ParseResponse(send_resp, result)`: only a success is looked into. -/
def parseResponse (status : ResStatus) (t : MessageType M) (env : CallEnv)
    (sendResp : SendResponse) : Statement M ℤ ℤ := do
  Body.lift env.readCode
  let resStatus ← Body.lift (stoi sendResp.ret.code)
  if resStatus ≠ status.responseSuccess then Body.ret resStatus
  else
    Body.lift env.lookup
    match sendResp.output.find "data" with
    | none => Body.ret status.errorDataGetFailed
    | some data =>
        if ← parseResult t data.bytevalue then return status.responseSuccess
        else return status.errorParseFailed

/-- `NavigationRequestTemplate(client, command_id, request_data, result)`. -/
def navigationRequestTemplate (status : ResStatus) (commandId : ℤ) (rt : MessageType R)
    (t : MessageType M) (client : InterfacesClientImpl) (env : CallEnv) (requestData : R)
    (result : M) : Outcome M :=
  Body.call (do
    Body.tryCatch
      (do
        let sendReq := buildSendRequest commandId rt requestData
        if sendReq.input.isEmpty then Body.ret status.errorParseFailed
        else
          match ← Body.invoke (sendGrpcRequest client sendReq env.toStreamEnv) with
          | none => returnStatus
          | some sendResp =>
              let resStatus ← Body.invoke (parseResponse status t env sendResp)
              Body.modify (·.setResStatus resStatus))
      (fun _ => pure ())
    returnStatus)
    { resStatus := status.errorDataGetFailed, result := result }

section

variable (status : ResStatus) (codes : NavigationCommandCode) (rt : MessageType R)
  (t : MessageType M) (client : InterfacesClientImpl) (env : CallEnv) (requestData : R)
  (result : M)

/-- `GetCurrentPose`. -/
def getCurrentPose : Outcome M :=
  navigationRequestTemplate status codes.kGetCurrentPose rt t client env requestData result

/-- `GetGridMap2D`. -/
def getGridMap2D : Outcome M :=
  navigationRequestTemplate status codes.kGetGridMap2D rt t client env requestData result

/-- `NavigationTo`. -/
def navigationTo : Outcome M :=
  navigationRequestTemplate status codes.kNavigationTo rt t client env requestData result

/-- `GetRemainingPathDistance`. -/
def getRemainingPathDistance : Outcome M :=
  navigationRequestTemplate status codes.kGetRemainingPathDistance rt t client env requestData
    result

/-- `CancelNavigationTask`. -/
def cancelNavigationTask : Outcome M :=
  navigationRequestTemplate status codes.kCancelNavigationTask rt t client env requestData result

/-- `StartChargingTask`. -/
def startChargingTask : Outcome M :=
  navigationRequestTemplate status codes.kStartCharging rt t client env requestData result

/-- `StopChargingTask`. -/
def stopChargingTask : Outcome M :=
  navigationRequestTemplate status codes.kStopCharging rt t client env requestData result

end

/-! ### What a navigation call keeps -/

variable {status : ResStatus} {commandId : ℤ} {rt : MessageType R} {t : MessageType M}
  {client : InterfacesClientImpl} {env : CallEnv} {requestData : R} {result : M}
  {sendReq : SendRequest} {I : Exchange M → Prop}

theorem keeps_exchangeOnStream (hI : StreamInvariant sendReq I) (env : StreamEnv) :
    Body.Keeps I (exchangeOnStream sendReq env) := by
  have hclose (r : Option SendResponse) : Body.Keeps I (do
      closeStream env
      return r : Statement M (Option SendResponse) (Option SendResponse)) :=
    Body.keeps_bind (hI.closeStream env) fun _ => Body.keeps_pure _
  refine Body.keeps_bind (hI.writeStream env) fun _ => Body.keeps_ite ?_ (hclose none)
  refine Body.keeps_bind (hI.readStream env) fun read => ?_
  cases read with
  | none => exact hclose none
  | some sendResp => exact hclose (some sendResp)

theorem keeps_sendGrpcRequest (hI : StreamInvariant sendReq I) (env : StreamEnv) :
    Body.Keeps I (sendGrpcRequest client sendReq env) :=
  Body.keeps_bind (hI.openStream client 30000 env) fun _ =>
    Body.keeps_ite (keeps_exchangeOnStream hI env) (Body.keeps_pure _)

theorem keeps_parseResponse (hI : StreamInvariant sendReq I) (sendResp : SendResponse) :
    Body.Keeps I (parseResponse status t env sendResp) := by
  refine Body.keeps_bind (Body.keeps_lift _) fun _ => ?_
  refine Body.keeps_bind (Body.keeps_lift _) fun _ => Body.keeps_ite (Body.keeps_ret _) ?_
  refine Body.keeps_bind (Body.keeps_lift _) fun _ => ?_
  cases sendResp.output.find "data" with
  | none => exact Body.keeps_ret _
  | some data =>
      exact Body.keeps_bind (hI.parseResult t _) fun _ =>
        Body.keeps_ite (Body.keeps_pure _) (Body.keeps_pure _)

/-- The template from the answer to its request on. -/
def conclude (status : ResStatus) (t : MessageType M) (env : CallEnv) :
    Option SendResponse → Statement M ℤ Unit
  | none => returnStatus
  | some sendResp => do
      let resStatus ← Body.invoke (parseResponse status t env sendResp)
      Body.modify (·.setResStatus resStatus)

theorem keeps_conclude (hI : StreamInvariant sendReq I) (sendResp : Option SendResponse) :
    Body.Keeps I (conclude status t env sendResp) := by
  cases sendResp with
  | none => exact keeps_returnStatus
  | some sendResp =>
      exact Body.keeps_bind (Body.keeps_invoke (keeps_parseResponse hI sendResp)) fun _ =>
        Body.keeps_modify fun x hx => hI.setResStatus x _ hx

theorem buildSendRequest_ne_nil : (buildSendRequest commandId rt requestData).input ≠ [] := by
  unfold buildSendRequest
  split
  · exact KeyValueList.insert_ne_nil [] "command_id" (.int32Value commandId)
  · exact KeyValueList.insert_ne_nil (commandInput commandId) "data" (.dictValue _)

/-- **The request is never empty**, so the template always goes on to send it. -/
theorem navigationRequestTemplate_eq :
    navigationRequestTemplate status commandId rt t client env requestData result =
      Body.call (do
        Body.tryCatch
          (do
            let sendResp ← Body.invoke (sendGrpcRequest client
              (buildSendRequest commandId rt requestData) env.toStreamEnv)
            conclude status t env sendResp)
          (fun _ => pure ())
        returnStatus)
        { resStatus := status.errorDataGetFailed, result := result } := by
  have hne : (buildSendRequest commandId rt requestData).input.isEmpty = false := by
    simpa using buildSendRequest_ne_nil
  unfold navigationRequestTemplate
  simp only [hne]
  congr 1

/-! ### Requests that do not serialize -/

/-- Each request written has its command code and its serialized message; and if
the message does not serialize, nothing is written, no stream is opened, the
result is untouched and the call returns `ERROR_PARSE_FAILED`. -/
def RequestSafe (status : ResStatus) (commandId : ℤ) (rt : MessageType R) (requestData : R)
    (result : M) (out : Outcome M) : Prop :=
  (∀ r, .write r ∈ out.2.ops → ∃ bytes, rt.serialize requestData = some bytes ∧
    Complete commandId "request_data" bytes r) ∧
  (rt.serialize requestData = none → (∀ r, .write r ∉ out.2.ops) ∧ ¬ Opened out.2 ∧
    out.2.result = result ∧ out.1 = .ok status.errorParseFailed)

/-- What the template keeps of the exchange it starts with. -/
theorem keeps_template (hI : StreamInvariant (buildSendRequest commandId rt requestData) I)
    (h0 : I { resStatus := status.errorDataGetFailed, result := result }) :
    I (navigationRequestTemplate status commandId rt t client env requestData result).2 := by
  rw [navigationRequestTemplate_eq]
  refine Body.Keeps.call (Body.keeps_bind (Body.keeps_tryCatch ?_ fun _ => Body.keeps_pure _)
    fun _ => keeps_returnStatus) h0
  exact Body.keeps_bind (Body.keeps_invoke (keeps_sendGrpcRequest hI env.toStreamEnv))
    (keeps_conclude hI)

/-- A template call writes its own request and nothing else. -/
theorem onlyWrites_template :
    OnlyWrites (buildSendRequest commandId rt requestData)
      (navigationRequestTemplate status commandId rt t client env requestData result).2 :=
  keeps_template (streamInvariant_onlyWrites _) nofun

/-- Without a stream, a template call returns `ERROR_DATA_GET_FAILED`. -/
theorem template_of_not_opened
    (ho : ¬ (client.isConnected = true ∧ env.created = .ok true)) :
    (navigationRequestTemplate status commandId rt t client env requestData result).1 =
      .ok status.errorDataGetFailed := by
  rw [navigationRequestTemplate_eq]
  let x : Exchange M := { resStatus := status.errorDataGetFailed, result := result }
  rcases openStream_cases (Option SendResponse) client 30000 env.toStreamEnv x with
    ⟨hc, hcr, -⟩ | ⟨-, hopen | ⟨e, hopen⟩⟩
  · exact absurd ⟨hc, hcr⟩ ho
  · simp [sendGrpcRequest, x, hopen, conclude, returnStatus]
  · simp [sendGrpcRequest, x, hopen, returnStatus]

/-- With a stream, it stays opened. -/
theorem opened_template (hc : client.isConnected = true) (hcr : env.created = .ok true) :
    Opened (navigationRequestTemplate status commandId rt t client env requestData result).2 := by
  let x : Exchange M := { resStatus := status.errorDataGetFailed, result := result }
  have hI := streamInvariant_opened (M := M) (buildSendRequest commandId rt requestData)
  rcases openStream_cases (Option SendResponse) client 30000 env.toStreamEnv x with
    ⟨-, -, stream, hopen⟩ | ⟨hno, -⟩
  · have hopened : Opened (x.log [.opened stream]) :=
      ⟨stream, List.mem_append_right _ List.mem_cons_self⟩
    have hsend : Body.wp (sendGrpcRequest client (buildSendRequest commandId rt requestData)
        env.toStreamEnv) (fun _ => Opened) (fun _ => Opened) (fun _ => Opened) x := by
      rw [sendGrpcRequest, Body.wp_bind, Body.wp_of_next hopen]
      exact keeps_exchangeOnStream hI env.toStreamEnv _ hopened
    rw [navigationRequestTemplate_eq]
    refine (Body.call_iff (P := fun out => Opened out.2) _).2 ?_
    rw [Body.wp_bind, Body.wp_tryCatch, Body.wp_bind, Body.wp_invoke]
    have hreturn : Body.Keeps Opened (returnStatus : Statement M ℤ ℤ) := keeps_returnStatus
    refine Body.wp_mono hsend (fun sendResp y hy => ?_) (fun sendResp y hy => ?_)
      fun e y hy => hreturn y hy
    · exact Body.wp_mono (keeps_conclude hI sendResp y hy) (fun _ z hz => hreturn z hz)
        (fun _ _ hz => hz) fun _ z hz => hreturn z hz
    · exact Body.wp_mono (keeps_conclude hI sendResp y hy) (fun _ z hz => hreturn z hz)
        (fun _ _ hz => hz) fun _ z hz => hreturn z hz
  · exact absurd ⟨hc, hcr⟩ hno

variable (status commandId rt t client env requestData result)

/-- **When navigation requests are safe**: exactly if the message serializes.
One that does not is sent, or reported as another failure. -/
theorem navigation_requestSafe_iff :
    RequestSafe status commandId rt requestData result
        (navigationRequestTemplate status commandId rt t client env requestData result) ↔
      (rt.serialize requestData).isSome = true := by
  have honly : OnlyWrites (buildSendRequest commandId rt requestData)
      (navigationRequestTemplate status commandId rt t client env requestData result).2 :=
    onlyWrites_template
  rcases hs : rt.serialize requestData with _ | bytes
  · refine iff_of_false (fun h => ?_) nofun
    obtain ⟨-, hno, -, hstatus⟩ := h.2 hs
    by_cases ho : client.isConnected = true ∧ env.created = .ok true
    · exact hno (opened_template ho.1 ho.2)
    · rw [template_of_not_opened ho] at hstatus
      exact status.dataGetFailed_ne_parseFailed (Except.ok.inj hstatus)
  · refine iff_of_true ⟨fun r hr => ⟨bytes, hs, ?_⟩, fun hnone => ?_⟩ rfl
    · have hbuild : buildSendRequest commandId rt requestData =
          commandRequest commandId "request_data" bytes := by
        rw [buildSendRequest, hs]
      rw [honly r hr, hbuild]
      exact complete_commandRequest commandId "request_data" bytes
    · rw [hs] at hnone
      cases hnone

/-- Values of the enumeration, for an instance. -/
def sampleStatus : ResStatus where
  responseSuccess := 0
  errorDataGetFailed := 1
  errorParseFailed := 2
  success_ne_dataGetFailed := by decide
  success_ne_parseFailed := by decide
  dataGetFailed_ne_parseFailed := by decide

/-- A message type none of whose messages can be serialized. -/
def oversized : MessageType Unit where
  serialize _ := none
  decode _ := none
  leftover _ := ()

/-- A request that does not serialize is written without its message. -/
theorem navigation_requestSafe_oversized :
    ¬ RequestSafe sampleStatus 201 oversized () 42
      (navigationRequestTemplate sampleStatus 201 oversized byteMessage connectedClient
        answersEmpty () 42) := by
  intro h
  have hnone : oversized.serialize () = none := rfl
  obtain ⟨hno, -⟩ := h.2 hnone
  refine hno ⟨commandInput 201⟩ ?_
  have hops : (navigationRequestTemplate sampleStatus 201 oversized byteMessage connectedClient
      answersEmpty () (42 : UInt8)).2.ops.drop 1 =
      [.write ⟨commandInput 201⟩, .read, .writesDone, .finish] := rfl
  exact List.mem_of_mem_drop (hops ▸ List.mem_cons_self)

end Navigation
end Modules
end ClientSdk
