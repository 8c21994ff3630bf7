/-
# One robot, thirteen functions

The functions of the navigation, control and perception modules as the members of
one enumeration, with the enumerations of the three modules as its vocabulary.

Whatever function is called, its part on the wire is small.  It does nothing, or it
opens one stream, writes its request there, and perhaps reads an answer and closes
the stream (`Conversation`, `ModuleFunction.call_conversation`).  It says success
only if it was given an answer that says so (`ModuleFunction.call_success`).
-/

import ClientSdk.Modules.Perception

namespace ClientSdk
namespace Modules

open Common Lib Client Control Navigation Perception

/-- The enumerations of the three modules. -/
structure Vocabulary where
  controlStatus : ResponseStatus
  controlCodes : ControlCommandCode
  navigationStatus : ResStatus
  navigationCodes : NavigationCommandCode
  perceptionStatus : ResponseStatus
  perceptionCodes : PerceptionCommandCode

/-- The functions of the three modules. -/
inductive ModuleFunction where
  | control (f : ControlFunction)
  | navigation (f : NavigationFunction)
  | perception (f : PerceptionFunction)
deriving DecidableEq, Repr

/-! ### Conversations -/

/-- What a call does with a stream it is given: it writes its request, perhaps reads an
answer, and perhaps closes the stream. -/
inductive Conversation (stream : ClientReaderWriter) (request : SendRequest) (env : StreamEnv) :
    List StreamOp → Prop where
  | written : Conversation stream request env [.opened stream, .write request]
  | refused : Conversation stream request env ([.opened stream, .write request] ++ closing env)
  | read : Conversation stream request env [.opened stream, .write request, .read]
  | closed :
      Conversation stream request env ([.opened stream, .write request, .read] ++ closing env)

/-- A call converses over the stream that opening gives, if there is one and something to
write. -/
def Converses (client : InterfacesClientImpl) (timeoutMs : ℤ) (request : Option SendRequest)
    (env : StreamEnv) (ops : List StreamOp) : Prop :=
  (¬ (request.isSome = true ∧ opens client env = .ok true) ∧ ops = []) ∨
    ∃ q stream, request = some q ∧ opens client env = .ok true ∧
      opening client timeoutMs env = [.opened stream] ∧ Conversation stream q env ops

section Conversing

variable {client : InterfacesClientImpl} {env : CallEnv}

/-- The first part of a typed call converses. -/
theorem sending_converses {R M : Type} (command : Command R M) (bytes : Bytes) :
    Converses client 10000 (some (commandRequest command.commandId command.key bytes))
      env.toStreamEnv (sending command bytes client env.toStreamEnv) := by
  by_cases ho : opens client env.toStreamEnv = .ok true
  · obtain ⟨stream, hopening⟩ := opening_of_opens ho 10000
    refine Or.inr ⟨_, stream, rfl, ho, hopening, ?_⟩
    rcases hw : env.write with e | _ | _
    · simpa [sending, hopening, transmitting, ho, hw] using Conversation.written
    · simpa [sending, hopening, transmitting, ho, hw] using Conversation.refused
    · simpa [sending, hopening, transmitting, ho, hw] using Conversation.read
  · exact Or.inl ⟨fun h => ho h.2, sending_of_not_opens ho command bytes⟩

/-- A text that answers a response closes the stream or leaves it. -/
theorem Text.Answers.closing_cases {M : Type} {text : Text} {status : ResponseStatus}
    {t : MessageType M} {sendResp : SendResponse} {r : Report M}
    (h : Text.Answers text status t env sendResp r) :
    r.ops = [] ∨ r.ops = closing env.toStreamEnv := by
  cases h with
  | noData => cases text <;> simp
  | decoded => exact Or.inr rfl
  | unclosed => exact Or.inr rfl
  | noCode => exact Or.inl rfl
  | interrupted => exact Or.inl rfl
  | undecoded => exact Or.inl rfl

/-- **A typed call converses.** -/
theorem Text.report_converses {R M : Type} (text : Text) (status : ResponseStatus)
    (command : Command R M) (client : InterfacesClientImpl) (env : CallEnv) (request : R) :
    Converses client 10000
      ((command.request.serialize request).map (commandRequest command.commandId command.key))
      env.toStreamEnv (text.report status command client env request).ops := by
  have hway := text.report_way status command client env request
  generalize text.report status command client env request = report at hway
  cases hway with
  | unserialized hs =>
      rw [hs]
      refine Or.inl ⟨?_, rfl⟩
      rintro ⟨hsome, -⟩
      cases hsome
  | @raised bytes hs e ht =>
      rw [hs]
      exact sending_converses command bytes
  | @unanswered bytes hs ht =>
      rw [hs]
      exact sending_converses command bytes
  | @answered bytes hs sendResp ht r ha =>
      have hd : Delivers client env.toStreamEnv sendResp := transmitted_some_iff.1 ht
      obtain ⟨stream, hopening⟩ := opening_of_opens hd.opens 10000
      have hsent : sending command bytes client env.toStreamEnv = [.opened stream,
          .write (commandRequest command.commandId command.key bytes), .read] := by
        simp [sending, hopening, transmitting, hd.opens, hd.write]
      rw [hs]
      refine Or.inr ⟨_, stream, rfl, hd.opens, hopening, ?_⟩
      rw [Report.after, hsent]
      rcases ha.closing_cases with hr | hr
      · rw [hr, List.append_nil]
        exact .read
      · rw [hr]
        exact .closed

/-- **A navigation request converses.** -/
theorem navigation_report_converses {R M : Type} (status : ResStatus) (commandId : ℤ)
    (rt : MessageType R) (t : MessageType M) (requestData : R) :
    Converses client 30000 (some (buildSendRequest commandId rt requestData)) env.toStreamEnv
      (Navigation.report status commandId rt t client env requestData).ops := by
  rw [(Navigation.report_way status commandId rt t client env requestData).ops]
  by_cases ho : opens client env.toStreamEnv = .ok true
  · obtain ⟨stream, hopening⟩ := opening_of_opens ho 30000
    refine Or.inr ⟨_, stream, rfl, ho, hopening, ?_⟩
    rcases hw : env.write with e | _ | _
    · simpa [Navigation.sending, hopening, exchanging, ho, hw] using Conversation.written
    · simpa [Navigation.sending, hopening, exchanging, ho, hw] using Conversation.refused
    · rcases hr : env.read with e | sendResp
      · simpa [Navigation.sending, hopening, exchanging, ho, hw, hr] using Conversation.read
      · simpa [Navigation.sending, hopening, exchanging, ho, hw, hr] using Conversation.closed
  · refine Or.inl ⟨fun h => ho h.2, ?_⟩
    have hexchanging : exchanging client (buildSendRequest commandId rt requestData)
        env.toStreamEnv = [] := by
      unfold exchanging
      split
      · rename_i ho'
        exact absurd ho' ho
      · rfl
    rw [Navigation.sending, opening_of_not_opens ho, hexchanging, List.append_nil]

/-- A typed call of a client that is not connected. -/
theorem Text.report_of_not_connected {R M : Type} (h : client.isConnected = false) (text : Text)
    (status : ResponseStatus) (command : Command R M) (request : R) :
    text.report status command client env request =
      { status := if (command.request.serialize request).isSome then status.errorDataGetFailed
          else status.errorParseFailed } := by
  have hopens : opens client env.toStreamEnv = .ok false := by simp [opens, h]
  rcases hs : command.request.serialize request with _ | bytes
  · rw [Text.report_of_not_serialized hs]
    rfl
  · have htransmitted : transmitted client env.toStreamEnv = .ok none := by
      simp [transmitted, hopens]
    have hsending : sending command bytes client env.toStreamEnv = [] :=
      sending_of_not_opens (by simp [hopens]) command bytes
    rw [Text.report_of_no_response hs htransmitted, hsending]
    rfl

/-- A navigation request of a client that is not connected. -/
theorem navigation_report_of_not_connected {R M : Type} (h : client.isConnected = false)
    (status : ResStatus) (commandId : ℤ) (rt : MessageType R) (t : MessageType M)
    (requestData : R) :
    Navigation.report status commandId rt t client env requestData =
      { status := status.errorDataGetFailed } := by
  have hopens : opens client env.toStreamEnv = .ok false := by simp [opens, h]
  have hopening : opening client 30000 env.toStreamEnv = [] :=
    opening_of_not_opens (by simp [hopens]) 30000
  simp [Navigation.report, received, Navigation.sending, exchanging, hopens, hopening]

end Conversing

/-! ### The functions -/

namespace ModuleFunction

variable (f : ModuleFunction) (v : Vocabulary) (client : InterfacesClientImpl) (env : CallEnv)
  (a : Messages) (response : a.M)

/-- A call of the function. -/
def call : Outcome a.M :=
  match f with
  | .control f => f.call v.controlStatus v.controlCodes client env a response
  | .navigation f => f.call v.navigationStatus v.navigationCodes client env a response
  | .perception f => f.call v.perceptionStatus v.perceptionCodes client env a response

/-- The success value of the function's module. -/
def success : ℤ :=
  match f with
  | .control _ => v.controlStatus.success
  | .navigation _ => v.navigationStatus.responseSuccess
  | .perception _ => v.perceptionStatus.success

/-- The status of a call that comes by no response. -/
def dataGetFailed : ℤ :=
  match f with
  | .control _ => v.controlStatus.errorDataGetFailed
  | .navigation _ => v.navigationStatus.errorDataGetFailed
  | .perception _ => v.perceptionStatus.errorDataGetFailed

/-- The status of a call whose request does not serialize, where the function asks. -/
def parseFailed : ℤ :=
  match f with
  | .control _ => v.controlStatus.errorParseFailed
  | .navigation _ => v.navigationStatus.errorParseFailed
  | .perception _ => v.perceptionStatus.errorParseFailed

/-- The function's command code. -/
def commandCode : ℤ :=
  match f with
  | .control f => f.commandCode v.controlCodes
  | .navigation f => f.commandCode v.navigationCodes
  | .perception f => f.commandCode v.perceptionCodes

/-- The key of the function's request. -/
def key : String :=
  match f with
  | .control f => f.key
  | .navigation _ => "request_data"
  | .perception f => f.key

/-- The timeout of the function's stream. -/
def timeoutMs : ℤ :=
  match f with
  | .navigation _ => 30000
  | .control _ | .perception _ => 10000

/-- The request the function writes, if it gets to writing one. -/
def request : Option SendRequest :=
  match f with
  | .navigation f => some (buildSendRequest (f.commandCode v.navigationCodes) a.requestType
      a.request)
  | .control _ | .perception _ => a.serialized.map (commandRequest (f.commandCode v) f.key)

/-- What a call of the function comes to. -/
def report : Report a.M :=
  match f with
  | .control f => f.report v.controlStatus v.controlCodes client env a
  | .navigation f => f.report v.navigationStatus v.navigationCodes client env a
  | .perception f =>
      f.text.report v.perceptionStatus (f.command v.perceptionCodes a) client env a.request

theorem call_report :
    (f.report v client env a).Describes { resStatus := f.dataGetFailed v, result := response }
      (f.call v client env a response) := by
  cases f with
  | control f => exact f.call_report v.controlStatus v.controlCodes client env a response
  | navigation f =>
      exact f.call_report v.navigationStatus v.navigationCodes client env a response
  | perception f =>
      rw [call, f.call_eq_text]
      exact f.text.call_report v.perceptionStatus (f.command v.perceptionCodes a) client env
        a.request response

/-- A request that serializes is written whole. -/
theorem request_of_serialized {bytes : Bytes} (hs : a.serialized = some bytes) :
    f.request v a = some (commandRequest (f.commandCode v) f.key bytes) := by
  have hser : a.requestType.serialize a.request = some bytes := hs
  cases f with
  | control f => simp [request, hs]
  | navigation f => simp [request, buildSendRequest, hser, commandCode, key]
  | perception f => simp [request, hs]

/-- **What a call does on the wire.**  It converses over one stream if it is given one
and has a request to write, and does nothing else. -/
theorem call_converses : Converses client f.timeoutMs (f.request v a) env.toStreamEnv
    (f.call v client env a response).2.ops := by
  rw [(f.call_report v client env a response).ops, List.nil_append]
  cases f with
  | control f =>
      have h := f.text.report_converses v.controlStatus (f.command v.controlCodes a) client env
        a.request
      rwa [f.command_request, f.command_commandId, f.command_key] at h
  | navigation f => exact navigation_report_converses _ _ _ _ _
  | perception f =>
      have h := f.text.report_converses v.perceptionStatus (f.command v.perceptionCodes a) client
        env a.request
      rwa [f.command_request, f.command_commandId, f.command_key] at h

/-- **Success needs an answer that says so.** -/
theorem call_success (h : (f.call v client env a response).1 = .ok (f.success v)) :
    ∃ sendResp, Delivers client env.toStreamEnv sendResp ∧
      ReadsCode env sendResp (f.success v) := by
  rw [(f.call_report v client env a response).status] at h
  have hstatus : (f.report v client env a).status = f.success v := Except.ok.inj h
  cases f with
  | control f =>
      exact (f.text.report_way v.controlStatus (f.command v.controlCodes a) client env
        a.request).readsSuccess hstatus
  | navigation f =>
      obtain ⟨sendResp, data, m, hsucceeds, -⟩ := (Navigation.report_way v.navigationStatus
        (f.commandCode v.navigationCodes) a.requestType a.responseType client env
        a.request).succeeds hstatus
      exact ⟨sendResp, hsucceeds.delivers, hsucceeds.code⟩
  | perception f =>
      exact (f.text.report_way v.perceptionStatus (f.command v.perceptionCodes a) client env
        a.request).readsSuccess hstatus

/-- What a call of a client that is not connected comes to. -/
theorem report_of_not_connected (h : client.isConnected = false) :
    f.report v client env a =
      { status := if (f.request v a).isSome then f.dataGetFailed v else f.parseFailed v } := by
  cases f with
  | control f =>
      rw [report, ControlFunction.report, Text.report_of_not_connected h, f.command_request]
      simp [request, Messages.serialized, dataGetFailed, parseFailed]
  | navigation f =>
      rw [report, NavigationFunction.report, navigation_report_of_not_connected h]
      rfl
  | perception f =>
      rw [report, Text.report_of_not_connected h, f.command_request]
      simp [request, Messages.serialized, dataGetFailed, parseFailed]

/-- **A call of a client that is not connected** does nothing and says so. -/
theorem call_of_not_connected (h : client.isConnected = false) :
    (f.call v client env a response).1 =
        .ok (if (f.request v a).isSome then f.dataGetFailed v else f.parseFailed v) ∧
      (f.call v client env a response).2.ops = [] ∧
      (f.call v client env a response).2.result = response := by
  have hdescribes := f.call_report v client env a response
  rw [f.report_of_not_connected v client env a h] at hdescribes
  exact ⟨hdescribes.status, hdescribes.ops, hdescribes.result⟩

end ModuleFunction

end Modules
end ClientSdk
