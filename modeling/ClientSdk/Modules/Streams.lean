/-
# The life of a stream

A stream that `Send` opened is a live call to the robot until it is half-closed by
`WritesDone` and ended by `Finish`.

`SendGrpcRequest` closes its stream on every way out, so what a navigation request
does to it is one of two traces (`navigation_streamTraces`).  The control functions
close theirs when the write is refused and at their normal end, and leave it open on
the other exits.  `control_streamClosed_iff` lists the exchanges on which they close
it.
-/

import ClientSdk.Modules.Api
import ClientSdk.Modules.Fidelity

namespace ClientSdk
namespace Modules

open Common Lib Client Control Navigation

variable {R M : Type}

namespace StreamOp

/-- A `Write`. -/
def isWrite : StreamOp → Bool
  | .write _ => true
  | _ => false

/-- A `Read`. -/
def isRead : StreamOp → Bool
  | .read => true
  | _ => false

/-- A `WritesDone`. -/
def isWritesDone : StreamOp → Bool
  | .writesDone => true
  | _ => false

/-- A `Finish`. -/
def isFinish : StreamOp → Bool
  | .finish => true
  | _ => false

end StreamOp

/-- If a stream was opened, it was written to and read from at most once, half-closed
and finished exactly once, and the finish was the last. -/
structure StreamClosed (ops : List StreamOp) : Prop where
  write : ops.countP StreamOp.isWrite ≤ 1
  read : ops.countP StreamOp.isRead ≤ 1
  writesDone : ops.countP StreamOp.isWritesDone = 1
  finish : ops.countP StreamOp.isFinish = 1
  last : ops.getLast? = some .finish

/-! ### Streams that are begun -/

/-- A stream was opened, written to and perhaps read from. -/
inductive Begun : List StreamOp → Prop where
  | written (stream : ClientReaderWriter) (request : SendRequest) :
      Begun [.opened stream, .write request]
  | read (stream : ClientReaderWriter) (request : SendRequest) :
      Begun [.opened stream, .write request, .read]

/-- A stream that is begun is not closed. -/
theorem Begun.not_closed {ops : List StreamOp} (h : Begun ops) : ¬ StreamClosed ops := by
  intro hclosed
  cases h with
  | written stream request => exact Nat.zero_ne_one hclosed.finish
  | read stream request => exact Nat.zero_ne_one hclosed.finish

/-- Closing it closes it, unless `WritesDone` raises. -/
theorem Begun.closed_iff {ops : List StreamOp} (h : Begun ops) (env : StreamEnv) :
    StreamClosed (ops ++ closing env) ↔ env.writesDone = .ok () := by
  unfold closing
  rcases hw : env.writesDone with e | u
  · refine iff_of_false (fun hclosed => ?_) nofun
    cases h with
    | written stream request => exact Nat.zero_ne_one hclosed.finish
    | read stream request => exact Nat.zero_ne_one hclosed.finish
  · refine iff_of_true ?_ rfl
    cases h with
    | written stream request => exact ⟨Nat.le_refl 1, Nat.zero_le 1, rfl, rfl, rfl⟩
    | read stream request => exact ⟨Nat.le_refl 1, Nat.le_refl 1, rfl, rfl, rfl⟩

/-! ### Control -/

/-- A typed call gets to the place where its text closes the stream: the write was
refused, or a response was read, with a code, and its data decodes.  The unchecked text
goes on without data, too. -/
def Text.ReachesClosing (text : Text) (t : MessageType M) (client : InterfacesClientImpl)
    (env : CallEnv) : Prop :=
  env.write = .ok false ∨ ∃ sendResp code, Delivers client env.toStreamEnv sendResp ∧
    ReadsCode env sendResp code ∧ env.lookup = .ok () ∧
    match sendResp.output.find "data" with
    | none => text = .unchecked
    | some data => (t.decode data.bytevalue).isSome = true

/-- What a call does to a stream: there is none, or it is begun, and closed if the call
gets to the place where it closes it. -/
def BeginsStream (opened reachesClosing : Prop) (env : StreamEnv) (ops : List StreamOp) : Prop :=
  (¬ opened ∧ ops = []) ∨
    (opened ∧ ∃ base, Begun base ∧
      ((reachesClosing ∧ ops = base ++ closing env) ∨ (¬ reachesClosing ∧ ops = base)))

/-- Such a stream is closed exactly if the call gets to closing it and `WritesDone` does
not raise. -/
theorem BeginsStream.closed_iff {opened reachesClosing : Prop} {env : StreamEnv}
    {ops : List StreamOp} (h : BeginsStream opened reachesClosing env ops) :
    ((∃ stream, .opened stream ∈ ops) → StreamClosed ops) ↔
      (opened → env.writesDone = .ok () ∧ reachesClosing) := by
  rcases h with ⟨hno, rfl⟩ | ⟨ho, base, hbegun, ⟨hreach, rfl⟩ | ⟨hreach, rfl⟩⟩
  · refine iff_of_true (fun hex => ?_) fun ho => absurd ho hno
    obtain ⟨stream, hmem⟩ := hex
    cases hmem
  · have hopened : ∃ stream, .opened stream ∈ base ++ closing env := by
      cases hbegun with
      | written stream request => exact ⟨stream, List.mem_cons_self⟩
      | read stream request => exact ⟨stream, List.mem_cons_self⟩
    constructor
    · intro hclosed _
      exact ⟨(hbegun.closed_iff env).1 (hclosed hopened), hreach⟩
    · intro hcond _
      exact (hbegun.closed_iff env).2 (hcond ho).1
  · have hopened : ∃ stream, .opened stream ∈ ops := by
      cases hbegun with
      | written stream request => exact ⟨stream, List.mem_cons_self⟩
      | read stream request => exact ⟨stream, List.mem_cons_self⟩
    refine iff_of_false (fun hclosed => hbegun.not_closed (hclosed hopened)) fun hcond => ?_
    exact hreach (hcond ho).2

section Sending

variable {client : InterfacesClientImpl} {env : StreamEnv}

/-- The first part of a typed call that is not given a stream. -/
theorem sending_of_not_opens (h : opens client env ≠ .ok true) (command : Command R M)
    (bytes : Bytes) : sending command bytes client env = [] := by
  have htransmitting : ∀ request, transmitting client request env = [] := by
    intro request
    unfold transmitting
    split
    · rename_i ho
      exact absurd ho h
    · rfl
  rw [sending, opening_of_not_opens h, htransmitting, List.append_nil]

/-- The first part of a typed call that is: it closes the stream if the write is
refused. -/
theorem sending_of_opens (h : opens client env = .ok true) (command : Command R M)
    (bytes : Bytes) :
    ∃ base, Begun base ∧
      ((env.write = .ok false ∧ sending command bytes client env = base ++ closing env) ∨
        (env.write ≠ .ok false ∧ sending command bytes client env = base)) := by
  obtain ⟨stream, ho⟩ := opening_of_opens h 10000
  let request := commandRequest command.commandId command.key bytes
  rcases hw : env.write with e | _ | _
  · refine ⟨_, .written stream request, Or.inr ⟨(by intro h; cases h), ?_⟩⟩
    simp [sending, ho, transmitting, h, hw, request]
  · refine ⟨_, .written stream request, Or.inl ⟨rfl, ?_⟩⟩
    simp [sending, ho, transmitting, h, hw, request]
  · refine ⟨_, .read stream request, Or.inr ⟨(by intro h; cases h), ?_⟩⟩
    simp [sending, ho, transmitting, h, hw, request]

end Sending

section Way

variable {text : Text} {status : ResponseStatus} {command : Command R M}
  {client : InterfacesClientImpl} {env : CallEnv} {request : R} {report : Report M}

/-- A call that is not given a response. -/
theorem beginsStream_of_no_response {bytes : Bytes}
    (hs : command.request.serialize request = some bytes)
    (hno : ∀ sendResp, ¬ Delivers client env.toStreamEnv sendResp) :
    BeginsStream ((command.request.serialize request).isSome = true ∧
        opens client env.toStreamEnv = .ok true)
      (text.ReachesClosing command.response client env) env.toStreamEnv
      (sending command bytes client env.toStreamEnv) := by
  by_cases ho : opens client env.toStreamEnv = .ok true
  · obtain ⟨base, hbegun, ⟨hw, hops⟩ | ⟨hw, hops⟩⟩ := sending_of_opens ho command bytes
    · exact Or.inr ⟨⟨by rw [hs]; rfl, ho⟩, base, hbegun, Or.inl ⟨Or.inl hw, hops⟩⟩
    · refine Or.inr ⟨⟨by rw [hs]; rfl, ho⟩, base, hbegun, Or.inr ⟨?_, hops⟩⟩
      rintro (hw' | ⟨sendResp, code, hd, -⟩)
      · exact hw hw'
      · exact hno sendResp hd
  · exact Or.inl ⟨fun h => ho h.2, sending_of_not_opens ho command bytes⟩

/-- What decides whether a text gets to closing, once it is given a response. -/
theorem reachesClosing_iff {t : MessageType M} {sendResp : SendResponse}
    (hd : Delivers client env.toStreamEnv sendResp) :
    text.ReachesClosing t client env ↔
      ∃ code, codeOf env sendResp = .ok code ∧ env.lookup = .ok () ∧
        match sendResp.output.find "data" with
        | none => text = .unchecked
        | some data => (t.decode data.bytevalue).isSome = true := by
  constructor
  · rintro (hw | ⟨sendResp', code, hd', hc, hreach⟩)
    · cases hd.write.symm.trans hw
    · obtain rfl : sendResp = sendResp' := hd.eq hd'
      exact ⟨code, codeOf_ok_iff.2 hc, hreach⟩
  · rintro ⟨code, hc, hreach⟩
    exact Or.inr ⟨sendResp, code, hd, codeOf_ok_iff.1 hc, hreach⟩

/-- A text that answers a response closes the stream if it gets to it, and else leaves
it. -/
theorem Text.Answers.ops_cases {t : MessageType M} {sendResp : SendResponse}
    (h : Text.Answers text status t env sendResp report)
    (hd : Delivers client env.toStreamEnv sendResp) :
    (text.ReachesClosing t client env ∧ report.ops = closing env.toStreamEnv) ∨
      (¬ text.ReachesClosing t client env ∧ report.ops = []) := by
  rw [reachesClosing_iff hd]
  cases h with
  | noCode hc =>
      refine Or.inr ⟨?_, rfl⟩
      rintro ⟨code, hc', -⟩
      cases hc.symm.trans hc'
  | interrupted hc hl =>
      refine Or.inr ⟨?_, rfl⟩
      rintro ⟨code, -, hl', -⟩
      cases hl.symm.trans hl'
  | noData hc hl hdata =>
      rw [hdata]
      cases text with
      | checked =>
          refine Or.inr ⟨?_, rfl⟩
          rintro ⟨code, -, -, h⟩
          cases h
      | unchecked => exact Or.inl ⟨⟨_, hc, hl, rfl⟩, rfl⟩
  | undecoded hc hl hdata hm =>
      rw [hdata]
      refine Or.inr ⟨?_, rfl⟩
      rintro ⟨code, -, -, h⟩
      simp [hm] at h
  | decoded hc hl hdata hm =>
      rw [hdata]
      exact Or.inl ⟨⟨_, hc, hl, by simp [hm]⟩, rfl⟩
  | unclosed hc hl hdata hm =>
      rw [hdata]
      exact Or.inl ⟨⟨_, hc, hl, by simp [hm]⟩, rfl⟩

/-- **What a typed call does to its stream.** -/
theorem Text.Way.beginsStream (h : Text.Way text status command client env request report) :
    BeginsStream ((command.request.serialize request).isSome = true ∧
        opens client env.toStreamEnv = .ok true)
      (text.ReachesClosing command.response client env) env.toStreamEnv report.ops := by
  cases h with
  | unserialized hs =>
      refine Or.inl ⟨fun h => ?_, rfl⟩
      rw [hs] at h
      cases h.1
  | @raised bytes hs e ht =>
      refine beginsStream_of_no_response hs fun sendResp hd => ?_
      cases ht.symm.trans (transmitted_some_iff.2 hd)
  | unanswered hs ht =>
      refine beginsStream_of_no_response hs fun sendResp hd => ?_
      cases ht.symm.trans (transmitted_some_iff.2 hd)
  | @answered bytes hs sendResp ht r ha =>
      have hd : Delivers client env.toStreamEnv sendResp := transmitted_some_iff.1 ht
      obtain ⟨base, hbegun, ⟨hw, -⟩ | ⟨-, hops⟩⟩ := sending_of_opens hd.opens command bytes
      · cases hd.write.symm.trans hw
      · refine Or.inr ⟨⟨by rw [hs]; rfl, hd.opens⟩, base, hbegun, ?_⟩
        rcases ha.ops_cases hd with ⟨hreach, hr⟩ | ⟨hreach, hr⟩
        · exact Or.inl ⟨hreach, by rw [Report.after, hops, hr]⟩
        · refine Or.inr ⟨hreach, ?_⟩
          rw [Report.after, hops, hr]
          exact List.append_nil base

end Way

/-- **When a control function closes its stream.**  Of a request that serializes and is
given a stream: exactly if `WritesDone` raises nothing, and either the write is refused,
or a response is read whose code is a number and whose data decodes, with nothing raised
before; without data, `EmergencyStop` leaves the stream and the other two close it. -/
theorem control_streamClosed_iff (f : ControlFunction) (status : ResponseStatus)
    (codes : ControlCommandCode) (client : InterfacesClientImpl) (env : CallEnv) (a : Messages)
    (response : a.M) :
    ((∃ stream, .opened stream ∈ (f.call status codes client env a response).2.ops) →
        StreamClosed (f.call status codes client env a response).2.ops) ↔
      (a.serialized.isSome = true ∧ opens client env.toStreamEnv = .ok true →
        env.writesDone = .ok () ∧ f.text.ReachesClosing a.responseType client env) := by
  have hbegins := (f.text.report_way status (f.command codes a) client env a.request).beginsStream
  rw [f.command_request, f.command_response, ← ControlFunction.report] at hbegins
  rw [(f.call_report status codes client env a response).ops, List.nil_append]
  exact hbegins.closed_iff

/-- A peer that closes the stream without an answer. -/
def answersNothing : CallEnv := { answersEmpty with read := .ok none }

/-- The stream of an emergency stop that is not answered stays open. -/
theorem control_streamClosed_noAnswer :
    (∃ stream, .opened stream ∈ (ControlFunction.call .emergencyStop Control.sampleStatus
      sampleCodes connectedClient answersNothing ⟨byteMessage, byteMessage, 7⟩
      (42 : UInt8)).2.ops) ∧
    ¬ StreamClosed (ControlFunction.call .emergencyStop Control.sampleStatus sampleCodes
      connectedClient answersNothing ⟨byteMessage, byteMessage, 7⟩ (42 : UInt8)).2.ops :=
  ⟨⟨_, List.mem_cons_self⟩, fun h => Nat.zero_ne_one h.finish⟩

/-! ### Navigation -/

/-- The operations on the stream return, whatever they return. -/
structure StreamEnv.Returns (env : StreamEnv) : Prop where
  write : ∃ written, env.write = .ok written
  read : ∃ sendResp, env.read = .ok sendResp
  writesDone : env.writesDone = .ok ()
  finish : ∃ finished, env.finish = .ok finished

/-- What `SendGrpcRequest` does to its stream if the operations return. -/
theorem navigation_sending_cases {env : StreamEnv} (h : env.Returns)
    (client : InterfacesClientImpl) (sendReq : SendRequest) :
    Navigation.sending client sendReq env = [] ∨
      ∃ stream, Navigation.sending client sendReq env =
          [.opened stream, .write sendReq, .writesDone, .finish] ∨
        Navigation.sending client sendReq env =
          [.opened stream, .write sendReq, .read, .writesDone, .finish] := by
  have hclosing : closing env = [.writesDone, .finish] := by simp [closing, h.writesDone]
  by_cases ho : opens client env = .ok true
  · obtain ⟨stream, hopening⟩ := opening_of_opens ho 30000
    obtain ⟨written, hw⟩ := h.write
    obtain ⟨sendResp, hr⟩ := h.read
    refine Or.inr ⟨stream, ?_⟩
    cases written with
    | false =>
        refine Or.inl ?_
        simp [Navigation.sending, hopening, exchanging, ho, hw, hclosing]
    | true =>
        refine Or.inr ?_
        simp [Navigation.sending, hopening, exchanging, ho, hw, hr, hclosing]
  · refine Or.inl ?_
    have hexchanging : exchanging client sendReq env = [] := by
      unfold exchanging
      split
      · rename_i ho'
        exact absurd ho' ho
      · rfl
    rw [Navigation.sending, opening_of_not_opens ho, hexchanging, List.append_nil]

/-- **What a navigation request does to its stream.**  If the operations on it return,
there is none, or it is written to once, read from at most once, half-closed and
finished.  Unless the write and the read both succeeded, the call returns
`ERROR_DATA_GET_FAILED` and leaves the result as it was. -/
theorem navigation_streamTraces (status : ResStatus) (commandId : ℤ) (rt : MessageType R)
    (t : MessageType M) (client : InterfacesClientImpl) (env : CallEnv) (requestData : R)
    (result : M) (h : env.toStreamEnv.Returns) :
    let out := navigationRequestTemplate status commandId rt t client env requestData result
    let sendReq := buildSendRequest commandId rt requestData
    (out.2.ops = [] ∨ ∃ stream,
      out.2.ops = [.opened stream, .write sendReq, .writesDone, .finish] ∨
        out.2.ops = [.opened stream, .write sendReq, .read, .writesDone, .finish]) ∧
    ((∀ sendResp, ¬ (env.write = .ok true ∧ env.read = .ok (some sendResp))) →
      out.1 = .ok status.errorDataGetFailed ∧ out.2.result = result) := by
  intro out sendReq
  constructor
  · have hway := Navigation.report_way status commandId rt t client env requestData
    have hops : out.2.ops = Navigation.sending client sendReq env.toStreamEnv := by
      rw [(template_report status commandId rt t client env requestData result).ops,
        List.nil_append, hway.ops]
    rw [hops]
    exact navigation_sending_cases h client sendReq
  · intro hno
    refine template_of_no_code status commandId rt t client env requestData result ?_
    exact fun sendResp _ hd => absurd ⟨hd.write, hd.read⟩ (hno sendResp)

/-- A request that is answered is written once, and its answer read once. -/
theorem navigation_streamTraces_answered :
    ∃ stream, (navigationRequestTemplate Navigation.sampleStatus 201 byteMessage byteMessage
      connectedClient answersEmpty 7 42).2.ops =
        [.opened stream, .write (buildSendRequest 201 byteMessage 7), .read, .writesDone,
          .finish] := by
  rcases (navigation_streamTraces Navigation.sampleStatus 201 byteMessage byteMessage
    connectedClient answersEmpty 7 42 ⟨⟨_, rfl⟩, ⟨_, rfl⟩, rfl, ⟨_, rfl⟩⟩).1 with
    hnone | ⟨stream, hrefused | hanswered⟩
  · exact absurd hnone nofun
  · have hlength : 5 = 4 := congrArg List.length hrefused
    exact absurd hlength (by decide)
  · exact ⟨stream, hanswered⟩

end Modules
end ClientSdk
