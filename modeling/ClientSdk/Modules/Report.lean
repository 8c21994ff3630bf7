/-
# What a typed call comes to

The functions of `source/robot/modules/` step through a stream with early
returns and handlers.  What they come to is less: a status, the operations on the
stream, and at most one new value of the output argument, all three decided by
the request and by what the exchange met.  The output argument a call is given
plays no part in them.

`Report` is that account, `reportChecked` and `reportUnchecked` give it for the
two texts of a typed call, and `callChecked_report` and `callUnchecked_report` say
that the texts come to it.
-/

import ClientSdk.Modules.Call

namespace ClientSdk
namespace Modules

open Common Lib Client

variable {R M : Type}

variable {client : InterfacesClientImpl} {x : Exchange M}

/-! ### Reports -/

/-- What a call comes to: the status it returns, the operations on the stream, and
the value it puts into the output argument, if it touches it. -/
structure Report (M : Type) where
  status : ℤ
  ops : List StreamOp := []
  update : Option M := none

/-- The operations `ops` come first. -/
def Report.after (ops : List StreamOp) (r : Report M) : Report M := { r with ops := ops ++ r.ops }

/-- A call begun with the exchange `x` comes to `r`. -/
structure Report.Describes (r : Report M) (x : Exchange M) (out : Outcome M) : Prop where
  status : out.1 = .ok r.status
  ops : out.2.ops = x.ops ++ r.ops
  result : out.2.result = r.update.getD x.result

theorem Report.Describes.after {r : Report M} {ops : List StreamOp} {out : Outcome M}
    (h : r.Describes (x.log ops) out) : (r.after ops).Describes x out where
  status := h.status
  ops := by
    rw [h.ops]
    exact List.append_assoc x.ops ops r.ops
  result := h.result

/-! ### The two texts -/

/-- The two texts of a typed call. -/
inductive Text where
  | checked
  | unchecked
deriving DecidableEq, Repr

/-- The status an exception leads to, from the one there was. -/
def Text.raised (text : Text) (status : ResponseStatus) (resStatus : ℤ) : ℤ :=
  match text with
  | .checked => status.errorUnknownService
  | .unchecked => resStatus

/-- The code of a response, and what is raised on the way to it. -/
def codeOf (env : CallEnv) (sendResp : SendResponse) : Except StdException ℤ := do
  env.readCode
  stoi sendResp.ret.code

theorem codeOf_ok_iff {env : CallEnv} {sendResp : SendResponse} {code : ℤ} :
    codeOf env sendResp = .ok code ↔ ReadsCode env sendResp code := by
  unfold codeOf ReadsCode
  cases env.readCode <;> simp

/-- What a text makes of a response. -/
def Text.answer (text : Text) (status : ResponseStatus) (t : MessageType M) (env : CallEnv)
    (sendResp : SendResponse) : Report M :=
  match codeOf env sendResp with
  | .error _ => { status := text.raised status status.errorDataGetFailed }
  | .ok code =>
      match env.lookup with
      | .error _ => { status := text.raised status code }
      | .ok () =>
          match sendResp.output.find "data" with
          | none =>
              match text with
              | .checked => { status := code }
              | .unchecked => { status := code, ops := closing env.toStreamEnv }
          | some data =>
              match t.decode data.bytevalue with
              | none =>
                  { status := status.errorParseFailed
                    update := some (t.leftover data.bytevalue) }
              | some m =>
                  { status := match closes env.toStreamEnv with
                      | .ok () => code
                      | .error _ => text.raised status code
                    ops := closing env.toStreamEnv
                    update := some m }

/-- The operations of the first part of a typed call. -/
def sending (command : Command R M) (bytes : Bytes) (client : InterfacesClientImpl)
    (env : StreamEnv) : List StreamOp :=
  opening client 10000 env ++
    transmitting client (commandRequest command.commandId command.key bytes) env

/-- What a typed call comes to. -/
def Text.report (text : Text) (status : ResponseStatus) (command : Command R M)
    (client : InterfacesClientImpl) (env : CallEnv) (request : R) : Report M :=
  match command.request.serialize request with
  | none => { status := status.errorParseFailed }
  | some bytes =>
      let sent := sending command bytes client env.toStreamEnv
      match transmitted client env.toStreamEnv with
      | .error _ => { status := text.raised status status.errorDataGetFailed, ops := sent }
      | .ok none => { status := status.errorDataGetFailed, ops := sent }
      | .ok (some sendResp) => (text.answer status command.response env sendResp).after sent

/-- A typed call in one of the two texts. -/
def Text.call (text : Text) (status : ResponseStatus) (command : Command R M)
    (client : InterfacesClientImpl) (env : CallEnv) (request : R) (response : M) : Outcome M :=
  match text with
  | .checked => callChecked status command client env request response
  | .unchecked => callUnchecked status command client env request response

section Answer

variable {status : ResponseStatus} {t : MessageType M} {env : CallEnv} {sendResp : SendResponse}

theorem endUnchecked_answer (status : ResponseStatus) (t : MessageType M) (env : CallEnv)
    (sendResp : SendResponse) (hx : x.resStatus = status.errorDataGetFailed) :
    (Text.unchecked.answer status t env sendResp).Describes x
      (endUnchecked status t env sendResp x) := by
  rcases hr : env.readCode with e | u
  · constructor <;>
      simp [Text.answer, codeOf, Text.raised, endUnchecked, answerUnchecked, returnStatus, hr, hx]
  rcases hs : stoi sendResp.ret.code with e | code
  · constructor <;>
      simp [Text.answer, codeOf, Text.raised, endUnchecked, answerUnchecked, returnStatus, hr, hs,
        hx]
  rcases hl : env.lookup with e | u
  · constructor <;>
      simp [Text.answer, codeOf, Text.raised, endUnchecked, answerUnchecked, returnStatus, hr, hs,
        hl]
  rcases hd : sendResp.output.find "data" with _ | data
  · rcases hc : closes env.toStreamEnv with e | u <;> constructor <;>
      simp [Text.answer, codeOf, endUnchecked, answerUnchecked, returnStatus, hr, hs, hl, hd,
        closeStream_eq, hc]
  rcases hm : t.decode data.bytevalue with _ | m
  · constructor <;>
      simp [Text.answer, codeOf, endUnchecked, answerUnchecked, hr, hs, hl, hd, hm, parseResult,
        MessageType.parseFromString_of_none hm]
  · rcases hc : closes env.toStreamEnv with e | u <;> constructor <;>
      simp [Text.answer, codeOf, Text.raised, endUnchecked, answerUnchecked, returnStatus, hr, hs,
        hl, hd, hm, parseResult, MessageType.parseFromString_of_decode hm, closeStream_eq, hc]

theorem endChecked_answer (status : ResponseStatus) (t : MessageType M) (env : CallEnv)
    (sendResp : SendResponse) (x : Exchange M) :
    (Text.checked.answer status t env sendResp).Describes x
      (endChecked status t env sendResp x) := by
  rcases hr : env.readCode with e | u
  · constructor <;>
      simp [Text.answer, codeOf, Text.raised, endChecked, answerChecked, returnStatus, hr]
  rcases hs : stoi sendResp.ret.code with e | code
  · -- A code that is no number returns at once, one out of range raises.
    cases hi : e.isInvalidArgument <;> constructor <;>
      simp [Text.answer, codeOf, Text.raised, endChecked, answerChecked, returnStatus, hr, hs, hi]
  rcases hl : env.lookup with e | u
  · constructor <;>
      simp [Text.answer, codeOf, Text.raised, endChecked, answerChecked, returnStatus, hr, hs, hl]
  rcases hd : sendResp.output.find "data" with _ | data
  · constructor <;>
      simp [Text.answer, codeOf, endChecked, answerChecked, returnStatus, hr, hs, hl, hd]
  rcases hm : t.decode data.bytevalue with _ | m
  · constructor <;>
      simp [Text.answer, codeOf, endChecked, answerChecked, hr, hs, hl, hd, hm, parseResult,
        MessageType.parseFromString_of_none hm]
  · rcases hc : closes env.toStreamEnv with e | u <;> constructor <;>
      simp [Text.answer, codeOf, Text.raised, endChecked, answerChecked, returnStatus, hr, hs, hl,
        hd, hm, parseResult, MessageType.parseFromString_of_decode hm, closeStream_eq, hc]

end Answer

/-- **What a typed call comes to.**  The status, the operations and the new output
are decided by the request and by what the exchange meets. -/
theorem Text.call_report (text : Text) (status : ResponseStatus) (command : Command R M)
    (client : InterfacesClientImpl) (env : CallEnv) (request : R) (response : M) :
    (text.report status command client env request).Describes
      { resStatus := status.errorDataGetFailed, result := response }
      (text.call status command client env request response) := by
  rcases hs : command.request.serialize request with _ | bytes
  · cases text <;> constructor <;>
      simp [Text.report, Text.call, callChecked, callUnchecked, hs, typedCall_of_not_serialized hs]
  rcases ht : transmitted client env.toStreamEnv with e | _ | sendResp
  · cases text <;> constructor <;>
      simp [Text.report, Text.call, Text.raised, callChecked, callUnchecked, typedCall, hs, ht,
        transmit_eq, returnStatus, sending]
  · cases text <;> constructor <;>
      simp [Text.report, Text.call, callChecked, callUnchecked, typedCall, hs, ht, transmit_eq,
        returnStatus, sending]
  · -- A response was read: the text answers it on the exchange so far.
    let x : Exchange M := { resStatus := status.errorDataGetFailed, result := response }
    have hreport : text.report status command client env request =
        (text.answer status command.response env sendResp).after
          (sending command bytes client env.toStreamEnv) := by
      simp [Text.report, hs, ht]
    rw [hreport]
    cases text with
    | checked =>
        have hout : (Text.checked).call status command client env request response =
            endChecked status command.response env sendResp
              (x.log (sending command bytes client env.toStreamEnv)) := by
          simp [Text.call, callChecked, typedCall, endChecked, hs, ht, transmit_eq, sending, x]
        rw [hout]
        exact (endChecked_answer status command.response env sendResp _).after
    | unchecked =>
        have hout : (Text.unchecked).call status command client env request response =
            endUnchecked status command.response env sendResp
              (x.log (sending command bytes client env.toStreamEnv)) := by
          simp [Text.call, callUnchecked, typedCall, endUnchecked, hs, ht, transmit_eq, sending, x]
        rw [hout]
        exact (endUnchecked_answer status command.response env sendResp rfl).after

/-! ### The ways a typed call goes -/

section Ways

variable {text : Text} {status : ResponseStatus} {command : Command R M} {env : CallEnv}
  {request : R} {bytes : Bytes} {sendResp : SendResponse} {t : MessageType M} {code : ℤ}

theorem Text.report_of_not_serialized (hs : command.request.serialize request = none) :
    text.report status command client env request = { status := status.errorParseFailed } := by
  simp [Text.report, hs]

theorem Text.report_of_raised (hs : command.request.serialize request = some bytes)
    {e : StdException} (ht : transmitted client env.toStreamEnv = .error e) :
    text.report status command client env request =
      { status := text.raised status status.errorDataGetFailed
        ops := sending command bytes client env.toStreamEnv } := by
  simp [Text.report, hs, ht]

theorem Text.report_of_no_response (hs : command.request.serialize request = some bytes)
    (ht : transmitted client env.toStreamEnv = .ok none) :
    text.report status command client env request =
      { status := status.errorDataGetFailed
        ops := sending command bytes client env.toStreamEnv } := by
  simp [Text.report, hs, ht]

theorem Text.report_of_response (hs : command.request.serialize request = some bytes)
    (ht : transmitted client env.toStreamEnv = .ok (some sendResp)) :
    text.report status command client env request =
      (text.answer status command.response env sendResp).after
        (sending command bytes client env.toStreamEnv) := by
  simp [Text.report, hs, ht]

theorem Text.answer_of_no_code {e : StdException} (hc : codeOf env sendResp = .error e) :
    text.answer status t env sendResp =
      { status := text.raised status status.errorDataGetFailed } := by
  simp [Text.answer, hc]

theorem Text.answer_of_interrupted (hc : codeOf env sendResp = .ok code) {e : StdException}
    (hl : env.lookup = .error e) :
    text.answer status t env sendResp = { status := text.raised status code } := by
  simp [Text.answer, hc, hl]

theorem Text.answer_of_no_data (hc : codeOf env sendResp = .ok code) (hl : env.lookup = .ok ())
    (hd : sendResp.output.find "data" = none) :
    text.answer status t env sendResp =
      { status := code
        ops := if text = .unchecked then closing env.toStreamEnv else [] } := by
  cases text <;> simp [Text.answer, hc, hl, hd]

theorem Text.answer_of_undecoded (hc : codeOf env sendResp = .ok code)
    (hl : env.lookup = .ok ()) {data : Variant} (hd : sendResp.output.find "data" = some data)
    (hm : t.decode data.bytevalue = none) :
    text.answer status t env sendResp =
      { status := status.errorParseFailed
        update := some (t.leftover data.bytevalue) } := by
  simp [Text.answer, hc, hl, hd, hm]

theorem Text.answer_of_decoded (hc : codeOf env sendResp = .ok code) (hl : env.lookup = .ok ())
    {data : Variant} (hd : sendResp.output.find "data" = some data) {m : M}
    (hm : t.decode data.bytevalue = some m) {u : Unit} (hclose : closes env.toStreamEnv = .ok u) :
    text.answer status t env sendResp =
      { status := code
        ops := closing env.toStreamEnv
        update := some m } := by
  simp [Text.answer, hc, hl, hd, hm, hclose]

theorem Text.answer_of_unclosed (hc : codeOf env sendResp = .ok code) (hl : env.lookup = .ok ())
    {data : Variant} (hd : sendResp.output.find "data" = some data) {m : M}
    (hm : t.decode data.bytevalue = some m) {e : StdException}
    (hclose : closes env.toStreamEnv = .error e) :
    text.answer status t env sendResp =
      { status := text.raised status code
        ops := closing env.toStreamEnv
        update := some m } := by
  simp [Text.answer, hc, hl, hd, hm, hclose]

end Ways

/-- The ways a text answers a response, with what each of them comes to. -/
inductive Text.Answers (text : Text) (status : ResponseStatus) (t : MessageType M)
    (env : CallEnv) (sendResp : SendResponse) : Report M → Prop where
  | noCode {e : StdException} (hc : codeOf env sendResp = .error e) :
      Text.Answers text status t env sendResp
        { status := text.raised status status.errorDataGetFailed }
  | interrupted {code : ℤ} (hc : codeOf env sendResp = .ok code) {e : StdException}
      (hl : env.lookup = .error e) :
      Text.Answers text status t env sendResp { status := text.raised status code }
  | noData {code : ℤ} (hc : codeOf env sendResp = .ok code) (hl : env.lookup = .ok ())
      (hd : sendResp.output.find "data" = none) :
      Text.Answers text status t env sendResp
        { status := code
          ops := if text = .unchecked then closing env.toStreamEnv else [] }
  | undecoded {code : ℤ} (hc : codeOf env sendResp = .ok code) (hl : env.lookup = .ok ())
      {data : Variant} (hd : sendResp.output.find "data" = some data)
      (hm : t.decode data.bytevalue = none) :
      Text.Answers text status t env sendResp
        { status := status.errorParseFailed
          update := some (t.leftover data.bytevalue) }
  | decoded {code : ℤ} (hc : codeOf env sendResp = .ok code) (hl : env.lookup = .ok ())
      {data : Variant} (hd : sendResp.output.find "data" = some data) {m : M}
      (hm : t.decode data.bytevalue = some m) {u : Unit}
      (hclose : closes env.toStreamEnv = .ok u) :
      Text.Answers text status t env sendResp
        { status := code
          ops := closing env.toStreamEnv
          update := some m }
  | unclosed {code : ℤ} (hc : codeOf env sendResp = .ok code) (hl : env.lookup = .ok ())
      {data : Variant} (hd : sendResp.output.find "data" = some data) {m : M}
      (hm : t.decode data.bytevalue = some m) {e : StdException}
      (hclose : closes env.toStreamEnv = .error e) :
      Text.Answers text status t env sendResp
        { status := text.raised status code
          ops := closing env.toStreamEnv
          update := some m }

theorem Text.answer_answers (text : Text) (status : ResponseStatus) (t : MessageType M)
    (env : CallEnv) (sendResp : SendResponse) :
    Text.Answers text status t env sendResp (text.answer status t env sendResp) := by
  rcases hc : codeOf env sendResp with e | code
  · rw [Text.answer_of_no_code hc]
    exact .noCode hc
  rcases hl : env.lookup with e | u
  · rw [Text.answer_of_interrupted hc hl]
    exact .interrupted hc hl
  rcases hd : sendResp.output.find "data" with _ | data
  · rw [Text.answer_of_no_data hc hl hd]
    exact .noData hc hl hd
  rcases hm : t.decode data.bytevalue with _ | m
  · rw [Text.answer_of_undecoded hc hl hd hm]
    exact .undecoded hc hl hd hm
  rcases hclose : closes env.toStreamEnv with e | u
  · rw [Text.answer_of_unclosed hc hl hd hm hclose]
    exact .unclosed hc hl hd hm hclose
  · rw [Text.answer_of_decoded hc hl hd hm hclose]
    exact .decoded hc hl hd hm hclose

/-- The ways a typed call goes, with what each of them comes to. -/
inductive Text.Way (text : Text) (status : ResponseStatus) (command : Command R M)
    (client : InterfacesClientImpl) (env : CallEnv) (request : R) : Report M → Prop where
  | unserialized (hs : command.request.serialize request = none) :
      Text.Way text status command client env request { status := status.errorParseFailed }
  | raised {bytes : Bytes} (hs : command.request.serialize request = some bytes)
      {e : StdException} (ht : transmitted client env.toStreamEnv = .error e) :
      Text.Way text status command client env request
        { status := text.raised status status.errorDataGetFailed
          ops := sending command bytes client env.toStreamEnv }
  | unanswered {bytes : Bytes} (hs : command.request.serialize request = some bytes)
      (ht : transmitted client env.toStreamEnv = .ok none) :
      Text.Way text status command client env request
        { status := status.errorDataGetFailed
          ops := sending command bytes client env.toStreamEnv }
  | answered {bytes : Bytes} (hs : command.request.serialize request = some bytes)
      {sendResp : SendResponse} (ht : transmitted client env.toStreamEnv = .ok (some sendResp))
      {r : Report M} (ha : Text.Answers text status command.response env sendResp r) :
      Text.Way text status command client env request
        (r.after (sending command bytes client env.toStreamEnv))

theorem Text.report_way (text : Text) (status : ResponseStatus) (command : Command R M)
    (client : InterfacesClientImpl) (env : CallEnv) (request : R) :
    Text.Way text status command client env request
      (text.report status command client env request) := by
  rcases hs : command.request.serialize request with _ | bytes
  · rw [Text.report_of_not_serialized hs]
    exact .unserialized hs
  rcases ht : transmitted client env.toStreamEnv with e | _ | sendResp
  · rw [Text.report_of_raised hs ht]
    exact .raised hs ht
  · rw [Text.report_of_no_response hs ht]
    exact .unanswered hs ht
  · rw [Text.report_of_response hs ht]
    exact .answered hs ht (text.answer_answers status command.response env sendResp)

end Modules
end ClientSdk
