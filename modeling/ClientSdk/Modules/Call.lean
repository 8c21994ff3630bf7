/-
# Typed calls

The functions of `source/robot/modules/control_api.cpp` and `perception_api.cpp`
are copies of two texts, with a message type, a command code and a key each.

Both set the status they will return to the code of the response before they
look at its output.  The checked text (`EmergencyStop`, `Detection`) turns a code
that is no number and every exception into `ERROR_UNKNOWN_SERVICE`, and returns
the status early if the output has no `data`; the unchecked text (the others)
goes on without `data`, and returns the status it has on an exception.

A success is sound if it comes from a response that says so and carries the
message now in the output argument (`SuccessSound`).  Each text has its own
condition for that (`CarriesData`, `DeliversData`).
-/

import ClientSdk.Modules.Exchange

namespace ClientSdk
namespace Modules

open Common Lib Client

/-- The values of a `ResponseStatus` the functions compare and return. -/
structure ResponseStatus where
  success : ℤ
  errorDataGetFailed : ℤ
  errorParseFailed : ℤ
  errorUnknownService : ℤ
  success_ne_dataGetFailed : success ≠ errorDataGetFailed
  success_ne_parseFailed : success ≠ errorParseFailed
  success_ne_unknownService : success ≠ errorUnknownService

/-- What a function is written for: its command code, the key of its request, and
the types of its messages. -/
structure Command (R M : Type) where
  commandId : ℤ
  key : String
  request : MessageType R
  response : MessageType M

variable {R M : Type}

/-- The checked text from the response on: an early return without data. -/
def answerChecked (status : ResponseStatus) (t : MessageType M) (env : CallEnv)
    (sendResp : SendResponse) : Statement M ℤ Unit := do
  Body.lift env.readCode
  Body.tryCatch
    (do
      let code ← Body.lift (stoi sendResp.ret.code)
      Body.modify (·.setResStatus code))
    (fun e => if e.isInvalidArgument then Body.ret status.errorUnknownService else Body.throw e)
  Body.lift env.lookup
  match sendResp.output.find "data" with
  | none => returnStatus
  | some data =>
      if ← parseResult t data.bytevalue then closeStream env.toStreamEnv
      else Body.ret status.errorParseFailed

/-- The unchecked text from the response on: without data it goes on. -/
def answerUnchecked (status : ResponseStatus) (t : MessageType M) (env : CallEnv)
    (sendResp : SendResponse) : Statement M ℤ Unit := do
  Body.lift env.readCode
  let code ← Body.lift (stoi sendResp.ret.code)
  Body.modify (·.setResStatus code)
  Body.lift env.lookup
  match sendResp.output.find "data" with
  | none => closeStream env.toStreamEnv
  | some data =>
      if ← parseResult t data.bytevalue then closeStream env.toStreamEnv
      else Body.ret status.errorParseFailed

/-- A typed call, from the text that answers and the handler of its exceptions. -/
def typedCall (status : ResponseStatus) (command : Command R M) (client : InterfacesClientImpl)
    (env : CallEnv) (answer : SendResponse → Statement M ℤ Unit)
    (handler : StdException → Statement M ℤ Unit) (request : R) (response : M) : Outcome M :=
  Body.call (do
    Body.tryCatch
      (do
        match command.request.serialize request with
        | none => Body.ret status.errorParseFailed
        | some bytes =>
          let sendResp ← transmit client 10000
            (commandRequest command.commandId command.key bytes) env.toStreamEnv
          answer sendResp)
      handler
    returnStatus)
    { resStatus := status.errorDataGetFailed, result := response }

/-- The checked text: an exception becomes `ERROR_UNKNOWN_SERVICE`. -/
def callChecked (status : ResponseStatus) (command : Command R M) (client : InterfacesClientImpl)
    (env : CallEnv) (request : R) (response : M) : Outcome M :=
  typedCall status command client env (answerChecked status command.response env)
    (fun _ => Body.modify (·.setResStatus status.errorUnknownService)) request response

/-- The unchecked text: an exception leaves the status as it is. -/
def callUnchecked (status : ResponseStatus) (command : Command R M)
    (client : InterfacesClientImpl) (env : CallEnv) (request : R) (response : M) : Outcome M :=
  typedCall status command client env (answerUnchecked status command.response env)
    (fun _ => pure ()) request response

/-! ### How a call ends -/

variable {status : ResponseStatus} {command : Command R M} {client : InterfacesClientImpl}
  {env : CallEnv} {request : R} {response : M} {sendResp : SendResponse} {x : Exchange M}
  {t : MessageType M}

/-- How a typed call ends that serialized its request: no response was delivered,
and it returns the status it started with or its handler takes over; or one was,
and its text answers. -/
theorem typedCall_cases {bytes : Bytes} (hs : command.request.serialize request = some bytes)
    (client : InterfacesClientImpl) (env : CallEnv) (answer : SendResponse → Statement M ℤ Unit)
    (handler : StdException → Statement M ℤ Unit) (response : M) :
    let x : Exchange M := { resStatus := status.errorDataGetFailed, result := response }
    let out := typedCall status command client env answer handler request response
    ((∀ sendResp, ¬ Delivers client env.toStreamEnv sendResp) ∧ ∃ ops,
      out = (.ok status.errorDataGetFailed, x.log ops) ∨
        ∃ e, out = Body.call (do handler e; returnStatus) (x.log ops)) ∨
    ∃ sendResp stream, Delivers client env.toStreamEnv sendResp ∧
      out = Body.call (do Body.tryCatch (answer sendResp) handler; returnStatus)
        (x.log [.opened stream, .write (commandRequest command.commandId command.key bytes),
          .read]) := by
  intro x out
  rcases transmit_cases client 10000 (commandRequest command.commandId command.key bytes)
    env.toStreamEnv x with ⟨sendResp, stream, hd, ht⟩ | ⟨hno, ops, ht | ⟨e, ht⟩⟩
  · refine Or.inr ⟨sendResp, stream, hd, ?_⟩
    simp [out, typedCall, hs, x, ht]
  · refine Or.inl ⟨hno, ops, Or.inl ?_⟩
    simp [out, typedCall, hs, x, ht]
  · refine Or.inl ⟨hno, ops, Or.inr ⟨e, ?_⟩⟩
    simp [out, typedCall, hs, x, ht]

/-- The code of the response is read as `code`. -/
def ReadsCode (env : CallEnv) (sendResp : SendResponse) (code : ℤ) : Prop :=
  env.readCode = .ok () ∧ stoi sendResp.ret.code = .ok code

theorem not_readsCode_of_readCode {e : StdException} (h : env.readCode = .error e) (code : ℤ) :
    ¬ ReadsCode env sendResp code := by
  rintro ⟨hr, -⟩
  rw [h] at hr
  cases hr

theorem not_readsCode_of_stoi {e : StdException} (h : stoi sendResp.ret.code = .error e)
    (code : ℤ) : ¬ ReadsCode env sendResp code := by
  rintro ⟨-, hs⟩
  rw [h] at hs
  cases hs

/-- The end of the unchecked text, from the response on. -/
def endUnchecked (status : ResponseStatus) (t : MessageType M) (env : CallEnv)
    (sendResp : SendResponse) (x : Exchange M) : Outcome M :=
  Body.call (do
    Body.tryCatch (answerUnchecked status t env sendResp) (fun _ => pure ())
    returnStatus) x

/-- The ends of the unchecked text. -/
inductive EndsUnchecked (status : ResponseStatus) (t : MessageType M) (env : CallEnv)
    (sendResp : SendResponse) (x : Exchange M) : Outcome M → Prop where
  | unread (h : ∀ code, ¬ ReadsCode env sendResp code) :
      EndsUnchecked status t env sendResp x (.ok x.resStatus, x)
  | interrupted {code : ℤ} (hc : ReadsCode env sendResp code) {e : StdException}
      (hl : env.lookup = .error e) :
      EndsUnchecked status t env sendResp x (.ok code, x.setResStatus code)
  | noData {code : ℤ} (hc : ReadsCode env sendResp code) (hl : env.lookup = .ok ())
      (hd : sendResp.output.find "data" = none) (ops : List StreamOp) :
      EndsUnchecked status t env sendResp x (.ok code, (x.setResStatus code).log ops)
  | undecoded {code : ℤ} (hc : ReadsCode env sendResp code) (hl : env.lookup = .ok ())
      {data : Variant} (hd : sendResp.output.find "data" = some data)
      (hm : t.decode data.bytevalue = none) :
      EndsUnchecked status t env sendResp x (.ok status.errorParseFailed,
        (x.setResStatus code).setResult (t.leftover data.bytevalue))
  | decoded {code : ℤ} (hc : ReadsCode env sendResp code) (hl : env.lookup = .ok ())
      {data : Variant} (hd : sendResp.output.find "data" = some data) {m : M}
      (hm : t.decode data.bytevalue = some m) (ops : List StreamOp) :
      EndsUnchecked status t env sendResp x
        (.ok code, ((x.setResStatus code).setResult m).log ops)

/-- **The unchecked text ends in one of these ways.** -/
theorem endUnchecked_ends (status : ResponseStatus) (t : MessageType M) (env : CallEnv)
    (sendResp : SendResponse) (x : Exchange M) :
    EndsUnchecked status t env sendResp x (endUnchecked status t env sendResp x) := by
  rcases hr : env.readCode with e | u
  · have hout : endUnchecked status t env sendResp x = (.ok x.resStatus, x) := by
      simp [endUnchecked, answerUnchecked, hr, returnStatus]
    rw [hout]
    exact .unread (not_readsCode_of_readCode hr)
  rcases hs : stoi sendResp.ret.code with e | code
  · have hout : endUnchecked status t env sendResp x = (.ok x.resStatus, x) := by
      simp [endUnchecked, answerUnchecked, hr, hs, returnStatus]
    rw [hout]
    exact .unread (not_readsCode_of_stoi hs)
  have hc : ReadsCode env sendResp code := ⟨hr, hs⟩
  rcases hl : env.lookup with e | u
  · have hout : endUnchecked status t env sendResp x = (.ok code, x.setResStatus code) := by
      simp [endUnchecked, answerUnchecked, hr, hs, hl, returnStatus]
    rw [hout]
    exact .interrupted hc hl
  rcases hd : sendResp.output.find "data" with _ | data
  · obtain ⟨ops, hclose | ⟨e, hclose⟩⟩ :=
      closeStream_cases ℤ env.toStreamEnv (x.setResStatus code)
    all_goals
      have hout : endUnchecked status t env sendResp x =
          (.ok code, (x.setResStatus code).log ops) := by
        simp [endUnchecked, answerUnchecked, hr, hs, hl, hd, returnStatus, hclose]
      rw [hout]
      exact .noData hc hl hd ops
  rcases hm : t.decode data.bytevalue with _ | m
  · have hout : endUnchecked status t env sendResp x = (.ok status.errorParseFailed,
        (x.setResStatus code).setResult (t.leftover data.bytevalue)) := by
      simp [endUnchecked, answerUnchecked, hr, hs, hl, hd, parseResult,
        MessageType.parseFromString_of_none hm]
    rw [hout]
    exact .undecoded hc hl hd hm
  · obtain ⟨ops, hclose | ⟨e, hclose⟩⟩ :=
      closeStream_cases ℤ env.toStreamEnv ((x.setResStatus code).setResult m)
    all_goals
      have hout : endUnchecked status t env sendResp x =
          (.ok code, ((x.setResStatus code).setResult m).log ops) := by
        simp [endUnchecked, answerUnchecked, hr, hs, hl, hd, parseResult,
          MessageType.parseFromString_of_decode hm, returnStatus, hclose]
      rw [hout]
      exact .decoded hc hl hd hm ops

/-- The end of the checked text, from the response on. -/
def endChecked (status : ResponseStatus) (t : MessageType M) (env : CallEnv)
    (sendResp : SendResponse) (x : Exchange M) : Outcome M :=
  Body.call (do
    Body.tryCatch (answerChecked status t env sendResp)
      (fun _ => Body.modify (·.setResStatus status.errorUnknownService))
    returnStatus) x

/-- The ends of the checked text. -/
inductive EndsChecked (status : ResponseStatus) (t : MessageType M) (env : CallEnv)
    (sendResp : SendResponse) (x : Exchange M) : Outcome M → Prop where
  | unread (h : ∀ code, ¬ ReadsCode env sendResp code) {y : Exchange M}
      (hy : y = x ∨ y = x.setResStatus status.errorUnknownService) :
      EndsChecked status t env sendResp x (.ok status.errorUnknownService, y)
  | interrupted {code : ℤ} (hc : ReadsCode env sendResp code) {e : StdException}
      (hl : env.lookup = .error e) :
      EndsChecked status t env sendResp x (.ok status.errorUnknownService,
        x.setResStatus status.errorUnknownService)
  | noData {code : ℤ} (hc : ReadsCode env sendResp code) (hl : env.lookup = .ok ())
      (hd : sendResp.output.find "data" = none) :
      EndsChecked status t env sendResp x (.ok code, x.setResStatus code)
  | undecoded {code : ℤ} (hc : ReadsCode env sendResp code) (hl : env.lookup = .ok ())
      {data : Variant} (hd : sendResp.output.find "data" = some data)
      (hm : t.decode data.bytevalue = none) :
      EndsChecked status t env sendResp x (.ok status.errorParseFailed,
        (x.setResStatus code).setResult (t.leftover data.bytevalue))
  | decoded {code : ℤ} (hc : ReadsCode env sendResp code) (hl : env.lookup = .ok ())
      {data : Variant} (hd : sendResp.output.find "data" = some data) {m : M}
      (hm : t.decode data.bytevalue = some m) (ops : List StreamOp) :
      EndsChecked status t env sendResp x
        (.ok code, ((x.setResStatus code).setResult m).log ops)
  | unclosed {code : ℤ} (hc : ReadsCode env sendResp code) (hl : env.lookup = .ok ())
      {data : Variant} (hd : sendResp.output.find "data" = some data) {m : M}
      (hm : t.decode data.bytevalue = some m) (ops : List StreamOp) :
      EndsChecked status t env sendResp x (.ok status.errorUnknownService,
        (((x.setResStatus code).setResult m).log ops).setResStatus status.errorUnknownService)

/-- **The checked text ends in one of these ways.** -/
theorem endChecked_ends (status : ResponseStatus) (t : MessageType M) (env : CallEnv)
    (sendResp : SendResponse) (x : Exchange M) :
    EndsChecked status t env sendResp x (endChecked status t env sendResp x) := by
  rcases hr : env.readCode with e | u
  · have hout : endChecked status t env sendResp x = (.ok status.errorUnknownService,
        x.setResStatus status.errorUnknownService) := by
      simp [endChecked, answerChecked, hr, returnStatus]
    rw [hout]
    exact .unread (not_readsCode_of_readCode hr) (Or.inr rfl)
  rcases hs : stoi sendResp.ret.code with e | code
  · have hno : ∀ code, ¬ ReadsCode env sendResp code := not_readsCode_of_stoi hs
    -- A code that is no number returns at once, one out of range raises.
    cases hi : e.isInvalidArgument with
    | true =>
        have hout : endChecked status t env sendResp x = (.ok status.errorUnknownService, x) := by
          simp [endChecked, answerChecked, hr, hs, hi]
        rw [hout]
        exact .unread hno (Or.inl rfl)
    | false =>
        have hout : endChecked status t env sendResp x = (.ok status.errorUnknownService,
            x.setResStatus status.errorUnknownService) := by
          simp [endChecked, answerChecked, hr, hs, hi, returnStatus]
        rw [hout]
        exact .unread hno (Or.inr rfl)
  have hc : ReadsCode env sendResp code := ⟨hr, hs⟩
  rcases hl : env.lookup with e | u
  · have hout : endChecked status t env sendResp x = (.ok status.errorUnknownService,
        x.setResStatus status.errorUnknownService) := by
      simp [endChecked, answerChecked, hr, hs, hl, returnStatus]
    rw [hout]
    exact .interrupted hc hl
  rcases hd : sendResp.output.find "data" with _ | data
  · have hout : endChecked status t env sendResp x = (.ok code, x.setResStatus code) := by
      simp [endChecked, answerChecked, hr, hs, hl, hd, returnStatus]
    rw [hout]
    exact .noData hc hl hd
  rcases hm : t.decode data.bytevalue with _ | m
  · have hout : endChecked status t env sendResp x = (.ok status.errorParseFailed,
        (x.setResStatus code).setResult (t.leftover data.bytevalue)) := by
      simp [endChecked, answerChecked, hr, hs, hl, hd, parseResult,
        MessageType.parseFromString_of_none hm]
    rw [hout]
    exact .undecoded hc hl hd hm
  · obtain ⟨ops, hclose | ⟨e, hclose⟩⟩ :=
      closeStream_cases ℤ env.toStreamEnv ((x.setResStatus code).setResult m)
    · have hout : endChecked status t env sendResp x =
          (.ok code, ((x.setResStatus code).setResult m).log ops) := by
        simp [endChecked, answerChecked, hr, hs, hl, hd, parseResult,
          MessageType.parseFromString_of_decode hm, returnStatus, hclose]
      rw [hout]
      exact .decoded hc hl hd hm ops
    · have hout : endChecked status t env sendResp x = (.ok status.errorUnknownService,
          (((x.setResStatus code).setResult m).log ops).setResStatus
            status.errorUnknownService) := by
        simp [endChecked, answerChecked, hr, hs, hl, hd, parseResult,
          MessageType.parseFromString_of_decode hm, returnStatus, hclose]
      rw [hout]
      exact .unclosed hc hl hd hm ops

/-! ### Sound successes -/

/-- If the call returns success, its request was written, a response was read
whose code says success, and the output argument is the message decoded from the
data of that response. -/
def SuccessSound (status : ResponseStatus) (command : Command R M) (env : CallEnv) (request : R)
    (out : Outcome M) : Prop :=
  out.1 = .ok status.success → ∃ bytes sendResp data,
    command.request.serialize request = some bytes ∧
    .write (commandRequest command.commandId command.key bytes) ∈ out.2.ops ∧
    env.write = .ok true ∧ .read ∈ out.2.ops ∧ env.read = .ok (some sendResp) ∧
    stoi sendResp.ret.code = .ok status.success ∧
    sendResp.output.find "data" = some data ∧
    command.response.decode data.bytevalue = some out.2.result

/-- The call is given a response whose code is read, and says success. -/
structure SaysSuccess (status : ResponseStatus) (command : Command R M)
    (client : InterfacesClientImpl) (env : CallEnv) (request : R) (sendResp : SendResponse) :
    Prop where
  serializes : (command.request.serialize request).isSome = true
  delivers : Delivers client env.toStreamEnv sendResp
  readCode : env.readCode = .ok ()
  code : stoi sendResp.ret.code = .ok status.success

/-- Whoever says success and is looked into sends data. -/
def CarriesData (status : ResponseStatus) (command : Command R M) (client : InterfacesClientImpl)
    (env : CallEnv) (request : R) : Prop :=
  ∀ sendResp, SaysSuccess status command client env request sendResp → env.lookup = .ok () →
    (sendResp.output.find "data").isSome = true

/-- Whoever says success sends data, and nothing is raised before it is decoded,
unless the output argument is the message already. -/
def DeliversData (status : ResponseStatus) (command : Command R M)
    (client : InterfacesClientImpl) (env : CallEnv) (request : R) (response : M) : Prop :=
  ∀ sendResp, SaysSuccess status command client env request sendResp → ∃ data,
    sendResp.output.find "data" = some data ∧
      (env.lookup = .ok () ∨ command.response.decode data.bytevalue = some response)

/-- The response delivered is the one read. -/
theorem Delivers.eq {env : StreamEnv} {r r' : SendResponse} (h : Delivers client env r)
    (h' : Delivers client env r') : r = r' := by
  have hread := h.read.symm.trans h'.read
  exact Option.some.inj (Except.ok.inj hread)

/-- A response is read with one code. -/
theorem ReadsCode.eq {code code' : ℤ} (h : ReadsCode env sendResp code)
    (h' : ReadsCode env sendResp code') : code = code' :=
  Except.ok.inj (h.2.symm.trans h'.2)

/-- A call that does not return success is sound. -/
theorem successSound_of_ne {out : Outcome M} (h : out.1 ≠ .ok status.success) :
    SuccessSound status command env request out := fun hok => absurd hok h

theorem ok_ne {a b : ℤ} (h : a ≠ b) : (Except.ok b : Except StdException ℤ) ≠ .ok a :=
  fun heq => h (Except.ok.inj heq).symm

section Delivered

variable {bytes : Bytes} (hs : command.request.serialize request = some bytes)
  (hd : Delivers client env.toStreamEnv sendResp)
include hs hd

/-- Of a call that was delivered a response, the one that can say success. -/
theorem saysSuccess_iff {r : SendResponse} :
    SaysSuccess status command client env request r ↔
      r = sendResp ∧ ReadsCode env sendResp status.success := by
  constructor
  · intro h
    obtain rfl := h.delivers.eq hd
    exact ⟨rfl, h.readCode, h.code⟩
  · rintro ⟨rfl, hr, hc⟩
    exact ⟨by rw [hs]; rfl, hd, hr, hc⟩

theorem carriesData_iff :
    CarriesData status command client env request ↔
      (ReadsCode env sendResp status.success → env.lookup = .ok () →
        (sendResp.output.find "data").isSome = true) := by
  unfold CarriesData
  simp only [saysSuccess_iff hs hd]
  exact ⟨fun h hc => h sendResp ⟨rfl, hc⟩, fun h r hr => by rw [hr.1]; exact h hr.2⟩

theorem deliversData_iff :
    DeliversData status command client env request response ↔
      (ReadsCode env sendResp status.success → ∃ data,
        sendResp.output.find "data" = some data ∧
          (env.lookup = .ok () ∨ command.response.decode data.bytevalue = some response)) := by
  unfold DeliversData
  simp only [saysSuccess_iff hs hd]
  exact ⟨fun h hc => h sendResp ⟨rfl, hc⟩, fun h r hr => by rw [hr.1]; exact h hr.2⟩

/-- With the request written and the response read, a sound success is about the
response alone. -/
theorem successSound_iff {out : Outcome M}
    (hw : .write (commandRequest command.commandId command.key bytes) ∈ out.2.ops)
    (hr : .read ∈ out.2.ops) :
    SuccessSound status command env request out ↔
      (out.1 = .ok status.success → stoi sendResp.ret.code = .ok status.success ∧
        ∃ data, sendResp.output.find "data" = some data ∧
          command.response.decode data.bytevalue = some out.2.result) := by
  constructor
  · intro h hok
    obtain ⟨bytes', r, data, -, -, -, -, hread, hcode, hdata, hm⟩ := h hok
    obtain rfl : r = sendResp := Option.some.inj (Except.ok.inj (hread.symm.trans hd.read))
    exact ⟨hcode, data, hdata, hm⟩
  · intro h hok
    obtain ⟨hcode, data, hdata, hm⟩ := h hok
    exact ⟨bytes, sendResp, data, hs, hw, hd.write, hr, hd.read, hcode, hdata, hm⟩

/-- A code returned without data is a sound success exactly if it is no success. -/
theorem successSound_noData_iff {y : Exchange M} {code : ℤ}
    (hdata : sendResp.output.find "data" = none)
    (hw : .write (commandRequest command.commandId command.key bytes) ∈ y.ops)
    (hr : .read ∈ y.ops) :
    SuccessSound status command env request (.ok code, y) ↔ code ≠ status.success := by
  rw [successSound_iff hs hd hw hr]
  constructor
  · rintro h rfl
    obtain ⟨-, data, hdata', -⟩ := h rfl
    cases hdata.symm.trans hdata'
  · intro hne hok
    exact absurd (Except.ok.inj hok) hne

/-- A code returned with the decoded message is a sound success if it is one. -/
theorem successSound_of_decoded {y : Exchange M} {code : ℤ}
    (hc : ReadsCode env sendResp code) {data : Variant}
    (hdata : sendResp.output.find "data" = some data)
    (hm : command.response.decode data.bytevalue = some y.result)
    (hw : .write (commandRequest command.commandId command.key bytes) ∈ y.ops)
    (hr : .read ∈ y.ops) : SuccessSound status command env request (.ok code, y) := by
  rw [successSound_iff hs hd hw hr]
  intro hok
  obtain rfl : code = status.success := Except.ok.inj hok
  exact ⟨hc.2, data, hdata, hm⟩

/-- The unchecked text, started with another status and the output argument
`response`. -/
theorem endUnchecked_successSound_iff (hx : status.success ≠ x.resStatus)
    (hw : .write (commandRequest command.commandId command.key bytes) ∈ x.ops)
    (hr : .read ∈ x.ops) :
    SuccessSound status command env request
        (endUnchecked status command.response env sendResp x) ↔
      DeliversData status command client env request x.result := by
  rw [deliversData_iff hs hd]
  have hends := endUnchecked_ends status command.response env sendResp x
  generalize endUnchecked status command.response env sendResp x = out at hends ⊢
  cases hends with
  | unread h =>
      exact iff_of_true (successSound_of_ne (ok_ne hx)) fun hc => absurd hc (h _)
  | @interrupted code hc e hl =>
      rw [successSound_iff hs hd hw hr]
      constructor
      · intro h hc'
        obtain rfl := hc.eq hc'
        obtain ⟨-, data, hdata, hm⟩ := h rfl
        exact ⟨data, hdata, Or.inr hm⟩
      · intro h hok
        obtain rfl : code = status.success := Except.ok.inj hok
        obtain ⟨data, hdata, hl' | hm⟩ := h hc
        · rw [hl] at hl'
          cases hl'
        · exact ⟨hc.2, data, hdata, hm⟩
  | @noData code hc hl hdata ops =>
      rw [successSound_noData_iff hs hd hdata (List.mem_append_left _ hw)
        (List.mem_append_left _ hr)]
      constructor
      · intro hne hc'
        exact absurd (hc.eq hc') hne
      · rintro h rfl
        obtain ⟨data, hdata', -⟩ := h hc
        cases hdata.symm.trans hdata'
  | undecoded hc hl hdata hm =>
      exact iff_of_true (successSound_of_ne (ok_ne status.success_ne_parseFailed))
        fun _ => ⟨_, hdata, Or.inl hl⟩
  | @decoded code hc hl data hdata m hm ops =>
      refine iff_of_true ?_ fun _ => ⟨data, hdata, Or.inl hl⟩
      exact successSound_of_decoded hs hd hc hdata hm (List.mem_append_left _ hw)
        (List.mem_append_left _ hr)

/-- The checked text, started with the output argument `response`. -/
theorem endChecked_successSound_iff
    (hw : .write (commandRequest command.commandId command.key bytes) ∈ x.ops)
    (hr : .read ∈ x.ops) :
    SuccessSound status command env request
        (endChecked status command.response env sendResp x) ↔
      CarriesData status command client env request := by
  rw [carriesData_iff hs hd]
  have hends := endChecked_ends status command.response env sendResp x
  generalize endChecked status command.response env sendResp x = out at hends ⊢
  cases hends with
  | unread h hy =>
      exact iff_of_true (successSound_of_ne (ok_ne status.success_ne_unknownService))
        fun hc => absurd hc (h _)
  | interrupted hc hl =>
      refine iff_of_true (successSound_of_ne (ok_ne status.success_ne_unknownService))
        fun _ hl' => ?_
      rw [hl] at hl'
      cases hl'
  | @noData code hc hl hdata =>
      rw [successSound_noData_iff (y := x.setResStatus code) hs hd hdata hw hr]
      constructor
      · intro hne hc'
        exact absurd (hc.eq hc') hne
      · rintro h rfl
        have hsome := h hc hl
        rw [hdata] at hsome
        cases hsome
  | undecoded hc hl hdata hm =>
      exact iff_of_true (successSound_of_ne (ok_ne status.success_ne_parseFailed))
        fun _ _ => by rw [hdata]; rfl
  | @decoded code hc hl data hdata m hm ops =>
      refine iff_of_true ?_ fun _ _ => by rw [hdata]; rfl
      exact successSound_of_decoded hs hd hc hdata hm (List.mem_append_left _ hw)
        (List.mem_append_left _ hr)
  | @unclosed code hc hl data hdata m hm ops =>
      exact iff_of_true (successSound_of_ne (ok_ne status.success_ne_unknownService))
        fun _ _ => by rw [hdata]; rfl

end Delivered

/-- A call whose request does not serialize. -/
theorem typedCall_of_not_serialized (hs : command.request.serialize request = none)
    (answer : SendResponse → Statement M ℤ Unit) (handler : StdException → Statement M ℤ Unit) :
    typedCall status command client env answer handler request response =
      (.ok status.errorParseFailed,
        { resStatus := status.errorDataGetFailed, result := response }) := by
  simp [typedCall, hs]

theorem not_saysSuccess_of_not_serialized (hs : command.request.serialize request = none) :
    ¬ SaysSuccess status command client env request sendResp := by
  intro h
  have hsome := h.serializes
  rw [hs] at hsome
  cases hsome

/-- **When the unchecked text is sound.** -/
theorem callUnchecked_successSound_iff :
    SuccessSound status command env request
        (callUnchecked status command client env request response) ↔
      DeliversData status command client env request response := by
  rcases hs : command.request.serialize request with _ | bytes
  · rw [callUnchecked, typedCall_of_not_serialized hs]
    exact iff_of_true (successSound_of_ne (ok_ne status.success_ne_parseFailed))
      fun r hr => absurd hr (not_saysSuccess_of_not_serialized hs)
  · rcases typedCall_cases hs client env (answerUnchecked status command.response env)
      (fun _ => pure ()) response with ⟨hno, ops, hout | ⟨e, hout⟩⟩ | ⟨sendResp, stream, hd, hout⟩
    · rw [callUnchecked, hout]
      exact iff_of_true (successSound_of_ne (ok_ne status.success_ne_dataGetFailed))
        fun r hr => absurd hr.delivers (hno r)
    · rw [callUnchecked, hout]
      exact iff_of_true (successSound_of_ne (ok_ne status.success_ne_dataGetFailed))
        fun r hr => absurd hr.delivers (hno r)
    · rw [callUnchecked, hout]
      exact endUnchecked_successSound_iff hs hd status.success_ne_dataGetFailed
        (by simp [Exchange.log]) (by simp [Exchange.log])

/-- **When the checked text is sound.** -/
theorem callChecked_successSound_iff :
    SuccessSound status command env request
        (callChecked status command client env request response) ↔
      CarriesData status command client env request := by
  rcases hs : command.request.serialize request with _ | bytes
  · rw [callChecked, typedCall_of_not_serialized hs]
    exact iff_of_true (successSound_of_ne (ok_ne status.success_ne_parseFailed))
      fun r hr => absurd hr (not_saysSuccess_of_not_serialized hs)
  · rcases typedCall_cases hs client env (answerChecked status command.response env)
      (fun _ => Body.modify (·.setResStatus status.errorUnknownService)) response with
      ⟨hno, ops, hout | ⟨e, hout⟩⟩ | ⟨sendResp, stream, hd, hout⟩
    · rw [callChecked, hout]
      exact iff_of_true (successSound_of_ne (ok_ne status.success_ne_dataGetFailed))
        fun r hr => absurd hr.delivers (hno r)
    · rw [callChecked, hout]
      exact iff_of_true (successSound_of_ne (ok_ne status.success_ne_unknownService))
        fun r hr => absurd hr.delivers (hno r)
    · rw [callChecked, hout]
      exact endChecked_successSound_iff hs hd (by simp [Exchange.log]) (by simp [Exchange.log])

end Modules
end ClientSdk
