/-
# One exchange with the robot

What the functions of `source/robot/modules/` share: the request they build,
the stream they open, write to and read from, and the state they work on.

A function works on its local status, its output argument and the stream; the
operations on the stream are recorded with what they were given.  A step may
raise a `std::exception`, and the state reached stays.  What the peer and the
library answer is `StreamEnv`.  Building the request raises nothing, and the log
output is not modelled.
-/

import ClientSdk.Client.Calls
import ClientSdk.Common.Message
import ClientSdk.Common.Stoi

namespace ClientSdk
namespace Modules

open Common Lib Client

/-- An operation on the stream. -/
inductive StreamOp where
  | opened (stream : ClientReaderWriter)
  | write (request : SendRequest)
  | read
  | writesDone
  | finish
deriving Repr

/-- What the operations of one exchange meet: the clock reading when the stream
is opened, and what each of them raises or gives. -/
structure StreamEnv where
  now : ℤ
  created : Except StdException Bool
  write : Except StdException Bool
  read : Except StdException (Option SendResponse)
  writesDone : Except StdException Unit
  finish : Except StdException GrpcStatus

/-- What a whole call meets: its stream, and what is raised while the code of the
response is read and between that and the decoding of its data. -/
structure CallEnv extends StreamEnv where
  readCode : Except StdException Unit
  lookup : Except StdException Unit

/-- The local status and the output argument of a function, and its operations
on streams so far. -/
structure Exchange (M : Type) where
  resStatus : ℤ
  result : M
  ops : List StreamOp := []

variable {M R : Type}

namespace Exchange

/-- The operations `ops` are done. -/
def log (ops : List StreamOp) (x : Exchange M) : Exchange M := { x with ops := x.ops ++ ops }

/-- `res_status = status`. -/
def setResStatus (status : ℤ) (x : Exchange M) : Exchange M := { x with resStatus := status }

/-- The output argument is overwritten. -/
def setResult (result : M) (x : Exchange M) : Exchange M := { x with result := result }

@[simp] theorem resStatus_log (ops : List StreamOp) (x : Exchange M) :
    (x.log ops).resStatus = x.resStatus := rfl

@[simp] theorem result_log (ops : List StreamOp) (x : Exchange M) :
    (x.log ops).result = x.result := rfl

@[simp] theorem ops_log (ops : List StreamOp) (x : Exchange M) :
    (x.log ops).ops = x.ops ++ ops := rfl

@[simp] theorem resStatus_setResStatus (status : ℤ) (x : Exchange M) :
    (x.setResStatus status).resStatus = status := rfl

@[simp] theorem result_setResStatus (status : ℤ) (x : Exchange M) :
    (x.setResStatus status).result = x.result := rfl

@[simp] theorem ops_setResStatus (status : ℤ) (x : Exchange M) :
    (x.setResStatus status).ops = x.ops := rfl

@[simp] theorem setResStatus_setResStatus (status status' : ℤ) (x : Exchange M) :
    (x.setResStatus status).setResStatus status' = x.setResStatus status' := rfl

@[simp] theorem resStatus_setResult (result : M) (x : Exchange M) :
    (x.setResult result).resStatus = x.resStatus := rfl

@[simp] theorem result_setResult (result : M) (x : Exchange M) :
    (x.setResult result).result = result := rfl

@[simp] theorem ops_setResult (result : M) (x : Exchange M) :
    (x.setResult result).ops = x.ops := rfl

@[simp] theorem log_nil (x : Exchange M) : x.log [] = x := by simp [log]

@[simp] theorem log_log (ops ops' : List StreamOp) (x : Exchange M) :
    (x.log ops).log ops' = x.log (ops ++ ops') := by
  simp [log]

end Exchange

/-- What a function returns or raises, and the exchange it leaves. -/
abbrev Outcome (M : Type) := Except StdException ℤ × Exchange M

/-! ### The stream -/

/-- A statement of a function with an exchange. -/
abbrev Statement (M ρ α : Type) := Body (Exchange M) StdException ρ α

variable {ρ : Type}

/-- `client->Send(stream, context, timeout_ms)`: whether it succeeded. -/
def openStream (client : InterfacesClientImpl) (timeoutMs : ℤ) (env : StreamEnv) :
    Statement M ρ Bool := do
  let (status, stream) ← Body.lift (send client env.now timeoutMs env.created)
  Body.modify (·.log (stream.toList.map .opened))
  return status.ok

/-- `stream->Write(send_req)`. -/
def writeStream (request : SendRequest) (env : StreamEnv) : Statement M ρ Bool := do
  Body.modify (·.log [.write request])
  Body.lift env.write

/-- `stream->Read(&send_resp)`, with the response read. -/
def readStream (env : StreamEnv) : Statement M ρ (Option SendResponse) := do
  Body.modify (·.log [.read])
  Body.lift env.read

/-- `stream->WritesDone(); stream->Finish()`. -/
def closeStream (env : StreamEnv) : Statement M ρ Unit := do
  Body.modify (·.log [.writesDone])
  Body.lift env.writesDone
  Body.modify (·.log [.finish])
  let _ ← Body.lift env.finish

/-- `ParseFromString` into the output argument. -/
def parseResult (t : MessageType M) (bytes : Bytes) : Statement M ρ Bool := do
  let (parsed, result) := t.parseFromString bytes
  Body.modify (·.setResult result)
  return parsed

/-- `return res_status`. -/
def returnStatus {α : Type} : Statement M ℤ α := do
  let status ← Body.gets Exchange.resStatus
  Body.ret status

/-- The first part of a typed call: open the stream, write the request and read
the response.  A response that is not read leaves the stream as it is. -/
def transmit (client : InterfacesClientImpl) (timeoutMs : ℤ) (request : SendRequest)
    (env : StreamEnv) : Statement M ℤ SendResponse := do
  if ← openStream client timeoutMs env then
    if ← writeStream request env then
      match ← readStream env with
      | some response => return response
      | none => returnStatus
    else
      closeStream env
      returnStatus
  else returnStatus

/-! ### The request -/

/-- The input of a request with the command code stored. -/
def commandInput (commandId : ℤ) : KeyValueList :=
  KeyValueList.insert [] "command_id" (.int32Value commandId)

/-- A whole request: the command code, and the serialized message under `key`
below `data`. -/
def commandRequest (commandId : ℤ) (key : String) (bytes : Bytes) : SendRequest :=
  ⟨(commandInput commandId).insert "data"
    (.dictValue (KeyValueList.insert [] key (.byteValue bytes)))⟩

/-- A request has its command code and its serialized message. -/
structure Complete (commandId : ℤ) (key : String) (bytes : Bytes) (request : SendRequest) :
    Prop where
  commandId : request.input.find "command_id" = some (.int32Value commandId)
  data : ∃ entries, request.input.find "data" = some (.dictValue entries) ∧
    KeyValueList.find entries key = some (.byteValue bytes)

theorem commandInput_find_data (commandId : ℤ) : (commandInput commandId).find "data" = none :=
  KeyValueList.find_insert_of_ne (by decide)

/-- **A whole request is complete.** -/
theorem complete_commandRequest (commandId : ℤ) (key : String) (bytes : Bytes) :
    Complete commandId key bytes (commandRequest commandId key bytes) where
  commandId := by
    have hcommand : (commandInput commandId).find "command_id" = some (.int32Value commandId) :=
      KeyValueList.find_insert_self rfl
    rw [commandRequest, KeyValueList.find_insert_of_ne (by decide), hcommand]
  data := ⟨_, KeyValueList.find_insert_self (commandInput_find_data commandId),
    KeyValueList.find_insert_self rfl⟩

/-! ### How the stream operations end -/

variable {client : InterfacesClientImpl} {timeoutMs : ℤ} {request : SendRequest}
  {env : StreamEnv} {x : Exchange M} {response : SendResponse}

/-- The stream is opened, the request written and the response read. -/
structure Delivers (client : InterfacesClientImpl) (env : StreamEnv) (response : SendResponse) :
    Prop where
  connected : client.isConnected = true
  created : env.created = .ok true
  write : env.write = .ok true
  read : env.read = .ok (some response)

/-- Closing a stream: what it raises. -/
def closes (env : StreamEnv) : Except StdException Unit := do
  env.writesDone
  let _ ← env.finish

/-- Closing a stream: the operations.  One that raises is the last. -/
def closing (env : StreamEnv) : List StreamOp :=
  match env.writesDone with
  | .ok () => [.writesDone, .finish]
  | .error _ => [.writesDone]

/-- Opening a stream: whether there is one. -/
def opens (client : InterfacesClientImpl) (env : StreamEnv) : Except StdException Bool :=
  if client.isConnected then env.created else .ok false

/-- Opening a stream: the operation, if there is a stream. -/
def opening (client : InterfacesClientImpl) (timeoutMs : ℤ) (env : StreamEnv) : List StreamOp :=
  match send client env.now timeoutMs env.created with
  | .ok (_, some stream) => [.opened stream]
  | _ => []

/-- The first part of a typed call: the response, if one is read. -/
def transmitted (client : InterfacesClientImpl) (env : StreamEnv) :
    Except StdException (Option SendResponse) := do
  if ← opens client env then
    if ← env.write then env.read
    else
      closes env
      return none
  else return none

/-- The first part of a typed call: the operations, once the stream is opened. -/
def transmitting (client : InterfacesClientImpl) (request : SendRequest) (env : StreamEnv) :
    List StreamOp :=
  match opens client env with
  | .ok true => .write request :: match env.write with
      | .ok true => [.read]
      | .ok false => closing env
      | .error _ => []
  | _ => []

/-- Closing the stream operates on it and changes nothing else. -/
theorem closeStream_eq (env : StreamEnv) (x : Exchange M) :
    (closeStream env : Statement M ρ Unit) x = Body.lift (closes env) (x.log (closing env)) := by
  cases hw : env.writesDone with
  | error e => simp [closeStream, closes, closing, hw]
  | ok u =>
      cases hf : env.finish with
      | error e => simp [closeStream, closes, closing, hw, hf]
      | ok status => simp [closeStream, closes, closing, hw, hf]

/-- So does opening it. -/
theorem openStream_eq (client : InterfacesClientImpl) (timeoutMs : ℤ) (env : StreamEnv)
    (x : Exchange M) :
    (openStream client timeoutMs env : Statement M ρ Bool) x =
      Body.lift (opens client env) (x.log (opening client timeoutMs env)) := by
  cases hc : client.isConnected with
  | false => simp [openStream, opens, opening, hc, send_of_not_connected _ _ hc, notConnected]
  | true =>
      cases hcr : env.created with
      | error e => simp [openStream, opens, opening, hc, hcr, send_of_error _ _ hc]
      | ok created =>
          cases created with
          | true => simp [openStream, opens, opening, hc, hcr, send_of_created _ _ hc]
          | false => simp [openStream, opens, opening, hc, hcr, send_of_null _ _ hc, noStream]

/-- **The first part of a typed call** operates on the stream and changes nothing
else. -/
theorem transmit_eq (client : InterfacesClientImpl) (timeoutMs : ℤ) (request : SendRequest)
    (env : StreamEnv) (x : Exchange M) :
    transmit client timeoutMs request env x =
      (match transmitted client env with
        | .error e => .throw e
        | .ok none => .ret x.resStatus
        | .ok (some sendResp) => .next sendResp,
        x.log (opening client timeoutMs env ++ transmitting client request env)) := by
  rcases ho : opens client env with e | created
  · simp [transmit, openStream_eq, transmitted, transmitting, ho]
  cases created with
  | false => simp [transmit, openStream_eq, transmitted, transmitting, ho, returnStatus]
  | true =>
      rcases hw : env.write with e | written
      · simp [transmit, openStream_eq, transmitted, transmitting, ho, hw, writeStream]
      cases written with
      | false =>
          rcases hclose : closes env with e | u <;>
            simp [transmit, openStream_eq, transmitted, transmitting, ho, hw, writeStream,
              closeStream_eq, hclose, returnStatus]
      | true =>
          rcases hr : env.read with e | response
          · simp [transmit, openStream_eq, transmitted, transmitting, ho, hw, hr, writeStream,
              readStream]
          cases response <;>
            simp [transmit, openStream_eq, transmitted, transmitting, ho, hw, hr, writeStream,
              readStream, returnStatus]

theorem opens_iff {client : InterfacesClientImpl} {env : StreamEnv} :
    opens client env = .ok true ↔ client.isConnected = true ∧ env.created = .ok true := by
  cases hc : client.isConnected <;> simp [opens, hc]

/-- With a stream, it is opened. -/
theorem opening_of_opens (h : opens client env = .ok true) (timeoutMs : ℤ) :
    ∃ stream, opening client timeoutMs env = [.opened stream] := by
  obtain ⟨hc, hcr⟩ := opens_iff.1 h
  exact ⟨⟨client.heldStub hc, getDeadline env.now timeoutMs⟩,
    by simp [opening, hcr, send_of_created _ _ hc]⟩

/-- Without one, there is no operation. -/
theorem opening_of_not_opens (h : opens client env ≠ .ok true) (timeoutMs : ℤ) :
    opening client timeoutMs env = [] := by
  cases hc : client.isConnected with
  | false => simp [opening, send_of_not_connected _ _ hc]
  | true =>
      rcases hcr : env.created with e | _ | _
      · simp [opening, hcr, send_of_error _ _ hc]
      · simp [opening, hcr, send_of_null _ _ hc]
      · exact absurd (opens_iff.2 ⟨hc, hcr⟩) h

theorem Delivers.opens (h : Delivers client env response) :
    Modules.opens client env = .ok true := opens_iff.2 ⟨h.connected, h.created⟩

/-- A response is read exactly if the stream is opened, the request written and a
response there. -/
theorem transmitted_some_iff {sendResp : SendResponse} :
    transmitted client env = .ok (some sendResp) ↔ Delivers client env sendResp := by
  constructor
  · intro h
    rcases hc : client.isConnected with _ | _
    · simp [transmitted, opens, hc] at h
    rcases hcr : env.created with e | _ | _ <;> simp [transmitted, opens, hc, hcr] at h
    rcases hw : env.write with e | _ | _
    · simp [hw] at h
    · rcases hclose : closes env with e | u <;> simp [hw, hclose] at h
    · simp only [hw] at h
      exact ⟨hc, hcr, hw, h⟩
  · intro h
    simp [transmitted, opens, h.connected, h.created, h.write, h.read]

/-- Closing the stream reaches its end or raises, and only operates on the
stream. -/
theorem closeStream_cases (ρ : Type) (env : StreamEnv) (x : Exchange M) :
    ∃ ops, (closeStream env : Statement M ρ Unit) x = (.next (), x.log ops) ∨
      ∃ e, (closeStream env : Statement M ρ Unit) x = (.throw e, x.log ops) := by
  refine ⟨closing env, ?_⟩
  rw [closeStream_eq]
  rcases closes env with e | u
  · exact Or.inr ⟨e, rfl⟩
  · exact Or.inl rfl

/-- What opening the stream leads to. -/
theorem openStream_cases (ρ : Type) (client : InterfacesClientImpl) (timeoutMs : ℤ)
    (env : StreamEnv) (x : Exchange M) :
    (client.isConnected = true ∧ env.created = .ok true ∧ ∃ stream,
      (openStream client timeoutMs env : Statement M ρ Bool) x =
        (.next true, x.log [.opened stream])) ∨
    (¬ (client.isConnected = true ∧ env.created = .ok true) ∧
      ((openStream client timeoutMs env : Statement M ρ Bool) x = (.next false, x) ∨
        ∃ e, (openStream client timeoutMs env : Statement M ρ Bool) x = (.throw e, x))) := by
  rw [openStream_eq]
  by_cases ho : opens client env = .ok true
  · obtain ⟨hc, hcr⟩ := opens_iff.1 ho
    obtain ⟨stream, hopening⟩ := opening_of_opens ho timeoutMs
    exact Or.inl ⟨hc, hcr, stream, by rw [ho, hopening]; rfl⟩
  · refine Or.inr ⟨fun h => ho (opens_iff.2 h), ?_⟩
    rw [opening_of_not_opens ho, Exchange.log_nil]
    rcases hres : opens client env with e | _ | _
    · exact Or.inr ⟨e, rfl⟩
    · exact Or.inl rfl
    · exact absurd hres ho

/-- **The first part of a typed call** delivers a response, or ends the call with
the status there was or by an exception, with nothing else touched. -/
theorem transmit_cases (client : InterfacesClientImpl) (timeoutMs : ℤ) (request : SendRequest)
    (env : StreamEnv) (x : Exchange M) :
    (∃ response stream, Delivers client env response ∧
      transmit client timeoutMs request env x =
        (.next response, x.log [.opened stream, .write request, .read])) ∨
    ((∀ response, ¬ Delivers client env response) ∧ ∃ ops,
      transmit client timeoutMs request env x = (.ret x.resStatus, x.log ops) ∨
        ∃ e, transmit client timeoutMs request env x = (.throw e, x.log ops)) := by
  rw [transmit_eq]
  rcases ht : transmitted client env with e | _ | response
  · refine Or.inr ⟨fun response hd => ?_, _, Or.inr ⟨e, rfl⟩⟩
    cases ht.symm.trans (transmitted_some_iff.2 hd)
  · refine Or.inr ⟨fun response hd => ?_, _, Or.inl rfl⟩
    cases ht.symm.trans (transmitted_some_iff.2 hd)
  · have hd : Delivers client env response := transmitted_some_iff.1 ht
    obtain ⟨stream, hopening⟩ := opening_of_opens hd.opens timeoutMs
    refine Or.inl ⟨response, stream, hd, ?_⟩
    simp [hopening, transmitting, hd.opens, hd.write]

/-! ### What an exchange keeps -/

/-- An invariant of exchanges that write `request` and nothing else: it survives
further stream operations, a new status and a new output. -/
structure StreamInvariant (request : SendRequest) (I : Exchange M → Prop) : Prop where
  log : ∀ x ops, (∀ r, .write r ∈ ops → r = request) → I x → I (x.log ops)
  setResStatus : ∀ x status, I x → I (x.setResStatus status)
  setResult : ∀ x result, I x → I (x.setResult result)

/-- Only `request` was written. -/
def OnlyWrites (request : SendRequest) (x : Exchange M) : Prop :=
  ∀ r, .write r ∈ x.ops → r = request

/-- A stream was opened. -/
def Opened (x : Exchange M) : Prop := ∃ stream, .opened stream ∈ x.ops

theorem streamInvariant_onlyWrites (request : SendRequest) :
    StreamInvariant (M := M) request (OnlyWrites request) where
  log x ops hops hx r hr := by
    rcases List.mem_append.1 hr with hr | hr
    · exact hx r hr
    · exact hops r hr
  setResStatus _ _ hx := hx
  setResult _ _ hx := hx

theorem streamInvariant_opened (request : SendRequest) :
    StreamInvariant (M := M) request Opened where
  log x ops _ hx := by
    obtain ⟨stream, hs⟩ := hx
    exact ⟨stream, List.mem_append_left _ hs⟩
  setResStatus _ _ hx := hx
  setResult _ _ hx := hx

section Keeps

variable {I : Exchange M → Prop} (hI : StreamInvariant request I)
include hI

theorem StreamInvariant.openStream (client : InterfacesClientImpl) (timeoutMs : ℤ)
    (env : StreamEnv) :
    Body.Keeps I (Modules.openStream client timeoutMs env : Statement M ρ Bool) := by
  refine Body.keeps_bind (Body.keeps_lift _) fun sent => Body.keeps_bind ?_ fun _ =>
    Body.keeps_pure _
  refine Body.keeps_modify fun x hx => hI.log x _ (fun r hr => ?_) hx
  obtain ⟨stream, -, hs⟩ := List.mem_map.1 hr
  cases hs

theorem StreamInvariant.writeStream (env : StreamEnv) :
    Body.Keeps I (Modules.writeStream request env : Statement M ρ Bool) :=
  Body.keeps_bind (Body.keeps_modify fun x hx => hI.log x _ (by simp) hx) fun _ =>
    Body.keeps_lift _

theorem StreamInvariant.readStream (env : StreamEnv) :
    Body.Keeps I (Modules.readStream env : Statement M ρ (Option SendResponse)) :=
  Body.keeps_bind (Body.keeps_modify fun x hx => hI.log x _ (by simp) hx) fun _ =>
    Body.keeps_lift _

theorem StreamInvariant.closeStream (env : StreamEnv) :
    Body.Keeps I (Modules.closeStream env : Statement M ρ Unit) := by
  refine Body.keeps_bind (Body.keeps_modify fun x hx => hI.log x _ (by simp) hx) fun _ => ?_
  refine Body.keeps_bind (Body.keeps_lift _) fun _ => ?_
  refine Body.keeps_bind (Body.keeps_modify fun x hx => hI.log x _ (by simp) hx) fun _ => ?_
  exact Body.keeps_bind (Body.keeps_lift _) fun _ => Body.keeps_pure _

theorem StreamInvariant.parseResult (t : MessageType M) (bytes : Bytes) :
    Body.Keeps I (Modules.parseResult t bytes : Statement M ρ Bool) :=
  Body.keeps_bind (Body.keeps_modify fun x hx => hI.setResult x _ hx) fun _ => Body.keeps_pure _

omit hI in
theorem keeps_returnStatus {α : Type} : Body.Keeps I (returnStatus : Statement M ℤ α) :=
  Body.keeps_bind (Body.keeps_gets _) fun _ => Body.keeps_ret _

end Keeps

/-! ### An instance -/

/-- A message type of one byte. -/
def byteMessage : MessageType UInt8 where
  serialize b := some [b]
  decode
    | [b] => some b
    | _ => none
  leftover _ := 0

/-- A connected client. -/
def connectedClient : InterfacesClientImpl :=
  let channel : Channel := ⟨0, "localhost:50051", ⟨104857600, 104857600⟩⟩
  { channel := some channel, stub := some ⟨1, channel⟩, target := "localhost:50051",
    connected := true }

/-- A peer that answers every request with code 0 and no output. -/
def answersEmpty : CallEnv where
  now := 0
  created := .ok true
  write := .ok true
  read := .ok (some ⟨⟨"0", "ok"⟩, []⟩)
  writesDone := .ok ()
  finish := .ok {}
  readCode := .ok ()
  lookup := .ok ()

end Modules
end ClientSdk
