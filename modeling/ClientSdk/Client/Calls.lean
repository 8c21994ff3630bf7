/-
# The calls of a connected client

`source/robot/client/interfaces_client.cpp`: `ConvertGrpcStatus`, `Send`,
`Query`, `Action`, `Unsubscribe` and `Subscribe`.

Each call first asks whether the client is connected and only then goes through
the stub, which is then there (`InterfacesClientImpl.heldStub`).  What the
remote call answers is a parameter, and of a context only its deadline is kept.
-/

import ClientSdk.Client.Connection

namespace ClientSdk
namespace Client

open Common Lib

/-! ### Statuses -/

/-- `grpc::StatusCode`. -/
inductive StatusCode where
  | ok
  | cancelled
  | unknown
  | invalidArgument
  | deadlineExceeded
  | notFound
  | alreadyExists
  | permissionDenied
  | resourceExhausted
  | failedPrecondition
  | aborted
  | outOfRange
  | unimplemented
  | internal
  | unavailable
  | dataLoss
  | unauthenticated
deriving DecidableEq, Repr

/-- `grpc::Status`. -/
structure GrpcStatus where
  errorCode : StatusCode := .ok
  errorMessage : String := ""
deriving DecidableEq, Repr

/-- The `std::errc` that stands for a failing status code. -/
def StatusCode.errc : StatusCode → Errc
  | .cancelled => .operationCanceled
  | .deadlineExceeded => .timedOut
  | .notFound => .noSuchFileOrDirectory
  | .alreadyExists => .fileExists
  | .permissionDenied => .permissionDenied
  | .unavailable => .hostUnreachable
  | .unimplemented => .functionNotSupported
  | _ => .ioError

/-- `ConvertGrpcStatus`. -/
def convertGrpcStatus (s : GrpcStatus) : Status :=
  if s.errorCode = .ok then {} else .error s.errorCode.errc s.errorMessage

/-- A converted status is a success exactly if the gRPC one is. -/
theorem convertGrpcStatus_ok_iff (s : GrpcStatus) :
    (convertGrpcStatus s).ok = true ↔ s.errorCode = .ok := by
  unfold convertGrpcStatus
  split
  · rename_i h
    exact iff_of_true rfl h
  · rename_i h
    rw [Status.ok_error]
    exact iff_of_false nofun h

/-- The status of a call of a client that is not connected. -/
def notConnected : Status := .error .notConnected "Client not connected"

/-- The status of a `Send` that was given no stream. -/
def noStream : Status := .error .ioError "Failed to create send stream"

/-! ### Calls -/

/-- The stub of a connected client. -/
def InterfacesClientImpl.heldStub (c : InterfacesClientImpl) (h : c.isConnected = true) : Stub :=
  c.stub.get (Bool.and_eq_true_iff.1 h).2

/-- A stream opened by `Send`: the stub it goes through and the deadline of its
context. -/
structure ClientReaderWriter where
  stub : Stub
  deadline : ℤ
deriving DecidableEq, Repr

/-- `Send(readWriter, context, timeout_ms)`, at the clock reading `now`: the
status, and the stream if there is one.  `created` is what the stub's call
raises, or whether it gives a stream. -/
def send (c : InterfacesClientImpl) (now timeoutMs : ℤ) (created : Except StdException Bool) :
    Except StdException (Status × Option ClientReaderWriter) :=
  if h : c.isConnected = true then do
    if ← created then return ({}, some ⟨c.heldStub h, getDeadline now timeoutMs⟩)
    else return (noStream, none)
  else .ok (notConnected, none)

/-- The status of an `Action` that was given no stream. -/
def noActionStream : Status := .error .ioError "Failed to create action stream"

/-- A stream opened by `Action`, whose context is the caller's. -/
structure ClientReader where
  stub : Stub
deriving DecidableEq, Repr

/-- `Action(request, reader, context)`: the status, and the stream if there is
one.  `created` is what the stub's call raises, or whether it gives a stream. -/
def action (c : InterfacesClientImpl) (created : Except StdException Bool) :
    Except StdException (Status × Option ClientReader) :=
  if h : c.isConnected = true then do
    if ← created then return ({}, some ⟨c.heldStub h⟩)
    else return (noActionStream, none)
  else .ok (notConnected, none)

variable {Request Response : Type}

/-- What a remote call through a stub, with a deadline if there is one, answers
to a request. -/
abbrev Rpc (Request Response : Type) :=
  Stub → Option ℤ → Request → GrpcStatus × Response

/-- The body of the calls with one answer.  The response of a call that is not
made stays as it was. -/
def unaryCall (c : InterfacesClientImpl) (deadline : Option ℤ) (rpc : Rpc Request Response)
    (request : Request) (response : Response) : Status × Response :=
  if h : c.isConnected = true then
    let (status, response) := rpc (c.heldStub h) deadline request
    (convertGrpcStatus status, response)
  else (notConnected, response)

/-- `Query(request, response, timeout_ms)`. -/
def query (c : InterfacesClientImpl) (now timeoutMs : ℤ) (rpc : Rpc Request Response)
    (request : Request) (response : Response) : Status × Response :=
  unaryCall c (some (getDeadline now timeoutMs)) rpc request response

/-- `Unsubscribe(request, response, timeout_ms)`. -/
def unsubscribe (c : InterfacesClientImpl) (now timeoutMs : ℤ) (rpc : Rpc Request Response)
    (request : Request) (response : Response) : Status × Response :=
  unaryCall c (some (getDeadline now timeoutMs)) rpc request response

/-- `Subscribe(request, response, timeout_ms)`: no deadline unless the timeout
is positive. -/
def subscribe (c : InterfacesClientImpl) (now timeoutMs : ℤ) (rpc : Rpc Request Response)
    (request : Request) (response : Response) : Status × Response :=
  unaryCall c (if 0 < timeoutMs then some (getDeadline now timeoutMs) else none) rpc request
    response

/-- A call of a client that is not connected is refused and answers nothing. -/
theorem unaryCall_of_not_connected {c : InterfacesClientImpl} (h : c.isConnected = false)
    (deadline : Option ℤ) (rpc : Rpc Request Response) (request : Request)
    (response : Response) :
    unaryCall c deadline rpc request response = (notConnected, response) := by
  simp [unaryCall, h]

section Send

variable {c : InterfacesClientImpl} (now timeoutMs : ℤ)

/-- `Send` of a connected client gives the stream the stub gives. -/
theorem send_of_created (h : c.isConnected = true) :
    send c now timeoutMs (.ok true) =
      .ok ({}, some ⟨c.heldStub h, getDeadline now timeoutMs⟩) := by
  simp [send, h, bind, Except.bind, pure, Except.pure]

theorem send_of_null (h : c.isConnected = true) :
    send c now timeoutMs (.ok false) = .ok (noStream, none) := by
  simp [send, h, bind, Except.bind, pure, Except.pure]

theorem send_of_error (h : c.isConnected = true) (e : StdException) :
    send c now timeoutMs (.error e) = .error e := by
  simp [send, h, bind, Except.bind]

theorem send_of_not_connected (h : c.isConnected = false) (created : Except StdException Bool) :
    send c now timeoutMs created = .ok (notConnected, none) := by
  simp [send, h]

/-- **No call goes past the guard of a client that is not connected.** -/
theorem refused_of_not_connected (h : c.isConnected = false)
    (created : Except StdException Bool) (rpc : Rpc Request Response) (request : Request)
    (response : Response) :
    send c now timeoutMs created = .ok (notConnected, none) ∧
      action c created = .ok (notConnected, none) ∧
      query c now timeoutMs rpc request response = (notConnected, response) ∧
      unsubscribe c now timeoutMs rpc request response = (notConnected, response) ∧
      subscribe c now timeoutMs rpc request response = (notConnected, response) := by
  have hunary (deadline : Option ℤ) :
      unaryCall c deadline rpc request response = (notConnected, response) :=
    unaryCall_of_not_connected h deadline rpc request response
  refine ⟨send_of_not_connected now timeoutMs h created, ?_, ?_, ?_, ?_⟩
  · simp [action, h]
  · exact hunary _
  · exact hunary _
  · exact hunary _

end Send

end Client
end ClientSdk
