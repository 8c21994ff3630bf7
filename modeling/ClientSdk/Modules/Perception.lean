/-
# Perception

`source/robot/modules/perception_api.cpp`: `Detection`, `Division` and
`Perception`, and the three of them as the members of an enumeration.

`Detection` is the checked text of a typed call, the other two are the unchecked
one, as in the control module.  So a success may carry no data here, too
(`perception_successSound_iff`), and a `Detection` that is answered without data
leaves its stream open where the other two close theirs
(`perception_streamClosed_iff`).
-/

import ClientSdk.Modules.Streams

namespace ClientSdk
namespace Modules
namespace Perception

open Common Lib Client

/-- `PerceptionCommandCode`. -/
structure PerceptionCommandCode where
  kDetection : ℤ
  kDivision : ℤ
  kPerception : ℤ

variable {R M : Type}

/-- What `Detection` is written for. -/
def detectionCommand (codes : PerceptionCommandCode) (rt : MessageType R) (t : MessageType M) :
    Command R M := ⟨codes.kDetection, "request_detection", rt, t⟩

/-- What `Division` is written for. -/
def divisionCommand (codes : PerceptionCommandCode) (rt : MessageType R) (t : MessageType M) :
    Command R M := ⟨codes.kDivision, "request_division", rt, t⟩

/-- What `Perception` is written for. -/
def perceptionCommand (codes : PerceptionCommandCode) (rt : MessageType R) (t : MessageType M) :
    Command R M := ⟨codes.kPerception, "request_perception", rt, t⟩

section

variable (status : ResponseStatus) (codes : PerceptionCommandCode) (rt : MessageType R)
  (t : MessageType M) (client : InterfacesClientImpl) (env : CallEnv) (request : R) (response : M)

/-- `Detection`. -/
def detection : Outcome M :=
  callChecked status (detectionCommand codes rt t) client env request response

/-- `Division`. -/
def division : Outcome M :=
  callUnchecked status (divisionCommand codes rt t) client env request response

/-- `Perception`. -/
def perception : Outcome M :=
  callUnchecked status (perceptionCommand codes rt t) client env request response

end

/-- The functions of `perception_api.h`. -/
inductive PerceptionFunction where
  | detection
  | division
  | perception
deriving DecidableEq, Repr

namespace PerceptionFunction

variable (f : PerceptionFunction) (status : ResponseStatus) (codes : PerceptionCommandCode)
  (client : InterfacesClientImpl) (env : CallEnv) (a : Messages) (response : a.M)

/-- A call of the function. -/
def call : Outcome a.M :=
  match f with
  | .detection =>
      Perception.detection status codes a.requestType a.responseType client env a.request response
  | .division =>
      Perception.division status codes a.requestType a.responseType client env a.request response
  | .perception =>
      Perception.perception status codes a.requestType a.responseType client env a.request
        response

/-- What the function is written for. -/
def command : Command a.R a.M :=
  match f with
  | .detection => detectionCommand codes a.requestType a.responseType
  | .division => divisionCommand codes a.requestType a.responseType
  | .perception => perceptionCommand codes a.requestType a.responseType

/-- The text the function is a copy of. -/
def text : Text :=
  match f with
  | .detection => .checked
  | .division | .perception => .unchecked

/-- The function's command code. -/
def commandCode : ℤ :=
  match f with
  | .detection => codes.kDetection
  | .division => codes.kDivision
  | .perception => codes.kPerception

/-- The key of the function's request. -/
def key : String :=
  match f with
  | .detection => "request_detection"
  | .division => "request_division"
  | .perception => "request_perception"

@[simp] theorem command_commandId : (f.command codes a).commandId = f.commandCode codes := by
  cases f <;> rfl

@[simp] theorem command_key : (f.command codes a).key = f.key := by cases f <;> rfl

@[simp] theorem command_request : (f.command codes a).request = a.requestType := by
  cases f <;> rfl

@[simp] theorem command_response : (f.command codes a).response = a.responseType := by
  cases f <;> rfl

theorem call_eq_text : f.call status codes client env a response =
    f.text.call status (f.command codes a) client env a.request response := by
  cases f <;> rfl

end PerceptionFunction

/-- **When a perception function's success is sound.**  For `Detection`, exactly if a
response that says success, and whose output is looked into, carries data; for the
other two, exactly if a response that says success carries data, and nothing is
raised before it is decoded unless the output argument is the decoded message
already. -/
theorem perception_successSound_iff (status : ResponseStatus) (codes : PerceptionCommandCode)
    (client : InterfacesClientImpl) (env : CallEnv) (a : Messages) (response : a.M) :
    (SuccessSound status (PerceptionFunction.detection.command codes a) env a.request
        (PerceptionFunction.detection.call status codes client env a response) ↔
      CarriesData status (PerceptionFunction.detection.command codes a) client env a.request) ∧
    ∀ f : PerceptionFunction, f ≠ .detection →
      (SuccessSound status (f.command codes a) env a.request
          (f.call status codes client env a response) ↔
        DeliversData status (f.command codes a) client env a.request response) := by
  refine ⟨callChecked_successSound_iff, fun f hf => ?_⟩
  cases f with
  | detection => exact absurd rfl hf
  | division => exact callUnchecked_successSound_iff
  | perception => exact callUnchecked_successSound_iff

/-- **When a perception function closes its stream.**  Of a request that serializes and
is given a stream: exactly if `WritesDone` raises nothing, and either the write is
refused, or a response is read whose code is a number and whose data decodes, with
nothing raised before; without data, `Detection` leaves the stream and the other two
close it. -/
theorem perception_streamClosed_iff (f : PerceptionFunction) (status : ResponseStatus)
    (codes : PerceptionCommandCode) (client : InterfacesClientImpl) (env : CallEnv) (a : Messages)
    (response : a.M) :
    ((∃ stream, .opened stream ∈ (f.call status codes client env a response).2.ops) →
        StreamClosed (f.call status codes client env a response).2.ops) ↔
      (a.serialized.isSome = true ∧ opens client env.toStreamEnv = .ok true →
        env.writesDone = .ok () ∧ f.text.ReachesClosing a.responseType client env) := by
  have hbegins := (f.text.report_way status (f.command codes a) client env a.request).beginsStream
  rw [f.command_request, f.command_response] at hbegins
  rw [f.call_eq_text, (f.text.call_report status (f.command codes a) client env a.request
    response).ops, List.nil_append]
  exact hbegins.closed_iff

end Perception
end Modules
end ClientSdk
