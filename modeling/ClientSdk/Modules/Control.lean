/-
# Control

`source/robot/modules/control_api.cpp`: `EmergencyStop`, `GetJointInfo` and
`JointMotion`.

`EmergencyStop` is the checked text of a typed call, the other two are the
unchecked one.  None of them makes its success depend on the data of the
response: a response that says success and carries no data is passed on as a
success, with the output argument as it was (`control_successSound_iff`).
-/

import ClientSdk.Modules.Call

namespace ClientSdk
namespace Modules
namespace Control

open Common Lib Client

/-- `ControlCommandCode`. -/
structure ControlCommandCode where
  kEmergencyStop : ℤ
  kGetJointInfo : ℤ
  kJointMotion : ℤ

variable {R M : Type}

/-- What `EmergencyStop` is written for. -/
def emergencyStopCommand (codes : ControlCommandCode) (rt : MessageType R) (t : MessageType M) :
    Command R M := ⟨codes.kEmergencyStop, "request_emergency_stop", rt, t⟩

/-- What `GetJointInfo` is written for. -/
def getJointInfoCommand (codes : ControlCommandCode) (rt : MessageType R) (t : MessageType M) :
    Command R M := ⟨codes.kGetJointInfo, "request_get_joint_info", rt, t⟩

/-- What `JointMotion` is written for. -/
def jointMotionCommand (codes : ControlCommandCode) (rt : MessageType R) (t : MessageType M) :
    Command R M := ⟨codes.kJointMotion, "request_joint_motion", rt, t⟩

section

variable (status : ResponseStatus) (codes : ControlCommandCode) (rt : MessageType R)
  (t : MessageType M) (client : InterfacesClientImpl) (env : CallEnv) (request : R) (response : M)

/-- `EmergencyStop`. -/
def emergencyStop : Outcome M :=
  callChecked status (emergencyStopCommand codes rt t) client env request response

/-- `GetJointInfo`. -/
def getJointInfo : Outcome M :=
  callUnchecked status (getJointInfoCommand codes rt t) client env request response

/-- `JointMotion`. -/
def jointMotion : Outcome M :=
  callUnchecked status (jointMotionCommand codes rt t) client env request response

/-- **When a control function's success is sound.**  For `EmergencyStop`, exactly
if a response that says success, and whose output is looked into, carries data;
for the other two, exactly if a response that says success carries data, and
nothing is raised before it is decoded unless the output argument is the decoded
message already. -/
theorem control_successSound_iff :
    (SuccessSound status (emergencyStopCommand codes rt t) env request
        (emergencyStop status codes rt t client env request response) ↔
      CarriesData status (emergencyStopCommand codes rt t) client env request) ∧
    (SuccessSound status (getJointInfoCommand codes rt t) env request
        (getJointInfo status codes rt t client env request response) ↔
      DeliversData status (getJointInfoCommand codes rt t) client env request response) ∧
    (SuccessSound status (jointMotionCommand codes rt t) env request
        (jointMotion status codes rt t client env request response) ↔
      DeliversData status (jointMotionCommand codes rt t) client env request response) :=
  ⟨callChecked_successSound_iff, callUnchecked_successSound_iff, callUnchecked_successSound_iff⟩

end

/-! ### A success without data -/

/-- The success of the instance below is apart from the error of what is not parsed. -/
theorem sampleSuccess_ne_parseFailed : (0 : ℤ) ≠ 2 := by decide

/-- Values of the enumeration, for an instance. -/
def sampleStatus : ResponseStatus where
  success := 0
  errorDataGetFailed := 1
  errorParseFailed := 2
  errorUnknownService := 3
  success_ne_dataGetFailed := Int.zero_ne_one
  success_ne_parseFailed := sampleSuccess_ne_parseFailed
  success_ne_unknownService := by decide

/-- Command codes, for an instance. -/
def sampleCodes : ControlCommandCode := ⟨101, 102, 103⟩

/-- `EmergencyStop` reports success and leaves the stop result of before. -/
theorem control_successSound_noData :
    ¬ SuccessSound sampleStatus (emergencyStopCommand sampleCodes byteMessage byteMessage)
      answersEmpty 7
      (emergencyStop sampleStatus sampleCodes byteMessage byteMessage connectedClient answersEmpty
        7 42) := by
  intro h
  obtain ⟨bytes, sendResp, data, -, -, -, -, hread, -, hdata, -⟩ := h rfl
  obtain rfl := Option.some.inj (Except.ok.inj hread)
  cases hdata

end Control
end Modules
end ClientSdk
