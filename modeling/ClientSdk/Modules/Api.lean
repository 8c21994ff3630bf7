/-
# The functions of the interface

`include/robot/modules/control_api.h` and `navigation_api.h`: the three control
functions and the seven navigation functions, as the members of two enumerations.
A statement about every function of a module is one about `ControlFunction.call`
or `NavigationFunction.call`.

The functions have their own message types, so a call takes its types along with
its request (`Messages`).
-/

import ClientSdk.Modules.Control
import ClientSdk.Modules.NavigationReport

namespace ClientSdk
namespace Modules

open Common Lib Client

/-- The types of a call's messages, and its request. -/
structure Messages where
  {R : Type}
  {M : Type}
  requestType : MessageType R
  responseType : MessageType M
  request : R

namespace Messages

/-- What `SerializeToString` gives of the request. -/
def serialized (a : Messages) : Option Bytes := a.requestType.serialize a.request

/-- The bytes decode to a response. -/
def Accepts (a : Messages) (bytes : Bytes) : Prop := (a.responseType.decode bytes).isSome = true

end Messages

/-! ### Control -/

namespace Control

/-- The functions of `control_api.h`. -/
inductive ControlFunction where
  | emergencyStop
  | getJointInfo
  | jointMotion
deriving DecidableEq, Repr

namespace ControlFunction

variable (f : ControlFunction) (status : ResponseStatus) (codes : ControlCommandCode)
  (client : InterfacesClientImpl) (env : CallEnv) (a : Messages) (response : a.M)

/-- A call of the function. -/
def call : Outcome a.M :=
  match f with
  | .emergencyStop =>
      Control.emergencyStop status codes a.requestType a.responseType client env a.request response
  | .getJointInfo =>
      Control.getJointInfo status codes a.requestType a.responseType client env a.request response
  | .jointMotion =>
      Control.jointMotion status codes a.requestType a.responseType client env a.request response

/-- What the function is written for. -/
def command : Command a.R a.M :=
  match f with
  | .emergencyStop => emergencyStopCommand codes a.requestType a.responseType
  | .getJointInfo => getJointInfoCommand codes a.requestType a.responseType
  | .jointMotion => jointMotionCommand codes a.requestType a.responseType

/-- The text the function is a copy of. -/
def text : Text :=
  match f with
  | .emergencyStop => .checked
  | .getJointInfo | .jointMotion => .unchecked

/-- The function's command code. -/
def commandCode : ℤ :=
  match f with
  | .emergencyStop => codes.kEmergencyStop
  | .getJointInfo => codes.kGetJointInfo
  | .jointMotion => codes.kJointMotion

/-- The key of the function's request. -/
def key : String :=
  match f with
  | .emergencyStop => "request_emergency_stop"
  | .getJointInfo => "request_get_joint_info"
  | .jointMotion => "request_joint_motion"

@[simp] theorem command_commandId : (f.command codes a).commandId = f.commandCode codes := by
  cases f <;> rfl

@[simp] theorem command_key : (f.command codes a).key = f.key := by cases f <;> rfl

@[simp] theorem command_request : (f.command codes a).request = a.requestType := by
  cases f <;> rfl

@[simp] theorem command_response : (f.command codes a).response = a.responseType := by
  cases f <;> rfl

/-- What a call of the function comes to. -/
def report : Report a.M := f.text.report status (f.command codes a) client env a.request

theorem call_report :
    (f.report status codes client env a).Describes
      { resStatus := status.errorDataGetFailed, result := response }
      (f.call status codes client env a response) := by
  have hcall : f.call status codes client env a response =
      f.text.call status (f.command codes a) client env a.request response := by
    cases f <;> rfl
  rw [hcall]
  exact f.text.call_report status (f.command codes a) client env a.request response

end ControlFunction

end Control

/-! ### Navigation -/

namespace Navigation

/-- The functions of `navigation_api.h`. -/
inductive NavigationFunction where
  | getCurrentPose
  | getGridMap2D
  | navigationTo
  | getRemainingPathDistance
  | cancelNavigationTask
  | startChargingTask
  | stopChargingTask
deriving DecidableEq, Repr

namespace NavigationFunction

variable (f : NavigationFunction) (status : ResStatus) (codes : NavigationCommandCode)
  (client : InterfacesClientImpl) (env : CallEnv) (a : Messages) (result : a.M)

/-- A call of the function. -/
def call : Outcome a.M :=
  match f with
  | .getCurrentPose =>
      Navigation.getCurrentPose status codes a.requestType a.responseType client env
        a.request result
  | .getGridMap2D =>
      Navigation.getGridMap2D status codes a.requestType a.responseType client env
        a.request result
  | .navigationTo =>
      Navigation.navigationTo status codes a.requestType a.responseType client env
        a.request result
  | .getRemainingPathDistance =>
      Navigation.getRemainingPathDistance status codes a.requestType a.responseType client env
        a.request result
  | .cancelNavigationTask =>
      Navigation.cancelNavigationTask status codes a.requestType a.responseType client env
        a.request result
  | .startChargingTask =>
      Navigation.startChargingTask status codes a.requestType a.responseType client env
        a.request result
  | .stopChargingTask =>
      Navigation.stopChargingTask status codes a.requestType a.responseType client env
        a.request result

/-- The function's command code. -/
def commandCode : ℤ :=
  match f with
  | .getCurrentPose => codes.kGetCurrentPose
  | .getGridMap2D => codes.kGetGridMap2D
  | .navigationTo => codes.kNavigationTo
  | .getRemainingPathDistance => codes.kGetRemainingPathDistance
  | .cancelNavigationTask => codes.kCancelNavigationTask
  | .startChargingTask => codes.kStartCharging
  | .stopChargingTask => codes.kStopCharging

/-- What a call of the function comes to. -/
def report : Report a.M :=
  Navigation.report status (f.commandCode codes) a.requestType a.responseType client env a.request

theorem call_report :
    (f.report status codes client env a).Describes
      { resStatus := status.errorDataGetFailed, result := result }
      (f.call status codes client env a result) := by
  have hcall : f.call status codes client env a result =
      navigationRequestTemplate status (f.commandCode codes) a.requestType a.responseType client
        env a.request result := by
    cases f <;> rfl
  rw [hcall]
  exact template_report status (f.commandCode codes) a.requestType a.responseType client env
    a.request result

end NavigationFunction

end Navigation

end Modules
end ClientSdk
