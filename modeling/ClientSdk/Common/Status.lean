/-
# Exceptions, error codes and `Status`

`include/robot/common/status.h`, `source/robot/common/status.cpp`.

Every operation of the SDK reports through a `Status`: a `std::error_code` and
a message, convertible to `true` exactly if the code's value is zero.  What the
library code underneath (gRPC, protobuf, the standard library) raises is a
`std::exception`; handlers in the source tell `std::invalid_argument` from the
rest and read `what()`.
-/

import Mathlib.Data.Int.Notation
import Mathlib.Data.Nat.Notation

namespace ClientSdk
namespace Common

/-- A `std::exception`, with the text `what()` gives. -/
inductive StdException where
  | invalidArgument (what : String)
  | outOfRange (what : String)
  | other (what : String)
deriving DecidableEq, Repr

/-- `std::exception::what`. -/
def StdException.what : StdException → String
  | .invalidArgument w | .outOfRange w | .other w => w

/-- Caught by `catch (const std::invalid_argument&)`. -/
def StdException.isInvalidArgument : StdException → Bool
  | .invalidArgument _ => true
  | _ => false

/-- The `std::errc` values the SDK reports. -/
inductive Errc where
  | operationNotPermitted
  | noSuchFileOrDirectory
  | ioError
  | permissionDenied
  | fileExists
  | functionNotSupported
  | operationNotSupported
  | addressNotAvailable
  | notConnected
  | timedOut
  | connectionRefused
  | hostUnreachable
  | operationCanceled
deriving DecidableEq, Repr

/-- The `errno` value behind a `std::errc` on Linux. -/
def Errc.value : Errc → ℤ
  | .operationNotPermitted => 1
  | .noSuchFileOrDirectory => 2
  | .ioError => 5
  | .permissionDenied => 13
  | .fileExists => 17
  | .functionNotSupported => 38
  | .operationNotSupported => 95
  | .addressNotAvailable => 99
  | .notConnected => 107
  | .timedOut => 110
  | .connectionRefused => 111
  | .hostUnreachable => 113
  | .operationCanceled => 125

theorem Errc.value_ne_zero (c : Errc) : c.value ≠ 0 := by cases c <;> decide

/-- The category of a `std::error_code`. -/
inductive ErrorCategory where
  | system
  | generic
  | other (name : String)
deriving DecidableEq, Repr

/-- `std::error_code`; a default-constructed one is zero in the system
category. -/
structure ErrorCode where
  value : ℤ := 0
  category : ErrorCategory := .system
deriving DecidableEq, Repr

/-- `std::make_error_code`. -/
def makeErrorCode (c : Errc) : ErrorCode := ⟨c.value, .generic⟩

/-- `Status`; a default-constructed one is success. -/
structure Status where
  code : ErrorCode := {}
  message : String := ""
deriving DecidableEq, Repr

/-- `Status::operator bool`: zero is success. -/
def Status.ok (s : Status) : Bool := s.code.value = 0

/-- A status built from a `std::errc` and a message, as every error of the SDK
is. -/
def Status.error (c : Errc) (message : String) : Status := ⟨makeErrorCode c, message⟩

@[simp] theorem Status.ok_default : (({} : Status)).ok = true := rfl

@[simp] theorem Status.ok_error (c : Errc) (message : String) :
    (Status.error c message).ok = false := by
  simp [Status.ok, Status.error, makeErrorCode, Errc.value_ne_zero]

end Common
end ClientSdk
