import FrameRouter.Json.Failure
import FrameRouter.Text.Digits

/-!
# Faults

What can go wrong on the control path.  The routing of frames itself never
fails.
-/

namespace FrameRouter

/-- Why a file has no text. -/
inductive FileFailure where
  | missing
  /-- The path goes on behind a file. -/
  | notDirectory
  | isDirectory
  | nameTooLong
  | notText
  | other (reason : String)
deriving DecidableEq, Repr

def FileFailure.message : FileFailure → String
  | .missing => "No such file or directory (os error 2)"
  | .notDirectory => "Not a directory (os error 20)"
  | .isDirectory => "Is a directory (os error 21)"
  | .nameTooLong => "File name too long (os error 36)"
  | .notText => "stream did not contain valid UTF-8"
  | .other reason => reason

/-- A failure of the control path. -/
inductive Fault where
  | unknownRegister (address : UInt8)
  | invalidRegisterValue (address : UInt8) (value : UInt32)
  | invalidTrace (detail : String)
  | file (failure : FileFailure)
  | document (failure : Json.Failure)
  | workerStart (reason : String)
deriving DecidableEq, Repr

def Fault.message : Fault → String
  | .unknownRegister address =>
      "Unknown register address: " ++ Digits.hexadecimalByte address.toNat
  | .invalidRegisterValue address value =>
      "Invalid value " ++ Digits.hexadecimal value.toNat ++ " for register " ++
        Digits.hexadecimalByte address.toNat
  | .invalidTrace detail => "Invalid frame trace: " ++ detail
  | .file failure => "IO error: " ++ failure.message
  | .document failure => "JSON error: " ++ failure.message
  | .workerStart reason => "Failed to spawn dispatcher thread: " ++ reason

/-- The wording of a fault, and of the failure behind it if there is one. -/
def Fault.causes (fault : Fault) : List String :=
  fault.message ::
    match fault with
    | .file inner => [inner.message]
    | .document inner => [inner.message]
    | _ => []

end FrameRouter
