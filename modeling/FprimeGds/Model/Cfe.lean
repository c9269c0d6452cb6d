import Mathlib.Data.Int.Notation
import Mathlib.Data.Nat.Notation
import FprimeGds.Machine.Exec

/-! # The parts of the cFE interface both applications use

Statuses are the signed words cFE returns: zero for success, negative for errors, positive for
information. Events and system log entries keep their format text and the arguments as they are
passed, after the casts of the call; formatting itself is not modelled. `CFE_ES_RunLoop` is outside
this repository: it says to go on exactly while the status is APP_RUN and no exit was requested, and it
stores a requested status only over APP_RUN.
-/

namespace FprimeGds.Model.Cfe

open Machine

/-- `CFE_Status_t`. -/
abbrev Status := Int32

/-- `CFE_SUCCESS`. -/
def success : Status := 0

/-- The width of `unsigned long`. It is the target's: here that of a 64-bit host. -/
def unsignedLongBits : ℕ := 64

/-- `(unsigned long)status`, as statuses are reported: the sign is extended, so negative ones wrap. -/
def Status.toUnsignedLong (status : Status) : ℕ := (status.toBitVec.signExtend unsignedLongBits).toNat

/-- `(unsigned int)size`. -/
def toUnsignedInt (size : ℕ) : ℕ := (UInt32.ofNat size).toNat

example : Status.toUnsignedLong (-1) = 0xFFFFFFFFFFFFFFFF := by decide

section Blocks

variable {σ ε : Type}

/-- `if (status == CFE_SUCCESS) { ... }` around a block that assigns the status. -/
def ifSuccess (status : Status) (block : Exec σ ε Status) : Exec σ ε Status :=
  if status = success then block else return status

/-- `if (status != CFE_SUCCESS) { ... }` around a report. -/
def ifFailure (status : Status) (report : Exec σ ε Unit) : Exec σ ε Unit :=
  if status ≠ success then report else return ()

end Blocks

/-- `CFE_EVS_EventType`, as far as it is used. -/
inductive EventType where
  | information
  | error
deriving DecidableEq, Repr

/-- A value handed to a format text. -/
inductive Argument where
  | number (value : ℤ)
  | string (text : String)
  | chars (bytes : List UInt8)
deriving DecidableEq, Repr

/-- The arguments of `CFE_EVS_SendEvent`. -/
structure Event where
  eventId : ℕ
  eventType : EventType
  spec : String
  arguments : List Argument
deriving DecidableEq, Repr

/-- The arguments of `CFE_ES_WriteToSysLog`. -/
structure SysLogEntry where
  spec : String
  arguments : List Argument
deriving DecidableEq, Repr

/-- The values of `CFE_ES_RunStatus` named in this repository, and all others. -/
inductive RunStatus where
  | appRun
  | appExit
  | appError
  | other (code : UInt32)
deriving DecidableEq, Repr

/-- `CFE_ES_RunLoop`: whether to go on, and the run status it leaves. -/
def runLoop (exitRequest : Option RunStatus) (runStatus : RunStatus) : Bool × RunStatus :=
  match exitRequest with
  | none => (runStatus == .appRun, runStatus)
  | some requested => (false, if runStatus = .appRun then requested else runStatus)

/-- A run status other than APP_RUN ends the loop and stays. -/
theorem runLoop_stopped {runStatus : RunStatus} (stopped : runStatus ≠ .appRun)
    (exitRequest : Option RunStatus) : runLoop exitRequest runStatus = (false, runStatus) := by
  cases exitRequest with
  | none => rw [runLoop, beq_false_of_ne stopped]
  | some requested => rw [runLoop, if_neg stopped]

end FprimeGds.Model.Cfe
