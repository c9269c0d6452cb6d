import Mathlib.Data.List.FinRange
import FprimeGds.Machine.Exec
import FprimeGds.Model.Cfe

/-! # Messages, global data and actions of the C application

A message is what the code reads of a software bus buffer. Its payload is the one of the
DISPLAY_PARAM command, the only one any handler reads; the string field has the configured length.
Counters are the eight-bit fields of the global data. Every effect outside that data is an action,
and so are the entry of a command handler and each increment of a counter.
-/

namespace FprimeGds.Model.App

open Cfe Machine

/-- `CFE_SB_MsgId_t`. -/
abbrev MsgId := UInt32

/-! ## Configuration -/

/-- Function codes of the ground commands. -/
def noopCc : UInt16 := 0
def resetCountersCc : UInt16 := 1
def processCc : UInt16 := 2
def displayParamCc : UInt16 := 3

/-- Event identifiers. -/
def initInfEid : ℕ := 1
def ccErrEid : ℕ := 2
def noopInfEid : ℕ := 3
def resetInfEid : ℕ := 4
def midErrEid : ℕ := 5
def cmdLenErrEid : ℕ := 6
def valueInfEid : ℕ := 8
def crPipeErrEid : ℕ := 9
def subHkErrEid : ℕ := 10
def subCmdErrEid : ℕ := 11
def tableRegErrEid : ℕ := 12

def version : String := "v7.0.0" ++ "+dev" ++ "0"

/-- `FPRIME_GDS_PLATFORM_NUMBER_OF_TABLES`. -/
def numberOfTables : ℕ := 1

/-- What the mission configures: message IDs, the sizes of the cFE headers and the length of the
DISPLAY_PARAM string. -/
structure Config where
  cmdMid : MsgId
  sendHkMid : MsgId
  hkTlmMid : MsgId
  commandHeaderSize : ℕ
  telemetryHeaderSize : ℕ
  stringValLen : ℕ

namespace Config

/-- Size of the commands that are a bare header: `FPRIME_GDS_NoopCmd_t` and its like. -/
def noArgsCmdSize (config : Config) : ℕ := config.commandHeaderSize

/-- Size of `FPRIME_GDS_DisplayParamCmd_t`, whose payload is padded to its 32-bit member. -/
def displayParamCmdSize (config : Config) : ℕ :=
  config.commandHeaderSize + (4 + 2 + config.stringValLen + 3) / 4 * 4

/-- Size of `FPRIME_GDS_HkTlm_t`: its payload is the two counters and two spare bytes. -/
def hkTlmSize (config : Config) : ℕ := config.telemetryHeaderSize + 4

end Config

/-- `FPRIME_GDS_DisplayParam_Payload_t`. -/
structure DisplayParamPayload (stringValLen : ℕ) where
  valU32 : UInt32
  valI16 : Int16
  valStr : Vector UInt8 stringValLen
deriving DecidableEq, Repr

/-- A software bus message as `CFE_MSG_GetMsgId`, `CFE_MSG_GetFcnCode`, `CFE_MSG_GetSize` and the
casts of the handlers see it. -/
structure Message (stringValLen : ℕ) where
  msgId : MsgId
  fcnCode : UInt16
  size : ℕ
  payload : DisplayParamPayload stringValLen
deriving DecidableEq, Repr

/-! ## Global data -/

/-- `FPRIME_GDS_HkTlm_Payload_t`. -/
structure HkTlmPayload where
  commandCounter : UInt8
  commandErrorCounter : UInt8
  spare : Vector UInt8 2
deriving DecidableEq, Repr

namespace HkTlmPayload

def zero : HkTlmPayload := ⟨0, 0, ⟨#[0, 0], rfl⟩⟩

/-- As `FPRIME_GDS_HkTlm_t` has it after the telemetry header. -/
def bytes (hkTlm : HkTlmPayload) : List UInt8 :=
  hkTlm.commandCounter :: hkTlm.commandErrorCounter :: hkTlm.spare.toList

/-- In the data sheet `HkTlm_Payload` has no spare bytes. -/
def edsBytes (hkTlm : HkTlmPayload) : List UInt8 := [hkTlm.commandCounter, hkTlm.commandErrorCounter]

end HkTlmPayload

/-- `FPRIME_GDS_Data_t`; of the housekeeping packet the payload. -/
structure Data where
  cmdCounter : UInt8
  errCounter : UInt8
  hkTlm : HkTlmPayload
  runStatus : RunStatus
  commandPipe : UInt32
  tblHandles : Vector UInt32 numberOfTables
deriving DecidableEq, Repr

namespace Data

/-- All bytes zero. -/
def zero : Data := ⟨0, 0, .zero, .other 0, 0, Vector.replicate numberOfTables 0⟩

end Data

/-! ## Tables -/

/-- `FPRIME_GDS_ExampleTable_t`. -/
structure ExampleTable where
  int1 : UInt16
  int2 : UInt16
deriving DecidableEq, Repr

/-- Its size. -/
def exampleTableSize : ℕ := 4

/-- The options of `CFE_TBL_Register`, as far as they are used. -/
inductive TblOptions where
  | default
deriving DecidableEq, Repr

/-- `CFE_TBL_SrcEnum_t`, as far as it is used. -/
inductive TblSource where
  | file
deriving DecidableEq, Repr

/-- A `CFE_TBL_CallbackFuncPtr_t`: the functions of the application that check a table image. -/
inductive TblCallback where
  | tblValidationFunc
deriving DecidableEq, Repr

/-- What the table services answer while one message is handled. -/
structure TblServices where
  getAddress : Status
  table : ExampleTable
  getInfo : Status
  crc : UInt32
  releaseAddress : Status
deriving DecidableEq, Repr

/-! ## Actions -/

/-- The command handlers, which are also the entries of the EDS dispatch table. -/
inductive Handler where
  | sendHkCmd
  | noopCmd
  | resetCountersCmd
  | processCmd
  | displayParamCmd
deriving DecidableEq, Repr

inductive Counter where
  | cmdCounter
  | errCounter
deriving DecidableEq, Repr

/-- Registration for events asks for no filters. -/
inductive Action where
  | enter (handler : Handler)
  | increment (counter : Counter)
  | sendEvent (event : Event)
  | writeToSysLog (entry : SysLogEntry)
  | evsRegister
  | msgInit (msgId : MsgId) (size : ℕ)
  | createPipe (depth : ℕ) (name : String)
  | subscribe (msgId : MsgId) (pipe : UInt32)
  | tblRegister (name : String) (size : ℕ) (options : TblOptions) (validation : TblCallback)
  | tblLoad (handle : UInt32) (source : TblSource) (file : String)
  | timeStampMsg
  | transmitMsg (hkTlm : HkTlmPayload) (incrementSequence : Bool)
  | tblManage (handle : UInt32)
  | tblGetAddress (handle : UInt32)
  | tblGetInfo (tableName : String)
  | tblReleaseAddress (handle : UInt32)
  | sampleLibFunction
deriving DecidableEq, Repr

/-- A function of the application: it works on the global data. -/
abbrev AppExec := Exec Data Action

def enter (handler : Handler) : AppExec Unit := Exec.perform (.enter handler)

def sendEvent (eventId : ℕ) (eventType : EventType) (spec : String) (arguments : List Argument) :
    AppExec Unit := Exec.perform (.sendEvent ⟨eventId, eventType, spec, arguments⟩)

def writeToSysLog (spec : String) (arguments : List Argument) : AppExec Unit :=
  Exec.perform (.writeToSysLog ⟨spec, arguments⟩)

/-- `FPRIME_GDS_Data.CmdCounter++`. -/
def incrementCmdCounter : AppExec Unit := do
  Exec.modify fun data => { data with cmdCounter := data.cmdCounter + 1 }
  Exec.perform (.increment .cmdCounter)

/-- `FPRIME_GDS_Data.ErrCounter++`. -/
def incrementErrCounter : AppExec Unit := do
  Exec.modify fun data => { data with errCounter := data.errCounter + 1 }
  Exec.perform (.increment .errCounter)

section Equations

variable (data : Data)

@[simp] theorem run_enter (handler : Handler) :
    (enter handler).run data = ⟨(), data, [.enter handler]⟩ := rfl

@[simp] theorem run_sendEvent (eventId : ℕ) (eventType : EventType) (spec : String)
    (arguments : List Argument) : (sendEvent eventId eventType spec arguments).run data =
      ⟨(), data, [.sendEvent ⟨eventId, eventType, spec, arguments⟩]⟩ := rfl

@[simp] theorem run_writeToSysLog (spec : String) (arguments : List Argument) :
    (writeToSysLog spec arguments).run data = ⟨(), data, [.writeToSysLog ⟨spec, arguments⟩]⟩ := rfl

@[simp] theorem run_incrementCmdCounter : incrementCmdCounter.run data =
    ⟨(), { data with cmdCounter := data.cmdCounter + 1 }, [.increment .cmdCounter]⟩ := rfl

@[simp] theorem run_incrementErrCounter : incrementErrCounter.run data =
    ⟨(), { data with errCounter := data.errCounter + 1 }, [.increment .errCounter]⟩ := rfl

end Equations

end FprimeGds.Model.App
