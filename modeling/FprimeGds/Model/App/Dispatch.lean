import FprimeGds.Model.App.Cmds

/-! # The plain dispatcher

`FPRIME_GDS_TaskPipe` keeps the two message IDs it compares with in static variables, so its state is
the global data together with that cache. Which message IDs are valid is decided by cFE; the one the
cache starts from is not.
-/

namespace FprimeGds.Model.App

open Cfe Machine

/-- `CFE_SB_IsValidMsgId` and `CFE_SB_MSGID_RESERVED`. -/
structure SoftwareBus where
  isValidMsgId : MsgId → Bool
  msgIdReserved : MsgId
  reserved_invalid : isValidMsgId msgIdReserved = false

/-- The static variables of `FPRIME_GDS_TaskPipe`. -/
structure MidCache where
  cmdMid : MsgId
  sendHkMid : MsgId
deriving DecidableEq, Repr

/-- Global data and statics of the plain build. -/
structure PlainState where
  data : Data
  cache : MidCache
deriving DecidableEq, Repr

/-- The plain build before its first message. -/
def PlainState.cold (bus : SoftwareBus) (data : Data) : PlainState :=
  ⟨data, ⟨bus.msgIdReserved, bus.msgIdReserved⟩⟩

/-- Run a function that touches the global data only. -/
def onData {α : Type} (function : AppExec α) : Exec PlainState Action α :=
  Exec.within PlainState.data (fun data state => { state with data := data }) function

variable (bus : SoftwareBus) (config : Config)

def verifyCmdLength (message : Message config.stringValLen) (expectedLength : ℕ) : AppExec Bool := do
  if expectedLength ≠ message.size then
    sendEvent cmdLenErrEid .error "Invalid Msg length: ID = 0x%X,  CC = %u, Len = %u, Expected = %u"
      [.number message.msgId.toNat, .number message.fcnCode.toNat,
        .number (toUnsignedInt message.size), .number (toUnsignedInt expectedLength)]
    incrementErrCounter
    return false
  else
    return true

def processGroundCommand (services : TblServices) (message : Message config.stringValLen) : AppExec Unit := do
  let commandCode := message.fcnCode
  if commandCode = noopCc then
    if ← verifyCmdLength config message config.noArgsCmdSize then
      let _ ← noopCmd
  else if commandCode = resetCountersCc then
    if ← verifyCmdLength config message config.noArgsCmdSize then
      let _ ← resetCountersCmd
  else if commandCode = processCc then
    if ← verifyCmdLength config message config.noArgsCmdSize then
      let _ ← processCmd services
  else if commandCode = displayParamCc then
    if ← verifyCmdLength config message config.displayParamCmdSize then
      let _ ← displayParamCmd message
  else
    sendEvent ccErrEid .error "Invalid ground command code: CC = %d" [.number commandCode.toNat]

/-- Look the message IDs up, unless that has been done. -/
def cacheMids : Exec PlainState Action Unit := do
  let state ← Exec.get
  if bus.isValidMsgId state.cache.cmdMid = false then
    Exec.modify fun state => { state with cache := ⟨config.cmdMid, config.sendHkMid⟩ }

def taskPipe (services : TblServices) (message : Message config.stringValLen) :
    Exec PlainState Action Unit := do
  cacheMids bus config
  let state ← Exec.get
  if message.msgId = state.cache.sendHkMid then
    let _ ← onData sendHkCmd
  else if message.msgId = state.cache.cmdMid then
    onData (processGroundCommand config services message)
  else
    onData (sendEvent midErrEid .error "SAMPLE: invalid command packet,MID = 0x%x"
      [.number message.msgId.toNat])

/-- A message together with what the table services answer while it is handled. -/
structure Input (config : Config) where
  message : Message config.stringValLen
  services : TblServices
deriving DecidableEq, Repr

variable {config} in
/-- One message after another. -/
def runPlain (inputs : List (Input config)) : Exec PlainState Action Unit :=
  Exec.forEach (fun input => taskPipe bus config input.services input.message) inputs

end FprimeGds.Model.App
