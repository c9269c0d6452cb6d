import FprimeGds.Model.App.Data

/-! # Initialization of the C application

The services answer with a status each; pipe creation and table registration also store an
identifier. The blocks of `FPRIME_GDS_Init` have their own names here. Each of them runs only if the
status so far is success, and leaves the status of the last service it called.
-/

namespace FprimeGds.Model.App

open Cfe Machine

/-- What the services called by `FPRIME_GDS_Init` answer. -/
structure InitServices where
  evsRegister : Status
  createPipe : Status
  commandPipe : UInt32
  subscribeSendHk : Status
  subscribeCmd : Status
  tblRegister : Status
  tblHandle : UInt32
  tblLoad : Status
  versionString : String
deriving DecidableEq, Repr

/-- An error event that carries the status of the service that failed. -/
def reportFailure (status : Status) (eventId : ℕ) (spec : String) : AppExec Unit :=
  ifFailure status (sendEvent eventId .error spec [.number status.toUnsignedLong])

/-- Zero out the global data and start out running. -/
def zeroData : AppExec Unit := do
  Exec.modify fun _ => .zero
  Exec.modify fun data => { data with runStatus := .appRun }

/-- Initialize the housekeeping packet and create the command pipe. -/
def createCommandPipe (config : Config) (services : InitServices) : AppExec Status := do
  Exec.perform (.msgInit config.hkTlmMid config.hkTlmSize)
  Exec.modify fun data => { data with hkTlm := .zero }
  Exec.perform (.createPipe 32 "FPRIME_GDS_CMD_PIPE")
  Exec.modify fun data => { data with commandPipe := services.commandPipe }
  reportFailure services.createPipe crPipeErrEid
    "F Prime App: Error creating SB Command Pipe, RC = 0x%08lX"
  return services.createPipe

/-- Register for events, and go on to the pipe if that worked. -/
def registerEvents (config : Config) (services : InitServices) : AppExec Status := do
  Exec.perform .evsRegister
  if services.evsRegister ≠ success then
    writeToSysLog "F Prime App: Error Registering Events, RC = 0x%08lX\n"
      [.number services.evsRegister.toUnsignedLong]
    return services.evsRegister
  else
    createCommandPipe config services

/-- Subscribe to one message ID. -/
def subscribe (msgId : MsgId) (answer : Status) (eventId : ℕ) (spec : String) : AppExec Status := do
  let data ← Exec.get
  Exec.perform (.subscribe msgId data.commandPipe)
  reportFailure answer eventId spec
  return answer

/-- Load the registered table, or report that it was not registered. -/
def loadTable (services : InitServices) : AppExec Status := do
  if services.tblRegister ≠ success then
    sendEvent tableRegErrEid .error "F Prime App: Error Registering Example Table, RC = 0x%08lX"
      [.number services.tblRegister.toUnsignedLong]
    return services.tblRegister
  else
    let data ← Exec.get
    Exec.perform (.tblLoad (data.tblHandles.get ⟨0, Nat.one_pos⟩) .file "/cf/fprime_gds_tbl.tbl")
    return services.tblLoad

/-- Register and load the table, and announce the application whatever came of it. -/
def registerTables (services : InitServices) : AppExec Status := do
  Exec.perform (.tblRegister "ExampleTable" exampleTableSize .default .tblValidationFunc)
  Exec.modify fun data =>
    { data with tblHandles := data.tblHandles.set 0 services.tblHandle Nat.one_pos }
  let status ← loadTable services
  sendEvent initInfEid .information "F Prime App Initialized.%s" [.string services.versionString]
  return status

def init (config : Config) (services : InitServices) : AppExec Status := do
  zeroData
  let status ← registerEvents config services
  let status ← ifSuccess status (subscribe config.sendHkMid services.subscribeSendHk subHkErrEid
    "F Prime App: Error Subscribing to HK request, RC = 0x%08lX")
  let status ← ifSuccess status (subscribe config.cmdMid services.subscribeCmd subCmdErrEid
    "F Prime App: Error Subscribing to Commands, RC = 0x%08lX")
  ifSuccess status (registerTables services)

end FprimeGds.Model.App
