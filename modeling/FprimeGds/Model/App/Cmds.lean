import FprimeGds.Model.App.Utils

/-! # The command handlers

Each handler returns a status although only the EDS dispatcher reads it. Table services are called
for the one example table; what they answer comes with the message. The order of increments, events
and service calls is the source's.
-/

namespace FprimeGds.Model.App

open Cfe Machine

/-- Housekeeping request: telemeter the counters, then manage the tables. -/
def sendHkCmd : AppExec Status := do
  enter .sendHkCmd
  Exec.modify fun data =>
    { data with hkTlm := { data.hkTlm with commandErrorCounter := data.errCounter } }
  Exec.modify fun data =>
    { data with hkTlm := { data.hkTlm with commandCounter := data.cmdCounter } }
  Exec.perform .timeStampMsg
  let data ← Exec.get
  Exec.perform (.transmitMsg data.hkTlm true)
  Exec.forEach (fun index => Exec.perform (.tblManage (data.tblHandles.get index)))
    (List.finRange numberOfTables)
  return success

def noopCmd : AppExec Status := do
  enter .noopCmd
  incrementCmdCounter
  sendEvent noopInfEid .information "SAMPLE: NOOP command %s" [.string version]
  return success

def resetCountersCmd : AppExec Status := do
  enter .resetCountersCmd
  Exec.modify fun data => { data with cmdCounter := 0 }
  Exec.modify fun data => { data with errCounter := 0 }
  sendEvent resetInfEid .information "SAMPLE: RESET command" []
  return success

def processCmd (services : TblServices) : AppExec Status := do
  enter .processCmd
  incrementCmdCounter
  let data ← Exec.get
  let handle := data.tblHandles.get ⟨0, Nat.one_pos⟩
  Exec.perform (.tblGetAddress handle)
  if services.getAddress < success then
    writeToSysLog "Sample App: Fail to get table address: 0x%08lx"
      [.number services.getAddress.toUnsignedLong]
    return services.getAddress
  else
    writeToSysLog "Sample App: Example Table Value 1: %d  Value 2: %d"
      [.number services.table.int1.toNat, .number services.table.int2.toNat]
    getCrc services "FPRIME_GDS.ExampleTable"
    Exec.perform (.tblReleaseAddress handle)
    if services.releaseAddress ≠ success then
      writeToSysLog "Sample App: Fail to release table address: 0x%08lx"
        [.number services.releaseAddress.toUnsignedLong]
    else
      Exec.perform .sampleLibFunction
    return services.releaseAddress

def displayParamCmd {stringValLen : ℕ} (message : Message stringValLen) : AppExec Status := do
  enter .displayParamCmd
  incrementCmdCounter
  sendEvent valueInfEid .information "FPRIME_GDS: ValU32=%lu, ValI16=%d, ValStr=%s"
    [.number message.payload.valU32.toNat, .number message.payload.valI16.toInt,
      .chars message.payload.valStr.toList]
  return success

end FprimeGds.Model.App
