import FprimeGds.Machine.Deletion
import FprimeGds.Model.Bridge.Topology

/-! # The application entry point of the bridge

The answers of the initialization calls and, for every turn of the main loop, what cFE and the
dispatch of one message answer, are arguments. A loop whose turns are used up has not ended: a run of
the task so far is the run over the turns so far. When cFE deletes the task, it runs the installed
callback in the place of the rest.
-/

namespace FprimeGds.Model.Bridge

open Cfe Machine

/-- `FPrimeGdsEventIds`. -/
def initInfEid : ℕ := 1
def pipeErrEid : ℕ := 2
def subscribeErrEid : ℕ := 3

/-- The values of `ComCfg::Apid` the bridge subscribes to. -/
structure PacketApids where
  fwPacketDp : Apid
  fwPacketTelem : Apid
  fwPacketLog : Apid
  fwPacketPacketizedTlm : Apid
  fwPacketFile : Apid

def downlinkApids (apids : PacketApids) : List Apid :=
  [apids.fwPacketDp, apids.fwPacketTelem, apids.fwPacketLog, apids.fwPacketPacketizedTlm,
    apids.fwPacketFile]

/-- What the calls of `FPRIME_GDS_Init` answer; the subscriptions by their position. -/
structure InitServices where
  evsRegister : Status
  configure : Status
  subscribeCfs : ℕ → Status
  versionString : String

/-- `Fw::QueuedComponentBase::MsgDispatchStatus`: the values named in this repository, and all
others. -/
inductive MsgDispatchStatus where
  | msgDispatchOk
  | msgDispatchEmpty
  | msgDispatchExit
  | other (code : ℤ)
deriving DecidableEq, Repr

/-- One turn of the main loop: the exit cFE requests before it, and what the dispatch answers. -/
structure Turn where
  exitRequest : Option RunStatus
  process : MsgDispatchStatus
deriving DecidableEq, Repr

def sendEvent (eventId : ℕ) (eventType : EventType) (spec : String) (arguments : List Argument) :
    BridgeExec Unit := Exec.perform (.sendEvent ⟨eventId, eventType, spec, arguments⟩)

/-! ## Initialization -/

/-- Register for events, and configure the bridge if that worked. -/
def registerEvents (services : InitServices) : BridgeExec Status := do
  Exec.perform .evsRegister
  if services.evsRegister ≠ success then
    Exec.perform (.writeToSysLog ⟨"F Prime GDS App: Error Registering Events, RC = 0x%08lX\n",
      [.number services.evsRegister.toUnsignedLong]⟩)
    return services.evsRegister
  else
    Exec.perform (.configure 32 "FPRIME_GDS_CMD_PIPE" true true)
    ifFailure services.configure (sendEvent pipeErrEid .error
      "F Prime GDS App: Error creating SB Command Pipe, RC = 0x%08lX"
      [.number services.configure.toUnsignedLong])
    return services.configure

/-- The subscription loop from index `i` on, with the APIDs left and the variables it assigns. -/
def subscribeFrom (services : InitServices) : List Apid → ℕ → ℕ → Status → BridgeExec (ℕ × Status)
  | [], _, failedIndex, status => return (failedIndex, status)
  | apid :: rest, i, failedIndex, status =>
    if status = success then do
      Exec.perform (.subscribeCfs apid .telemetry)
      subscribeFrom services rest (i + 1) i (services.subscribeCfs i)
    else
      return (failedIndex, status)

/-- Subscribe to every APID, or report the one that failed. An index out of range is read only when
the table is empty, and then nothing has failed. -/
def subscribeAll (services : InitServices) (apids : List Apid) : BridgeExec Status := do
  let (failedIndex, status) ← subscribeFrom services apids 0 0 success
  ifFailure status (sendEvent subscribeErrEid .error
    "F Prime GDS App: Error subscribing to APID 0x%04X, RC = 0x%08lX"
    [.number (apids.getD failedIndex 0).toNat, .number status.toUnsignedLong])
  return status

/-- Install the teardown handler, bring up the topology and announce the application. -/
def bringUp (services : InitServices) (inputs : TopologyState) : BridgeExec Unit := do
  Exec.perform .installDeleteHandler
  setupTopology inputs
  sendEvent initInfEid .information "F Prime GDS App Initialized.%s" [.string services.versionString]

/-- `FPRIME_GDS_Init` for any table of downlink APIDs. -/
def init (services : InitServices) (apids : List Apid) (inputs : TopologyState) :
    BridgeExec Status := do
  let status ← registerEvents services
  let status ← ifSuccess status (subscribeAll services apids)
  ifSuccess status do
    bringUp services inputs
    return status

/-! ## The main loop -/

/-- What one dispatch does to the run status. -/
def processMessage (dispatched : MsgDispatchStatus) (runStatus : RunStatus) : BridgeExec RunStatus := do
  Exec.perform .process
  match dispatched with
  | .msgDispatchExit => return .appExit
  | .msgDispatchEmpty => return runStatus
  | .msgDispatchOk => return runStatus
  | .other code =>
    Exec.perform (.log "[WARNING] Failed to process a message in the queue: %d\n" [.number code])
    return runStatus

/-- The loop of `FPRIME_GDS_Main`. It leaves the run status, or nothing while it goes on. -/
def mainLoop : List Turn → RunStatus → BridgeExec (Option RunStatus)
  | [], _ => return none
  | turn :: rest, runStatus =>
    let (again, runStatus) := runLoop turn.exitRequest runStatus
    if again then do
      let runStatus ← processMessage turn.process runStatus
      cycleTopology
      Exec.perform (.delay 0 100)
      mainLoop rest runStatus
    else
      return some runStatus

def stopAndTeardown (inputs : TopologyState) : BridgeExec Unit := teardownTopology inputs

def shutdown (inputs : TopologyState) (status : RunStatus) : BridgeExec Unit := do
  stopAndTeardown inputs
  Exec.perform (.exitApp status)

/-- `FPRIME_GDS_delete_callback`. -/
def deleteCallback : BridgeExec Unit := do
  let inputs ← Exec.get
  stopAndTeardown inputs

/-- The loop and what follows it. -/
def mainTask (turns : List Turn) (inputs : TopologyState) : BridgeExec Unit := do
  match ← mainLoop turns .appRun with
  | none => return ()
  | some runStatus => shutdown inputs runStatus

/-- `FPRIME_GDS_Main`. -/
def main (apids : PacketApids) (services : InitServices) (turns : List Turn) : BridgeExec Unit := do
  Exec.perform .osInit
  Exec.modify fun state => { state with hostname := some "0.0.0.0" }
  Exec.modify fun state => { state with port := 15010 }
  let inputs ← Exec.get
  let status ← init services (downlinkApids apids) inputs
  if status ≠ success then
    Exec.perform (.exitApp .appError)
  else
    mainTask turns inputs

/-! ## Deletion -/

section Deletion

variable (apids : PacketApids) (services : InitServices) (turns : List Turn)

/-- The calls of a task nobody deletes. -/
def program : List Action := ((main apids services turns).run .zero).trace

/-- The calls of the delete callback. The topology state is assigned before the callback is installed
and not again, so it finds the state the task leaves. -/
def callback : List Action := (deleteCallback.run ((main apids services turns).run .zero).state).trace

def deleteHandlerInstalled (calls : List Action) : Prop := .installDeleteHandler ∈ calls

instance (calls : List Action) : Decidable (deleteHandlerInstalled calls) :=
  inferInstanceAs (Decidable (_ ∈ calls))

/-- The application at some point of its life, deleted at most once. -/
def Life (task : DeletableTask Action) : Prop :=
  DeletableTask.Reachable deleteHandlerInstalled (callback apids services turns) (program apids services turns)
    task

end Deletion

end FprimeGds.Model.Bridge
