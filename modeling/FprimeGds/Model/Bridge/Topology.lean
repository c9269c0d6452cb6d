import FprimeGds.Model.Cfe

/-! # The bridge topology and what driving it does

Nothing of the topology is modelled beyond the calls its three functions make, in their order. Entering
and leaving each function is an action of its own, so that a run can be cut inside it. The calls of
the application entry point, which are on the same record, are listed here too.
-/

namespace FprimeGds.Model.Bridge

open Cfe Machine

/-- A value of the enumeration `ComCfg::Apid`. -/
abbrev Apid := UInt32

/-- `FprimeGds::TopologyState`; a null hostname is none. -/
structure TopologyState where
  hostname : Option String
  port : UInt16
deriving DecidableEq, Repr

namespace TopologyState

/-- Static storage before `FPRIME_GDS_Main` runs. -/
def zero : TopologyState := ⟨none, 0⟩

end TopologyState

inductive TopologyFunction where
  | setupTopology
  | cycleTopology
  | teardownTopology
deriving DecidableEq, Repr

/-- A call of generated topology code or of a component. -/
inductive TopologyCall where
  | initComponents (state : TopologyState)
  | setBaseIds
  | connectComponents
  | configComponents (state : TopologyState)
  | comDriverConfigure (hostname : String) (port : UInt16)
  | startTimer (seconds microseconds : ℕ)
  | loadParameters
  | startTasks (state : TopologyState)
  | comDriverStart (name : String) (priority stackSize : ℕ)
  | pollingTimerCycle
  | stopTasks (state : TopologyState)
  | freeThreads (state : TopologyState)
  | pollingTimerStop
  | comDriverTerminate
  | comDriverStop
  | comDriverJoin
  | tearDownComponents (state : TopologyState)
deriving DecidableEq, Repr

/-- `FPrimeCfs::CfsBridge::CfsMessageType`, as far as it is used. -/
inductive CfsMessageType where
  | telemetry
deriving DecidableEq, Repr

inductive Action where
  | enter (function : TopologyFunction)
  | leave (function : TopologyFunction)
  | topology (call : TopologyCall)
  | osInit
  | evsRegister
  | configure (pipeDepth : ℕ) (pipeName : String) (secondaryHeader checksum : Bool)
  | subscribeCfs (apid : Apid) (messageType : CfsMessageType)
  | writeToSysLog (entry : SysLogEntry)
  | sendEvent (event : Event)
  | installDeleteHandler
  | process
  | log (spec : String) (arguments : List Argument)
  | delay (seconds microseconds : ℕ)
  | exitApp (status : RunStatus)
deriving DecidableEq, Repr

/-- A function of the bridge: it works on `g_topologyState`. -/
abbrev BridgeExec := Exec TopologyState Action

def topology (call : TopologyCall) : BridgeExec Unit := Exec.perform (.topology call)

/-- A topology function with its entry and return on record. -/
def within (function : TopologyFunction) (body : BridgeExec Unit) : BridgeExec Unit := do
  Exec.perform (.enter function)
  body
  Exec.perform (.leave function)

/-- `if (state.hostname != nullptr && state.port != 0)` around a use of the hostname. -/
def ifAddressed (state : TopologyState) (use : String → BridgeExec Unit) : BridgeExec Unit :=
  match state.hostname with
  | none => return ()
  | some hostname => if state.port ≠ 0 then use hostname else return ()

def configureTopology : BridgeExec Unit := topology (.startTimer 1 0)

def cycleTopology : BridgeExec Unit := within .cycleTopology (topology .pollingTimerCycle)

def setupTopology (state : TopologyState) : BridgeExec Unit := within .setupTopology do
  topology (.initComponents state)
  topology .setBaseIds
  topology .connectComponents
  topology (.configComponents state)
  ifAddressed state fun hostname => topology (.comDriverConfigure hostname state.port)
  configureTopology
  topology .loadParameters
  topology (.startTasks state)
  ifAddressed state fun _ => topology (.comDriverStart "ReceiveTask" 34 (64 * 1024))

def teardownTopology (state : TopologyState) : BridgeExec Unit := within .teardownTopology do
  topology (.stopTasks state)
  topology (.freeThreads state)
  topology .pollingTimerStop
  topology .comDriverTerminate
  topology .comDriverStop
  topology .comDriverJoin
  topology (.tearDownComponents state)

end FprimeGds.Model.Bridge
