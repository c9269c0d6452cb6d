import FprimeGds.Model.App.Build
import FprimeGds.Model.App.Init

/-! # The main loop of the C application

`fprime_gds.c` is the same in both builds, so the entry point is a function of the build. Initialization,
the loop and the dispatcher share one global structure, and the loop reads its guard from the data every
handler has worked on. Each turn brings what cFE requests before it, what the software bus answers, and
the message the buffer pointer is left at, which is a message even where nothing was received. As in the
bridge, a loop whose turns are used up has not ended.
-/

namespace FprimeGds.Model.App

open Cfe Machine

/-- `FPRIME_GDS_PIPE_ERR_EID`. -/
def pipeErrEid : ℕ := 7

/-- `FPRIME_GDS_PERF_ID`. -/
def perfId : ℕ := 91

/-- What `FPRIME_GDS_Main` does itself, and the actions of the functions it calls. The receive waits
for ever; the call of the dispatcher is on record with its message. -/
inductive MainAction (config : Config) where
  | app (action : Action)
  | perfLogEntry (id : ℕ)
  | perfLogExit (id : ℕ)
  | receiveBuffer (pipe : UInt32)
  | taskPipe (message : Message config.stringValLen)
  | exitApp (status : RunStatus)
deriving DecidableEq, Repr

/-- One turn of the loop. -/
structure Turn (config : Config) where
  exitRequest : Option RunStatus
  receiveBuffer : Status
  input : Input config
deriving DecidableEq, Repr

variable {config : Config}

namespace Build

variable {σ : Type} (build : Build config σ)

/-- Call a function that works on the global data. -/
def call {α : Type} (function : AppExec α) : Exec σ (MainAction config) α :=
  Exec.relabel .app (Exec.within build.data build.setData function)

theorem call_bind_trace {α β : Type} (function : AppExec α)
    (rest : α → Exec σ (MainAction config) β) (state : σ) :
    ((build.call function >>= rest).run state).trace =
      (function.run (build.data state)).trace.map .app ++
        ((rest (function.run (build.data state)).value).run
          (build.setData (function.run (build.data state)).state state)).trace := rfl

/-- Call the dispatcher: the call goes on record, and then what the dispatcher does. -/
def dispatch (input : Input config) : Exec σ (MainAction config) Unit := do
  Exec.perform (.taskPipe input.message)
  Exec.relabel .app (build.taskPipe input.services input.message)

/-- `FPRIME_GDS_Data.RunStatus = ...`. -/
def setRunStatus (status : RunStatus) : Exec σ (MainAction config) Unit :=
  Exec.modify fun state => build.setData { build.data state with runStatus := status } state

/-- The body of the loop. -/
def receiveAndDispatch (turn : Turn config) : Exec σ (MainAction config) Unit := do
  Exec.perform (.perfLogExit perfId)
  let state ← Exec.get
  Exec.perform (.receiveBuffer (build.data state).commandPipe)
  Exec.perform (.perfLogEntry perfId)
  if turn.receiveBuffer = success then
    build.dispatch turn.input
  else
    build.call (sendEvent pipeErrEid .error "FPRIME APP: SB Pipe Read Error, App Will Exit" [])
    build.setRunStatus .appError

/-- The loop, and whether it has ended. -/
def mainLoop : List (Turn config) → Exec σ (MainAction config) Bool
  | [] => return false
  | turn :: rest => do
    let state ← Exec.get
    let (again, runStatus) := runLoop turn.exitRequest (build.data state).runStatus
    build.setRunStatus runStatus
    if again then
      build.receiveAndDispatch turn
      mainLoop rest
    else
      return true

/-- The loop and what follows it. -/
def mainTask (turns : List (Turn config)) : Exec σ (MainAction config) Unit := do
  if ← build.mainLoop turns then
    Exec.perform (.perfLogExit perfId)
    let state ← Exec.get
    Exec.perform (.exitApp (build.data state).runStatus)

/-- What follows initialization: if it failed, the loop is left at its first guard. -/
def afterInit (status : Status) (turns : List (Turn config)) : Exec σ (MainAction config) Unit := do
  if status ≠ success then
    build.setRunStatus .appError
  build.mainTask turns

/-- `FPRIME_GDS_Main`. -/
def main (services : InitServices) (turns : List (Turn config)) :
    Exec σ (MainAction config) Unit := do
  Exec.perform (.perfLogEntry perfId)
  let status ← build.call (init config services)
  build.afterInit status turns

end Build

/-- `FPRIME_GDS_Main` of the plain build. -/
abbrev main (bus : SoftwareBus) (services : InitServices) (turns : List (Turn config)) :
    Exec PlainState (MainAction config) Unit := (Build.plain bus config).main services turns

end FprimeGds.Model.App
