import FprimeGds.Model.App.Main

/-! # What message handlers leave alone

The main loop shares the global data with every handler, but no handler touches the run status or the
command pipe, and none sends the events by which the loop and initialization report. This holds of both
dispatchers, and it is all the loop needs to know of them.
-/

namespace FprimeGds.Proofs.App

open Machine Model Model.Cfe Model.App

/-- The part of the global data the main loop depends on. -/
def Steady (runStatus : RunStatus) (commandPipe : UInt32) (data : Data) : Prop :=
  data.runStatus = runStatus ∧ data.commandPipe = commandPipe

/-- The events only `FPRIME_GDS_Init` and the main loop send. -/
def isStartupEvent : Action → Bool
  | .sendEvent event => event.eventId == initInfEid || event.eventId == pipeErrEid
  | _ => false

/-- What every message handler does to the data the main loop depends on, and says: nothing. -/
abbrev Routine (runStatus : RunStatus) (commandPipe : UInt32) {α : Type} (function : AppExec α) : Prop :=
  Exec.Confined (Steady runStatus commandPipe) (fun action => isStartupEvent action = false) function

section Handlers

variable {runStatus : RunStatus} {commandPipe : UInt32}

theorem sendEvent_routine {eventId : ℕ} (other : eventId ≠ initInfEid ∧ eventId ≠ pipeErrEid)
    (eventType : EventType) (spec : String) (arguments : List Argument) :
    Routine runStatus commandPipe (sendEvent eventId eventType spec arguments) := by
  apply Exec.Confined.perform
  rw [isStartupEvent, Bool.or_eq_false_iff]
  exact ⟨beq_false_of_ne other.1, beq_false_of_ne other.2⟩

theorem writeToSysLog_routine (spec : String) (arguments : List Argument) :
    Routine runStatus commandPipe (writeToSysLog spec arguments) := .perform rfl

theorem incrementCmdCounter_routine : Routine runStatus commandPipe incrementCmdCounter :=
  .bind (.modify fun _ steady => steady) fun _ => .perform rfl

theorem incrementErrCounter_routine : Routine runStatus commandPipe incrementErrCounter :=
  .bind (.modify fun _ steady => steady) fun _ => .perform rfl

theorem sendHkCmd_routine : Routine runStatus commandPipe sendHkCmd := by
  refine .bind (.perform rfl) fun _ => .bind (.modify fun _ steady => steady) fun _ =>
    .bind (.modify fun _ steady => steady) fun _ => .bind (.perform rfl) fun _ =>
    .bind .get fun _ => .bind (.perform rfl) fun _ => .bind (.forEach ?_ _) fun _ => .pure _
  exact fun _ => .perform rfl

theorem noopCmd_routine : Routine runStatus commandPipe noopCmd :=
  .bind (.perform rfl) fun _ => .bind incrementCmdCounter_routine fun _ =>
    .bind (sendEvent_routine (by decide) ..) fun _ => .pure _

theorem resetCountersCmd_routine : Routine runStatus commandPipe resetCountersCmd :=
  .bind (.perform rfl) fun _ => .bind (.modify fun _ steady => steady) fun _ =>
    .bind (.modify fun _ steady => steady) fun _ =>
    .bind (sendEvent_routine (by decide) ..) fun _ => .pure _

theorem getCrc_routine (services : TblServices) (tableName : String) :
    Routine runStatus commandPipe (getCrc services tableName) :=
  .bind (.perform rfl) fun _ => .ite (writeToSysLog_routine ..) (writeToSysLog_routine ..)

theorem processCmd_routine (services : TblServices) :
    Routine runStatus commandPipe (processCmd services) := by
  refine .bind (.perform rfl) fun _ => .bind incrementCmdCounter_routine fun _ => .bind .get fun _ =>
    .bind (.perform rfl) fun _ => .ite (.bind (writeToSysLog_routine ..) fun _ => .pure _) ?_
  exact .bind (writeToSysLog_routine ..) fun _ => .bind (getCrc_routine services _) fun _ =>
    .bind (.perform rfl) fun _ => .ite (.bind (writeToSysLog_routine ..) fun _ => .pure _)
      (.bind (.perform rfl) fun _ => .pure _)

theorem displayParamCmd_routine {stringValLen : ℕ} (message : Message stringValLen) :
    Routine runStatus commandPipe (displayParamCmd message) :=
  .bind (.perform rfl) fun _ => .bind incrementCmdCounter_routine fun _ =>
    .bind (sendEvent_routine (by decide) ..) fun _ => .pure _

variable (config : Config) (message : Message config.stringValLen)

theorem verifyCmdLength_routine (expectedLength : ℕ) :
    Routine runStatus commandPipe (verifyCmdLength config message expectedLength) :=
  .ite (.bind (sendEvent_routine (by decide) ..) fun _ => .bind incrementErrCounter_routine fun _ =>
    .pure _) (.pure _)

theorem processGroundCommand_routine (services : TblServices) :
    Routine runStatus commandPipe (processGroundCommand config services message) := by
  have verified {handler : AppExec Status} (routine : Routine runStatus commandPipe handler)
      (expectedLength : ℕ) : Routine runStatus commandPipe (do
        if ← verifyCmdLength config message expectedLength then
          let _ ← handler) :=
    .bind (verifyCmdLength_routine config message expectedLength) fun _ =>
      .ite (.bind routine fun _ => .pure _) (.pure _)
  exact .ite (verified noopCmd_routine _) (.ite (verified resetCountersCmd_routine _)
    (.ite (verified (processCmd_routine services) _) (.ite (verified (displayParamCmd_routine message) _)
      (sendEvent_routine (by decide) ..))))

theorem onData_routine {α : Type} {function : AppExec α} (routine : Routine runStatus commandPipe function) :
    Exec.Confined (fun state : PlainState => Steady runStatus commandPipe state.data)
      (fun action => isStartupEvent action = false) (onData function) :=
  .within (fun _ _ => rfl) routine

/-- The plain dispatcher and all handlers leave the run status and the command pipe alone. -/
theorem taskPipe_routine (bus : SoftwareBus) (services : TblServices) :
    Exec.Confined (fun state : PlainState => Steady runStatus commandPipe state.data)
      (fun action => isStartupEvent action = false) (taskPipe bus config services message) := by
  refine .bind (.bind .get fun _ => .ite (.modify fun _ steady => steady) (.pure _)) fun _ =>
    .bind .get fun _ => .ite ?_ (.ite ?_ ?_)
  · exact .bind (onData_routine sendHkCmd_routine) fun _ => .pure _
  · exact onData_routine (processGroundCommand_routine config message services)
  · exact onData_routine (sendEvent_routine (by decide) ..)

theorem dispatchTable_routine (services : TblServices) (handler : Handler) :
    Routine runStatus commandPipe (sampleTcDispatchTable config services message handler) := by
  cases handler with
  | sendHkCmd => exact sendHkCmd_routine
  | noopCmd => exact noopCmd_routine
  | resetCountersCmd => exact resetCountersCmd_routine
  | processCmd => exact processCmd_routine services
  | displayParamCmd => exact displayParamCmd_routine message

/-- So does the EDS dispatcher, whatever the generated function decides. -/
theorem edsTaskPipe_routine (codes : StatusCodes) (verdict : Message config.stringValLen → Verdict)
    (services : TblServices) :
    Routine runStatus commandPipe (edsTaskPipe codes config verdict services message) := by
  have dispatched : Routine runStatus commandPipe (edsDispatch config verdict services message) := by
    unfold edsDispatch
    cases verdict message with
    | reject status => exact .pure status
    | indicate handler => exact dispatchTable_routine config message services handler
  refine .bind dispatched fun status => .ite (.bind incrementErrCounter_routine fun _ => ?_) (.pure _)
  exact .ite (sendEvent_routine (by decide) ..) (.ite (sendEvent_routine (by decide) ..)
    (sendEvent_routine (by decide) ..))

end Handlers

/-! ## The builds -/

section Builds

variable {config : Config} {σ : Type}

/-- The dispatcher leaves alone what the loop depends on, and says nothing the loop would say. -/
def Neutral (build : Build config σ) : Prop :=
  ∀ runStatus commandPipe services message,
    Exec.Confined (fun state => Steady runStatus commandPipe (build.data state))
      (fun action => isStartupEvent action = false) (build.taskPipe services message)

theorem plain_neutral (bus : SoftwareBus) (config : Config) : Neutral (.plain bus config) :=
  fun _ _ services message => taskPipe_routine config message bus services

theorem eds_neutral (codes : StatusCodes) (verdict : Message config.stringValLen → Verdict) :
    Neutral (.eds codes config verdict) :=
  fun _ _ services message => edsTaskPipe_routine config message codes verdict services

end Builds

end FprimeGds.Proofs.App
