import FprimeGds.Machine.Relational
import FprimeGds.Soundness.Accounting
import FprimeGds.Soundness.ServiceUse

/-! # Messages are answered without regard to what came before

Apart from the counters, which only a housekeeping packet shows, nothing the application has done
decides what it does next. A run of either build is its initialization and then, for each message
delivered, what the build does for that message alone. What the table services are asked for can
therefore be read off the messages one by one.
-/

namespace FprimeGds.Soundness.Memoryless

open Machine Model Model.Cfe Model.App Proofs.App ApplicationRun Accounting ServiceUse

variable {config : Config} {services : InitServices}

/-- What is seen of an action: of a housekeeping packet only that it is transmitted. -/
def seen : Action → Action
  | .transmitMsg _ incrementSequence => .transmitMsg .zero incrementSequence
  | action => action

/-! ## Handlers -/

section Handlers

/-- What is seen depends only on what initialization was given. -/
abbrev Independent {α : Type} (services : InitServices) (function : AppExec α) : Prop :=
  Exec.Memoryless seen (Given services) function

theorem perform_independent (action : Action) : Independent services (Exec.perform action) := .perform rfl

theorem modify_independent {update : Data → Data}
    (kept : ∀ data, Given services data → Given services (update data)) :
    Independent services (Exec.modify update) :=
  .modify fun _ _ start => ⟨kept _ start.1, kept _ start.2⟩

theorem sendEvent_independent {eventId : ℕ} {eventType : EventType} {spec : String}
    {arguments : List Argument} : Independent services (sendEvent eventId eventType spec arguments) :=
  perform_independent _

theorem writeToSysLog_independent {spec : String} {arguments : List Argument} :
    Independent services (writeToSysLog spec arguments) := perform_independent _

theorem incrementCmdCounter_independent : Independent services incrementCmdCounter :=
  .bind (modify_independent fun _ given => given) fun _ => perform_independent _

theorem incrementErrCounter_independent : Independent services incrementErrCounter :=
  .bind (modify_independent fun _ given => given) fun _ => perform_independent _

theorem sendHkCmd_independent : Independent services sendHkCmd := by
  refine .bind (perform_independent _) fun _ => .bind (modify_independent fun _ given => given) fun _ =>
    .bind (modify_independent fun _ given => given) fun _ => .bind (perform_independent _) fun _ =>
    .get_bind fun first second given => .bind (.perform rfl) fun _ => .bind (.forEach ?_ _) fun _ => .pure _
  intro index
  apply Exec.Alike.perform
  rw [given.1.2 index, given.2.2 index]

theorem noopCmd_independent : Independent services noopCmd :=
  .bind (perform_independent _) fun _ => .bind incrementCmdCounter_independent fun _ =>
    .bind sendEvent_independent fun _ => .pure _

theorem resetCountersCmd_independent : Independent services resetCountersCmd :=
  .bind (perform_independent _) fun _ => .bind (modify_independent fun _ given => given) fun _ =>
    .bind (modify_independent fun _ given => given) fun _ => .bind sendEvent_independent fun _ => .pure _

theorem getCrc_independent (tables : TblServices) (tableName : String) :
    Independent services (getCrc tables tableName) :=
  .bind (perform_independent _) fun _ => .ite (fun _ => writeToSysLog_independent)
    fun _ => writeToSysLog_independent

theorem processCmd_independent (tables : TblServices) : Independent services (processCmd tables) := by
  refine .bind (perform_independent _) fun _ => .bind incrementCmdCounter_independent fun _ =>
    .get_bind fun first second given => ?_
  have handles : first.tblHandles.get ⟨0, Nat.one_pos⟩ = second.tblHandles.get ⟨0, Nat.one_pos⟩ :=
    (given.1.2 _).trans (given.2.2 _).symm
  dsimp only
  rw [handles]
  refine .bind (perform_independent _) fun _ =>
    .ite (fun _ => .bind writeToSysLog_independent fun _ => .pure _) fun _ =>
    .bind writeToSysLog_independent fun _ => .bind (getCrc_independent tables _) fun _ =>
    .bind (perform_independent _) fun _ => ?_
  exact .ite (fun _ => .bind writeToSysLog_independent fun _ => .pure _)
    fun _ => .bind (perform_independent _) fun _ => .pure _

theorem displayParamCmd_independent {stringValLen : ℕ} (message : Message stringValLen) :
    Independent services (displayParamCmd message) :=
  .bind (perform_independent _) fun _ => .bind incrementCmdCounter_independent fun _ =>
    .bind sendEvent_independent fun _ => .pure _

theorem dispatchTable_independent {tables : TblServices} {message : Message config.stringValLen}
    (handler : Handler) : Independent services (sampleTcDispatchTable config tables message handler) := by
  cases handler with
  | sendHkCmd => exact sendHkCmd_independent
  | noopCmd => exact noopCmd_independent
  | resetCountersCmd => exact resetCountersCmd_independent
  | processCmd => exact processCmd_independent tables
  | displayParamCmd => exact displayParamCmd_independent message

theorem verifyCmdLength_independent (message : Message config.stringValLen) (expectedLength : ℕ) :
    Independent services (verifyCmdLength config message expectedLength) :=
  .ite (fun _ => .bind sendEvent_independent fun _ => .bind incrementErrCounter_independent fun _ =>
    .pure _) fun _ => .pure _

theorem processGroundCommand_independent {tables : TblServices} {message : Message config.stringValLen} :
    Independent services (processGroundCommand config tables message) := by
  have verified (handler : Handler) (expectedLength : ℕ) : Independent services (do
      if ← verifyCmdLength config message expectedLength then
        let _ ← sampleTcDispatchTable config tables message handler) :=
    .bind (verifyCmdLength_independent message expectedLength) fun _ =>
      .ite (fun _ => .bind (dispatchTable_independent handler) fun _ => .pure _) fun _ => .pure _
  exact .ite (fun _ => verified .noopCmd _) fun _ => .ite (fun _ => verified .resetCountersCmd _) fun _ =>
    .ite (fun _ => verified .processCmd _) fun _ => .ite (fun _ => verified .displayParamCmd _) fun _ =>
    sendEvent_independent

end Handlers

/-! ## The dispatchers -/

section Dispatchers

/-- The plain dispatcher on one message, once its cache is no matter. -/
def plainStep (config : Config) (input : Input config) : AppExec Unit :=
  uncachedTaskPipe config input.services input.message

def edsStep (codes : StatusCodes) (verdict : Message config.stringValLen → Verdict) (input : Input config) :
    AppExec Unit := edsTaskPipe codes config verdict input.services input.message

theorem plainStep_independent (input : Input config) : Independent services (plainStep config input) :=
  .ite (fun _ => .bind sendHkCmd_independent fun _ => .pure _) fun _ =>
    .ite (fun _ => processGroundCommand_independent) fun _ => sendEvent_independent

theorem edsStep_independent (codes : StatusCodes) (verdict : Message config.stringValLen → Verdict)
    (input : Input config) : Independent services (edsStep codes verdict input) := by
  have dispatched : Independent services (edsDispatch config verdict input.services input.message) := by
    unfold edsDispatch
    cases verdict input.message with
    | reject status => exact .pure status
    | indicate handler => exact dispatchTable_independent handler
  exact .bind dispatched fun status => .ite (fun _ => .bind incrementErrCounter_independent fun _ =>
    .ite (fun _ => sendEvent_independent) fun _ => .ite (fun _ => sendEvent_independent) fun _ =>
    sendEvent_independent) fun _ => .pure _

/-- What is seen of a dispatcher when a message comes right after initialization. -/
def response (services : InitServices) (step : Input config → AppExec Unit) (input : Input config) :
    List Action := ((step input).run ((init config services).run .zero).state).trace.map seen

end Dispatchers

/-! ## Whole runs -/

section Runs

variable (config services)

/-- Initialization zeroes the global data first, so it depends on nothing before it. -/
theorem init_run_zero (data : Data) : (init config services).run data = (init config services).run .zero := by
  have zeroed : zeroData.run data = zeroData.run .zero := rfl
  have later (rest : Unit → AppExec Status) : (zeroData >>= rest).run data = (zeroData >>= rest).run .zero := by
    rw [Exec.run_bind, zeroed]
    rfl
  exact later _

variable {config services}

theorem given_of_initializes (initializes : Initializes services) (data : Data) :
    Given services ((init config services).run data).state := by
  have obeys : Exec.Obeys (appUse services config) _ (init config services) _ := init_obeys
  obtain ⟨_, _, reached⟩ := obeys _ data ⟨rfl, trivial⟩
  exact (reached.1 ((initializes_iff data).mpr initializes)).2

theorem seen_receiveReport (turns : List (Turn config)) :
    (receiveReport turns).map seen = receiveReport turns := by
  rw [receiveReport]
  split_ifs
  · rfl
  · rfl

/-- What is seen of a run, from what is seen of its parts. -/
theorem seen_outcome (turns : List (Turn config)) (initialized dispatched : List Action) :
    (outcome services turns initialized dispatched).map seen =
      outcome services turns (initialized.map seen) (dispatched.map seen) := by
  rw [outcome, outcome, List.map_append]
  split_ifs
  · rw [List.map_append, seen_receiveReport]
  · rfl

/-- A dispatcher that looks at nothing else answers every message as if it were the first. -/
theorem seen_dispatched {step : Input config → AppExec Unit}
    (independent : ∀ input, Independent services (step input)) (turns : List (Turn config)) (data : Data)
    (initialized : List Action) :
    outcome services turns initialized
        (((Exec.forEach step (delivered turns)).run ((init config services).run data).state).trace.map seen) =
      outcome services turns initialized ((delivered turns).flatMap (response services step)) := by
  rw [outcome, outcome]
  refine congrArg (_ ++ ·) ?_
  split_ifs with initializes
  · rw [Exec.forEach_memoryless independent (given_of_initializes initializes .zero)
      (given_of_initializes initializes data)]
    rfl
  · rfl

section Builds

variable (config : Config) (services : InitServices) (turns : List (Turn config)) (data : Data)

theorem seen_plain (bus : SoftwareBus) :
    (appActions (((Build.plain bus config).main services turns).run (.cold bus data)).trace).map seen =
      outcome services turns (((init config services).run .zero).trace.map seen)
        ((delivered turns).flatMap (response services (plainStep config))) := by
  rw [appActions_cold, seen_outcome, init_run_zero]
  exact seen_dispatched plainStep_independent turns .zero _

theorem seen_eds (codes : StatusCodes) (verdict : Message config.stringValLen → Verdict) :
    (appActions (((Build.eds codes config verdict).main services turns).run data).trace).map seen =
      outcome services turns (((init config services).run .zero).trace.map seen)
        ((delivered turns).flatMap (response services (edsStep codes verdict))) := by
  rw [appActions_eds, seen_outcome, init_run_zero]
  exact seen_dispatched (edsStep_independent codes verdict) turns .zero _

end Builds

/-- What is seen of a run of either build is its initialization, the same whatever came before it, and
then for each message delivered what that build does for the message when it comes first. -/
theorem application_memoryless (config : Config) (services : InitServices) (bus : SoftwareBus)
    (codes : StatusCodes) (verdict : Message config.stringValLen → Verdict) (turns : List (Turn config))
    (data : Data) :
    let initialized := ((init config services).run .zero).trace.map seen
    (appActions (((Build.plain bus config).main services turns).run (.cold bus data)).trace).map seen =
        outcome services turns initialized
          ((delivered turns).flatMap (response services (plainStep config))) ∧
      (appActions (((Build.eds codes config verdict).main services turns).run data).trace).map seen =
        outcome services turns initialized
          ((delivered turns).flatMap (response services (edsStep codes verdict))) :=
  ⟨seen_plain config services turns data bus, seen_eds config services turns data codes verdict⟩

end Runs

end FprimeGds.Soundness.Memoryless
