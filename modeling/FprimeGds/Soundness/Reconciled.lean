import FprimeGds.Machine.Monitor
import FprimeGds.Soundness.Accounting

/-! # Housekeeping packets reconcile with what the application was seen to do

Counters are incremented where nobody sees it. What is seen are events, table accesses and the packets
that show the counters, and these agree: a packet holds the numbers of command reports and of error
reports since the last report of a reset. This is about what the application does only, so it needs
nothing of the messages, of the services or of the generated dispatch function.
-/

namespace FprimeGds.Soundness.Reconciled

open Machine Model Model.Cfe Model.App Proofs.App ApplicationRun Accounting

variable {config : Config}

/-! ## What is reported -/

section Reports

def isResetReport : Action → Bool
  | .sendEvent event => event.eventId == resetInfEid
  | _ => false

/-- A command that counts shows by its event, and PROCESS, which has none, by its table access. -/
def isCommandReport : Action → Bool
  | .sendEvent event => event.eventId == noopInfEid || event.eventId == valueInfEid
  | .tblGetAddress _ => true
  | _ => false

/-- The events that never go with a counted error. -/
def otherEids : List ℕ := startupEids ++ [noopInfEid, resetInfEid, valueInfEid, pipeErrEid]

/-- The events of a build that go with a counted error. -/
structure ErrorEvents where
  eids : List ℕ
  separate : ∀ eid ∈ eids, eid ∉ otherEids

/-- The plain dispatcher counts wrong lengths only. -/
def plainErrors : ErrorEvents := ⟨[cmdLenErrEid], by decide⟩

def edsErrors : ErrorEvents := ⟨[midErrEid, cmdLenErrEid, ccErrEid], by decide⟩

variable (errors : ErrorEvents)

def isErrorReport : Action → Bool
  | .sendEvent event => errors.eids.contains event.eventId
  | _ => false

/-- The packet that a reader of these actions expects. -/
def expected (seen : List Action) : HkTlmPayload where
  commandCounter := UInt8.ofNat (tally isResetReport isCommandReport seen)
  commandErrorCounter := UInt8.ofNat (tally isResetReport (isErrorReport errors) seen)
  spare := HkTlmPayload.zero.spare

/-- Every packet transmitted is the one expected of the actions before it. -/
def Reconciles (actions : List Action) : Prop :=
  (summarize actions).transmitted = answers isTransmit (expected errors) actions

/-- The expectation, kept from action to action. -/
def expectNext (told : HkTlmPayload) (action : Action) : HkTlmPayload where
  commandCounter := count isResetReport isCommandReport told.commandCounter action
  commandErrorCounter := count isResetReport (isErrorReport errors) told.commandErrorCounter action
  spare := told.spare

/-- A reader objects to a packet other than the one expected. -/
def reader : Monitor HkTlmPayload Action
  | told, .transmitMsg hkTlm _ => if hkTlm = told then some told else none
  | told, action => some (expectNext errors told action)

variable {errors}

theorem expectNext_expected (seen : List Action) (action : Action) :
    expectNext errors (expected errors seen) action = expected errors (seen ++ [action]) := by
  have commands := count_tally isResetReport isCommandReport seen action
  have failures := count_tally isResetReport (isErrorReport errors) seen action
  rw [expectNext, expected, commands, failures]
  rfl

theorem transmitted_snoc (seen : List Action) (action : Action) :
    (summarize (seen ++ [action])).transmitted =
      (summarize seen).transmitted ++ (summarize [action]).transmitted := by
  rw [summarize_append]
  rfl

/-- Packets that the reader does not object to are the ones expected. -/
theorem reconciles_of_accepts {actions : List Action}
    (accepts : (reader errors).Accepts .zero actions) : Reconciles errors actions := by
  obtain ⟨told, read⟩ := Option.isSome_iff_exists.mp accepts
  have holds := Monitor.watch_history
    (fun seen told => told = expected errors seen ∧ Reconciles errors seen) ⟨rfl, rfl⟩ ?_ read
  · exact holds.2
  rintro seen action _ next ⟨rfl, earlier⟩ taken
  have kept : expectNext errors (expected errors seen) action = _ := expectNext_expected seen action
  rw [Reconciles] at earlier ⊢
  rw [transmitted_snoc, answers_snoc, earlier]
  cases action with
  | transmitMsg hkTlm sequence =>
    obtain ⟨rfl, shown⟩ := Option.ite_none_right_eq_some.mp taken
    obtain rfl := Option.some.inj shown
    exact ⟨kept, rfl⟩
  | _ =>
    obtain rfl := Option.some.inj taken
    exact ⟨kept, rfl⟩

end Reports

/-! ## Handlers -/

section Handlers

variable (errors : ErrorEvents)

/-- What is expected is what the counters hold. -/
def Agrees (told : HkTlmPayload) (data : Data) : Prop :=
  told = ⟨data.cmdCounter, data.errCounter, data.hkTlm.spare⟩

/-- Whatever a function counts it also reports, and it telemeters nothing in between. -/
abbrev Reporting {α : Type} (function : AppExec α) : Prop :=
  Exec.Obeys (reader errors) Agrees function fun _ => Agrees

/-- An action that reports nothing. -/
def Quiet (action : Action) : Prop := ∀ told, reader errors told action = some told

variable {errors}

theorem isErrorReport_eq_false {eventId : ℕ} (other : eventId ∈ otherEids) {eventType : EventType}
    {spec : String} {arguments : List Argument} :
    isErrorReport errors (.sendEvent ⟨eventId, eventType, spec, arguments⟩) = false := by
  rw [isErrorReport, ← Bool.not_eq_true, List.contains_iff_mem]
  exact fun member => errors.separate _ member other

theorem quiet_event {event : Event} (noReset : isResetReport (.sendEvent event) = false)
    (noCommand : isCommandReport (.sendEvent event) = false)
    (noError : isErrorReport errors (.sendEvent event) = false) : Quiet errors (.sendEvent event) := by
  intro told
  have unchanged : expectNext errors told (.sendEvent event) = told := by
    simp only [expectNext, count, noReset, noCommand, noError, Bool.false_eq_true, if_false]
  exact congrArg some unchanged

theorem quiet_perform {action : Action} (quiet : Quiet errors action) :
    Reporting errors (Exec.perform action) :=
  .perform fun told _ agrees => ⟨told, quiet told, agrees⟩

theorem writeToSysLog_reporting {spec : String} {arguments : List Argument} :
    Reporting errors (writeToSysLog spec arguments) := quiet_perform fun _ => rfl

/-- A counted command that has not been reported. -/
def CommandAhead (told : HkTlmPayload) (data : Data) : Prop :=
  Agrees { told with commandCounter := told.commandCounter + 1 } data

/-- A counted error that has not been reported. -/
def ErrorAhead (told : HkTlmPayload) (data : Data) : Prop :=
  Agrees { told with commandErrorCounter := told.commandErrorCounter + 1 } data

/-- A reported error that has not been counted. -/
def ErrorBehind (told : HkTlmPayload) (data : Data) : Prop :=
  Agrees told { data with errCounter := data.errCounter + 1 }

theorem reader_of_silent {action : Action} (silent : isTransmit action = false) (told : HkTlmPayload) :
    reader errors told action = some (expectNext errors told action) := by
  cases action with
  | transmitMsg hkTlm sequence => exact absurd silent.symm Bool.false_ne_true
  | _ => rfl

/-- A report of a command makes up for it. -/
theorem report_command {action : Action} (silent : isTransmit action = false)
    (noReset : isResetReport action = false) (command : isCommandReport action = true)
    (noError : isErrorReport errors action = false) :
    Exec.Obeys (reader errors) CommandAhead (Exec.perform action) fun _ => Agrees := by
  apply Exec.Obeys.perform
  intro told data ahead
  have next : expectNext errors told action = { told with commandCounter := told.commandCounter + 1 } := by
    simp only [expectNext, count, noReset, command, noError, Bool.false_eq_true, if_false, if_true]
  refine ⟨_, reader_of_silent silent told, ?_⟩
  rw [next]
  exact ahead

/-- And so does an error event for an error. -/
theorem report_error {eventId : ℕ} {eventType : EventType} {spec : String} {arguments : List Argument}
    (error : eventId ∈ errors.eids) (noReset : (eventId == resetInfEid) = false)
    (noCommand : (eventId == noopInfEid || eventId == valueInfEid) = false) :
    Exec.Obeys (reader errors) ErrorAhead (sendEvent eventId eventType spec arguments) fun _ => Agrees := by
  apply Exec.Obeys.perform
  intro told data ahead
  have counted : errors.eids.contains eventId = true := List.contains_iff_mem.mpr error
  have next : expectNext errors told (.sendEvent ⟨eventId, eventType, spec, arguments⟩) =
      { told with commandErrorCounter := told.commandErrorCounter + 1 } := by
    simp only [expectNext, count, isResetReport, isCommandReport, isErrorReport, noReset, noCommand, counted,
      Bool.false_eq_true, if_false, if_true]
  refine ⟨_, reader_of_silent rfl told, ?_⟩
  rw [next]
  exact ahead

theorem incrementCmdCounter_obeys :
    Exec.Obeys (reader errors) Agrees incrementCmdCounter fun _ => CommandAhead := by
  have counted : Exec.Obeys (reader errors) Agrees
      (Exec.modify fun data => { data with cmdCounter := data.cmdCounter + 1 }) fun _ => CommandAhead := by
    apply Exec.Obeys.modify
    rintro _ data rfl
    rfl
  exact .bind counted fun _ => .perform fun told _ ahead => ⟨told, rfl, ahead⟩

theorem incrementErrCounter_obeys :
    Exec.Obeys (reader errors) Agrees incrementErrCounter fun _ => ErrorAhead := by
  have counted : Exec.Obeys (reader errors) Agrees
      (Exec.modify fun data => { data with errCounter := data.errCounter + 1 }) fun _ => ErrorAhead := by
    apply Exec.Obeys.modify
    rintro _ data rfl
    rfl
  exact .bind counted fun _ => .perform fun told _ ahead => ⟨told, rfl, ahead⟩

/-- An error reported first and counted then. -/
theorem incrementErrCounter_settles :
    Exec.Obeys (reader errors) ErrorBehind incrementErrCounter fun _ => Agrees :=
  .bind (.modify fun _ _ behind => behind) fun _ => .perform fun told _ agrees => ⟨told, rfl, agrees⟩

theorem sendHkCmd_reporting : Reporting errors sendHkCmd := by
  -- once both counters are copied the packet is the one expected
  have copied : Exec.Obeys (reader errors) Agrees
      (Exec.modify fun data => { data with hkTlm := { data.hkTlm with commandErrorCounter := data.errCounter } })
      fun _ told data => Agrees told data ∧ told.commandErrorCounter = data.hkTlm.commandErrorCounter := by
    apply Exec.Obeys.modify
    rintro _ data rfl
    exact ⟨rfl, rfl⟩
  have ready : Exec.Obeys (reader errors)
      (fun told data => Agrees told data ∧ told.commandErrorCounter = data.hkTlm.commandErrorCounter)
      (Exec.modify fun data => { data with hkTlm := { data.hkTlm with commandCounter := data.cmdCounter } })
      fun _ told data => Agrees told data ∧ told = data.hkTlm := by
    apply Exec.Obeys.modify
    rintro _ data ⟨rfl, errorCounter⟩
    refine ⟨rfl, ?_⟩
    dsimp only at errorCounter ⊢
    rw [errorCounter]
  have stamped : Exec.Obeys (reader errors) (fun told data => Agrees told data ∧ told = data.hkTlm)
      (Exec.perform .timeStampMsg) fun _ told data => Agrees told data ∧ told = data.hkTlm :=
    .perform fun told _ holds => ⟨told, rfl, holds⟩
  refine .bind (quiet_perform fun _ => rfl) fun _ => .bind copied fun _ => .bind ready fun _ =>
    .bind stamped fun _ => ?_
  intro told data holds
  have sent : Exec.Obeys (reader errors) (fun told' data' => Agrees told' data' ∧ told' = data.hkTlm)
      (do
        Exec.perform (.transmitMsg data.hkTlm true)
        Exec.forEach (fun index => Exec.perform (.tblManage (data.tblHandles.get index)))
          (List.finRange numberOfTables)
        return success) fun _ => Agrees :=
    .bind (.perform fun told _ start => ⟨told, if_pos start.2.symm, start.1⟩) fun _ =>
      .bind (.forEach (fun _ => quiet_perform fun _ => rfl) _) fun _ => .pure fun _ _ agrees => agrees
  exact sent told data holds

theorem noopCmd_reporting : Reporting errors noopCmd :=
  .bind (quiet_perform fun _ => rfl) fun _ => .bind incrementCmdCounter_obeys fun _ =>
    .bind (report_command rfl rfl rfl (isErrorReport_eq_false (by decide))) fun _ =>
    .pure fun _ _ agrees => agrees

theorem resetCountersCmd_reporting : Reporting errors resetCountersCmd := by
  rintro _ data rfl
  exact ⟨⟨0, 0, data.hkTlm.spare⟩, rfl, rfl⟩

theorem getCrc_reporting (tables : TblServices) (tableName : String) :
    Reporting errors (getCrc tables tableName) :=
  .bind (quiet_perform fun _ => rfl) fun _ => .ite (fun _ => writeToSysLog_reporting)
    fun _ => writeToSysLog_reporting

theorem processCmd_reporting (tables : TblServices) : Reporting errors (processCmd tables) := by
  refine .bind (quiet_perform fun _ => rfl) fun _ => .bind incrementCmdCounter_obeys fun _ =>
    .read fun _ => .bind (report_command rfl rfl rfl rfl) fun _ =>
    .ite (fun _ => .bind writeToSysLog_reporting fun _ => .pure fun _ _ agrees => agrees) fun _ =>
    .bind writeToSysLog_reporting fun _ => .bind (getCrc_reporting tables _) fun _ =>
    .bind (quiet_perform fun _ => rfl) fun _ => ?_
  exact .ite (fun _ => .bind writeToSysLog_reporting fun _ => .pure fun _ _ agrees => agrees)
    fun _ => .bind (quiet_perform fun _ => rfl) fun _ => .pure fun _ _ agrees => agrees

theorem displayParamCmd_reporting {stringValLen : ℕ} (message : Message stringValLen) :
    Reporting errors (displayParamCmd message) :=
  .bind (quiet_perform fun _ => rfl) fun _ => .bind incrementCmdCounter_obeys fun _ =>
    .bind (report_command rfl rfl rfl (isErrorReport_eq_false (by decide))) fun _ =>
    .pure fun _ _ agrees => agrees

theorem dispatchTable_reporting {tables : TblServices} {message : Message config.stringValLen}
    (handler : Handler) : Reporting errors (sampleTcDispatchTable config tables message handler) := by
  cases handler with
  | sendHkCmd => exact sendHkCmd_reporting
  | noopCmd => exact noopCmd_reporting
  | resetCountersCmd => exact resetCountersCmd_reporting
  | processCmd => exact processCmd_reporting tables
  | displayParamCmd => exact displayParamCmd_reporting message

end Handlers

/-! ## The dispatchers -/

section Dispatchers

/-- The plain dispatcher reports an error before it counts it. -/
theorem verifyCmdLength_reporting (message : Message config.stringValLen) (expectedLength : ℕ) :
    Reporting plainErrors (verifyCmdLength config message expectedLength) := by
  have reported {spec : String} {arguments : List Argument} : Exec.Obeys (reader plainErrors) Agrees
      (sendEvent cmdLenErrEid .error spec arguments) fun _ => ErrorBehind := by
    apply Exec.Obeys.perform
    rintro _ data rfl
    exact ⟨_, rfl, rfl⟩
  exact .ite (fun _ => .bind reported fun _ => .bind incrementErrCounter_settles fun _ =>
    .pure fun _ _ agrees => agrees) fun _ => .pure fun _ _ agrees => agrees

theorem processGroundCommand_reporting (tables : TblServices) (message : Message config.stringValLen) :
    Reporting plainErrors (processGroundCommand config tables message) := by
  have verified (handler : Handler) (expectedLength : ℕ) : Reporting plainErrors (do
      if ← verifyCmdLength config message expectedLength then
        let _ ← sampleTcDispatchTable config tables message handler) :=
    .bind (verifyCmdLength_reporting message expectedLength) fun _ =>
      .ite (fun _ => .bind (dispatchTable_reporting handler) fun _ => .pure fun _ _ agrees => agrees)
        fun _ => .pure fun _ _ agrees => agrees
  exact .ite (fun _ => verified .noopCmd _) fun _ => .ite (fun _ => verified .resetCountersCmd _) fun _ =>
    .ite (fun _ => verified .processCmd _) fun _ => .ite (fun _ => verified .displayParamCmd _) fun _ =>
    quiet_perform fun _ => rfl

/-- The EDS dispatcher counts an error before it reports it. -/
theorem edsTaskPipe_reporting (codes : StatusCodes) (verdict : Message config.stringValLen → Verdict)
    (tables : TblServices) (message : Message config.stringValLen) :
    Reporting edsErrors (edsTaskPipe codes config verdict tables message) := by
  have dispatched : Reporting edsErrors (edsDispatch config verdict tables message) := by
    unfold edsDispatch
    cases verdict message with
    | reject status => exact .pure fun _ _ agrees => agrees
    | indicate handler => exact dispatchTable_reporting handler
  exact .bind dispatched fun status => .ite (fun _ => .bind incrementErrCounter_obeys fun _ =>
    .ite (fun _ => report_error (by decide) rfl rfl) fun _ =>
    .ite (fun _ => report_error (by decide) rfl rfl) fun _ => report_error (by decide) rfl rfl)
    fun _ => .pure fun _ _ agrees => agrees

theorem taskPipe_reporting (bus : SoftwareBus) (tables : TblServices) (message : Message config.stringValLen) :
    Exec.Obeys (reader plainErrors) (fun told state => Agrees told state.data)
      (taskPipe bus config tables message) fun _ told state => Agrees told state.data := by
  have onData {α : Type} {function : AppExec α} (reporting : Reporting plainErrors function) :
      Exec.Obeys (reader plainErrors) (fun told (state : PlainState) => Agrees told state.data)
        (onData function) fun _ told state => Agrees told state.data :=
    .within (fun _ _ => rfl) reporting
  have looked : Exec.Obeys (reader plainErrors) (fun told (state : PlainState) => Agrees told state.data)
      (cacheMids bus config) fun _ told state => Agrees told state.data :=
    .read fun _ => .ite (fun _ => .modify fun _ _ agrees => agrees) fun _ => .pure fun _ _ agrees => agrees
  refine .bind looked fun _ => .read fun _ => .ite (fun _ => ?_) fun _ => .ite (fun _ => ?_) fun _ => ?_
  · exact .bind (onData sendHkCmd_reporting) fun _ => .pure fun _ _ agrees => agrees
  · exact onData (processGroundCommand_reporting tables message)
  · exact onData (quiet_perform fun _ => rfl)

end Dispatchers

/-! ## Whole runs -/

section Runs

variable {errors : ErrorEvents}

theorem startup_quiet {action : Action} (startup : IsStartup action) : Quiet errors action := by
  cases action with
  | sendEvent event =>
    have other : ∀ eid ∈ startupEids, (eid == resetInfEid) = false ∧
        (eid == noopInfEid || eid == valueInfEid) = false := by decide
    obtain ⟨noReset, noCommand⟩ := other event.eventId startup
    exact quiet_event noReset noCommand (isErrorReport_eq_false (List.mem_append_left _ startup))
  | evsRegister | msgInit _ _ | createPipe _ _ | subscribe _ _ | tblRegister _ _ _ _ | tblLoad _ _ _
  | writeToSysLog _ =>
    exact fun _ => rfl
  | _ => exact startup.elim

theorem runPlain_read (bus : SoftwareBus) (inputs : List (Input config)) (state : PlainState)
    {told : HkTlmPayload} {data : Data} (agrees : Agrees told data) :
    ∃ next, (reader plainErrors).watch told ((runPlain bus inputs).run { state with data := data }).trace =
      some next := by
  obtain ⟨next, read, _⟩ := Exec.Obeys.forEach
    (fun input : Input config => taskPipe_reporting bus input.services input.message) inputs told
    { state with data := data } agrees
  exact ⟨next, read⟩

theorem runEds_read (codes : StatusCodes) (verdict : Message config.stringValLen → Verdict)
    (inputs : List (Input config)) {told : HkTlmPayload} {data : Data} (agrees : Agrees told data) :
    ∃ next, (reader edsErrors).watch told ((runEds codes verdict inputs).run data).trace = some next := by
  obtain ⟨next, read, _⟩ := Exec.Obeys.forEach
    (fun input : Input config => edsTaskPipe_reporting codes verdict input.services input.message)
    inputs told data agrees
  exact ⟨next, read⟩

theorem init_agrees (services : InitServices) (data : Data) :
    Agrees .zero ((init config services).run data).state := by
  obtain ⟨cmdCounter, errCounter, hkTlm⟩ := init_zeroed config services data
  rw [Agrees, cmdCounter, errCounter, hkTlm]
  rfl

/-- A dispatcher that reports what it counts makes a run that reconciles. -/
theorem reconciles_outcome (services : InitServices) (turns : List (Turn config)) (data : Data)
    {dispatched : List Action} {told : HkTlmPayload}
    (read : (reader errors).watch .zero dispatched = some told) :
    Reconciles errors (outcome services turns ((init config services).run data).trace dispatched) := by
  have startup : (reader errors).watch .zero ((init config services).run data).trace = some .zero :=
    Monitor.watch_of_fixed fun action member =>
      startup_quiet (init_startup config services data action member) .zero
  have ended : (reader errors).watch told (receiveReport turns) = some told := by
    apply Monitor.watch_of_fixed
    intro action member
    rw [receiveReport] at member
    split_ifs at member
    · obtain rfl := List.mem_singleton.mp member
      exact quiet_event rfl rfl (isErrorReport_eq_false (by decide)) told
    · exact absurd member List.not_mem_nil
  apply reconciles_of_accepts
  rw [outcome, Monitor.Accepts, Monitor.watch_append_of_eq startup]
  split_ifs with initializes
  · rw [Monitor.watch_append_of_eq read, ended]
    rfl
  · rfl

/-- In either build, from any state, whatever the services answer and whatever the generated dispatch
function decides, each housekeeping packet of a whole run holds the numbers, modulo 256, of the command
reports and of the error reports made since the last report of a reset. -/
theorem application_reconciles (config : Config) (services : InitServices) (bus : SoftwareBus)
    (codes : StatusCodes) (verdict : Message config.stringValLen → Verdict) (turns : List (Turn config))
    (state : PlainState) (data : Data) :
    Reconciles plainErrors (appActions (((Build.plain bus config).main services turns).run state).trace) ∧
      Reconciles edsErrors
        (appActions (((Build.eds codes config verdict).main services turns).run data).trace) := by
  refine ⟨?_, ?_⟩
  · rw [appActions_plain]
    obtain ⟨told, read⟩ := runPlain_read bus (delivered turns) state (init_agrees services state.data)
    exact reconciles_outcome services turns state.data read
  · rw [appActions_eds]
    obtain ⟨told, read⟩ := runEds_read codes verdict (delivered turns) (init_agrees services data)
    exact reconciles_outcome services turns data read

end Runs

end FprimeGds.Soundness.Reconciled
