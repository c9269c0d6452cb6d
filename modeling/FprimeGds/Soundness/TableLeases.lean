import FprimeGds.Soundness.Memoryless

/-! # The example table is leased and given back

Of a run of either build all calls of the table services follow from the services and from the messages:
the table is registered and loaded in initialization, managed for each housekeeping request and leased for
each PROCESS command. A lease that was granted ends before the next message comes.
-/

namespace FprimeGds.Soundness.TableLeases

open Machine Model Model.Cfe Model.App Proofs.App ApplicationRun Accounting ServiceUse Memoryless

variable {config : Config} (services : InitServices)

def isTable : Action → Bool
  | .tblRegister _ _ _ _ => true
  | .tblLoad _ _ _ => true
  | .tblManage _ => true
  | .tblGetAddress _ => true
  | .tblGetInfo _ => true
  | .tblReleaseAddress _ => true
  | _ => false

/-- The calls of the table services. -/
def tableCalls (trace : List Action) : List Action := trace.filter isTable

/-- The table is registered if all services before were there, and loaded if it was registered. -/
def startupTables : List Action :=
  if services.evsRegister = success ∧ services.createPipe = success ∧ services.subscribeSendHk = success ∧
      services.subscribeCmd = success then
    .tblRegister "ExampleTable" exampleTableSize .default .tblValidationFunc ::
      if services.tblRegister = success then
        [.tblLoad services.tblHandle .file "/cf/fprime_gds_tbl.tbl"]
      else []
  else []

/-- A lease that is granted is looked up and given back. -/
def lease (tables : TblServices) : List Action :=
  .tblGetAddress services.tblHandle ::
    if tables.getAddress < success then []
    else [.tblGetInfo "FPRIME_GDS.ExampleTable", .tblReleaseAddress services.tblHandle]

/-- What a handler asks of the table services. -/
def handlerTables (tables : TblServices) : Handler → List Action
  | .sendHkCmd => [.tblManage services.tblHandle]
  | .processCmd => lease services tables
  | .noopCmd | .resetCountersCmd | .displayParamCmd => []

/-- The plain build asks for what the handler a message is for needs. -/
def plainTables (input : Input config) : List Action :=
  match disposition config input.message with
  | .execute handler => handlerTables services input.services handler
  | .wrongLength | .unknownCode | .unknownMsgId => []

/-- The EDS build asks for what the handler that is called needs. -/
def edsTables (verdict : Message config.stringValLen → Verdict) (input : Input config) : List Action :=
  match verdict input.message with
  | .indicate handler => handlerTables services input.services handler
  | .reject _ => []

/-! ## Handlers and dispatchers -/

section Dispatchers

variable {services} {data : Data} (given : Given services data)

theorem tableCalls_append (first second : List Action) :
    tableCalls (first ++ second) = tableCalls first ++ tableCalls second := List.filter_append ..

theorem tableCalls_seen (trace : List Action) : tableCalls (trace.map seen) = tableCalls trace := by
  induction trace with
  | nil => rfl
  | cons action rest ih =>
    rw [List.map_cons, tableCalls, tableCalls, List.filter_cons, List.filter_cons]
    change (if _ then _ :: tableCalls _ else tableCalls _) = if _ then _ :: tableCalls _ else tableCalls _
    rw [ih]
    cases action <;> rfl

include given

theorem processCmd_tables (tables : TblServices) :
    tableCalls ((processCmd tables).run data).trace = lease services tables := by
  have handle := given.2 ⟨0, Nat.one_pos⟩
  unfold processCmd lease getCrc
  simp only [Exec.run_bind, Exec.run_ite, run_enter, run_incrementCmdCounter, Exec.run_get,
    Exec.run_perform, run_writeToSysLog, Exec.run_pure, handle]
  split_ifs
  all_goals rfl

theorem handler_tables (tables : TblServices) (message : Message config.stringValLen) (handler : Handler) :
    tableCalls ((sampleTcDispatchTable config tables message handler).run data).trace =
      handlerTables services tables handler := by
  cases handler with
  | sendHkCmd =>
    change [Action.tblManage (data.tblHandles.get ⟨0, Nat.one_pos⟩)] = _
    rw [given.2]
    rfl
  | processCmd => exact processCmd_tables given tables
  | noopCmd | resetCountersCmd | displayParamCmd => rfl

/-- A length check asks for nothing itself. -/
theorem verified_tables (tables : TblServices) (message : Message config.stringValLen) (handler : Handler) :
    tableCalls (((do
      if ← verifyCmdLength config message (config.sizeOf handler) then
        let _ ← sampleTcDispatchTable config tables message handler) : AppExec Unit).run data).trace =
      if config.sizeOf handler = message.size then handlerTables services tables handler else [] := by
  rw [verified_run]
  split_ifs with exact
  · exact handler_tables given tables message handler
  · unfold verifyCmdLength
    rw [if_pos exact]
    rfl

theorem plainStep_tables (input : Input config) :
    tableCalls ((plainStep config input).run data).trace = plainTables services input := by
  have verified (handler : Handler) := verified_tables given input.services input.message handler
  have asked (handler : Handler) : (match if config.sizeOf handler = input.message.size then
        Disposition.execute handler else .wrongLength with
      | .execute handler => handlerTables services input.services handler
      | .wrongLength | .unknownCode | .unknownMsgId => []) =
      if config.sizeOf handler = input.message.size then handlerTables services input.services handler
      else [] := by
    split_ifs
    · rfl
    · rfl
  unfold plainStep uncachedTaskPipe plainTables disposition
  split_ifs with housekeeping command
  · exact handler_tables given input.services input.message .sendHkCmd
  · unfold processGroundCommand groundHandler
    dsimp only
    split_ifs
    · exact (verified .noopCmd).trans (asked .noopCmd).symm
    · exact (verified .resetCountersCmd).trans (asked .resetCountersCmd).symm
    · exact (verified .processCmd).trans (asked .processCmd).symm
    · exact (verified .displayParamCmd).trans (asked .displayParamCmd).symm
    · rfl
  · rfl

theorem edsStep_tables (codes : StatusCodes) (verdict : Message config.stringValLen → Verdict)
    (input : Input config) :
    tableCalls ((edsStep codes verdict input).run data).trace = edsTables services verdict input := by
  have dispatched : tableCalls ((edsDispatch config verdict input.services input.message).run data).trace =
      edsTables services verdict input := by
    unfold edsDispatch edsTables
    cases verdict input.message with
    | reject status => rfl
    | indicate handler => exact handler_tables given input.services input.message handler
  unfold edsStep edsTaskPipe
  rw [Exec.run_bind]
  dsimp only
  rw [tableCalls_append, dispatched]
  -- counting and reporting a failure asks for nothing
  split_ifs
  all_goals exact List.append_nil _

end Dispatchers

/-! ## Whole runs -/

section Runs

/-- Initialization, as far as the table services are asked. -/
def startupAsked (services : InitServices) : Exec Unit Action Status := do
  let status ← ifSuccess services.evsRegister (pure services.createPipe)
  let status ← ifSuccess status (pure services.subscribeSendHk)
  let status ← ifSuccess status (pure services.subscribeCmd)
  ifSuccess status do
    Exec.perform (.tblRegister "ExampleTable" exampleTableSize .default .tblValidationFunc)
    ifSuccess services.tblRegister do
      Exec.perform (.tblLoad services.tblHandle .file "/cf/fprime_gds_tbl.tbl")
      return services.tblLoad

variable {services}

theorem startupAsked_tables :
    tableCalls ((startupAsked services).run ()).trace = startupTables services := by
  unfold startupAsked startupTables ifSuccess
  by_cases registered : services.evsRegister = success
  · by_cases piped : services.createPipe = success
    · by_cases housekeeping : services.subscribeSendHk = success
      · by_cases commands : services.subscribeCmd = success
        · by_cases tables : services.tblRegister = success
          all_goals simp [registered, piped, housekeeping, commands, tables, tableCalls, isTable]
        · simp [registered, piped, housekeeping, commands, tableCalls]
      · simp [registered, piped, housekeeping, tableCalls]
    · simp [registered, piped, tableCalls]
  · simp [registered, tableCalls]

variable (config)

theorem registerEvents_asked : Exec.Refines isTable (registerEvents config services)
    (ifSuccess services.evsRegister (pure services.createPipe) : Exec Unit Action Status) := by
  intro data rest
  unfold registerEvents createCommandPipe reportFailure ifFailure ifSuccess
  by_cases registered : services.evsRegister = success
  · by_cases piped : services.createPipe = success
    all_goals
      simp only [registered, piped, ne_eq, not_true_eq_false, not_false_eq_true, if_true, if_false]
      exact ⟨rfl, rfl⟩
  · simp only [registered, ne_eq, not_false_eq_true, if_true, if_false]
    exact ⟨rfl, rfl⟩

theorem subscribe_asked (msgId : MsgId) (answer : Status) (eventId : ℕ) (spec : String) :
    Exec.Refines isTable (subscribe msgId answer eventId spec) (pure answer : Exec Unit Action Status) := by
  intro data rest
  unfold subscribe reportFailure ifFailure
  by_cases subscribed : answer = success
  all_goals
    simp only [subscribed, ne_eq, not_true_eq_false, not_false_eq_true, if_true, if_false]
    exact ⟨rfl, rfl⟩

theorem registerTables_asked : Exec.Refines isTable (registerTables services) (do
    Exec.perform (.tblRegister "ExampleTable" exampleTableSize .default .tblValidationFunc)
    ifSuccess services.tblRegister do
      Exec.perform (.tblLoad services.tblHandle .file "/cf/fprime_gds_tbl.tbl")
      return services.tblLoad : Exec Unit Action Status) := by
  intro data rest
  have stored : (data.tblHandles.set 0 services.tblHandle Nat.one_pos).get ⟨0, Nat.one_pos⟩ =
      services.tblHandle := Vector.getElem_set_self ..
  unfold registerTables loadTable ifSuccess
  by_cases registered : services.tblRegister = success
  all_goals
    simp only [registered, ne_eq, not_true_eq_false, not_false_eq_true, if_true, if_false, Exec.run_bind,
      Exec.run_perform, Exec.run_modify, Exec.run_get, stored]
    exact ⟨rfl, rfl⟩

theorem ifSuccess_asked {block : AppExec Status} {abstract : Exec Unit Action Status}
    (asked : Exec.Refines isTable block abstract) (status : Status) :
    Exec.Refines isTable (ifSuccess status block) (ifSuccess status abstract) := by
  unfold ifSuccess
  split_ifs
  · exact asked
  · exact .pure status

theorem init_tables : tableCalls ((init config services).run .zero).trace = startupTables services := by
  have asked : Exec.Refines isTable (init config services) (startupAsked services) :=
    .skip (.bind (.modify _) fun _ => .modify _) fun _ => .bind (registerEvents_asked config) fun status =>
      .bind (ifSuccess_asked (subscribe_asked _ _ _ _) status) fun status =>
      .bind (ifSuccess_asked (subscribe_asked _ _ _ _) status) fun status =>
      ifSuccess_asked registerTables_asked status
  exact (asked .zero ()).2.trans startupAsked_tables

variable {config}

theorem tableCalls_receiveReport (turns : List (Turn config)) : tableCalls (receiveReport turns) = [] := by
  rw [receiveReport]
  split_ifs
  · rfl
  · rfl

theorem tableCalls_outcome (turns : List (Turn config)) (initialized dispatched : List Action) :
    tableCalls (outcome services turns initialized dispatched) =
      tableCalls initialized ++ if Initializes services then tableCalls dispatched else [] := by
  rw [outcome, tableCalls_append]
  split_ifs
  · rw [tableCalls_append, tableCalls_receiveReport, List.append_nil]
  · rfl

/-- A build whose answer to each message asks for `tables` asks for these over a whole run. -/
theorem tableCalls_of_memoryless {calls : List Action} {turns : List (Turn config)}
    {step : Input config → AppExec Unit} {tables : Input config → List Action}
    (asks : ∀ input data, Given services data → tableCalls ((step input).run data).trace = tables input)
    (run : calls.map seen = outcome services turns (((init config services).run .zero).trace.map seen)
      ((delivered turns).flatMap (response services step))) :
    tableCalls calls = startupTables services ++
      if Initializes services then (delivered turns).flatMap tables else [] := by
  rw [← tableCalls_seen, run, tableCalls_outcome, tableCalls_seen, init_tables]
  refine congrArg (startupTables services ++ ·) ?_
  split_ifs with initializes
  · rw [tableCalls, List.filter_flatMap]
    refine List.flatMap_congr fun input _ => ?_
    exact (tableCalls_seen _).trans (asks input _ (given_of_initializes initializes .zero))
  · rfl

/-- All calls of the table services in a run of either build: those of initialization, as far as it came,
and for each message delivered those of the handler that takes it. Every lease that is granted is given
back before the next message. -/
theorem application_leases (config : Config) (services : InitServices) (bus : SoftwareBus)
    (codes : StatusCodes) (verdict : Message config.stringValLen → Verdict) (turns : List (Turn config))
    (data : Data) :
    tableCalls (appActions (((Build.plain bus config).main services turns).run (.cold bus data)).trace) =
        startupTables services ++
          (if Initializes services then (delivered turns).flatMap (plainTables services) else []) ∧
      tableCalls (appActions (((Build.eds codes config verdict).main services turns).run data).trace) =
        startupTables services ++
          if Initializes services then (delivered turns).flatMap (edsTables services verdict) else [] :=
  ⟨tableCalls_of_memoryless (fun input _ given => plainStep_tables given input)
      (seen_plain config services turns data bus),
    tableCalls_of_memoryless (fun input _ given => edsStep_tables given codes verdict input)
      (seen_eds config services turns data codes verdict)⟩

end Runs

/-! ## Reported values -/

section Reports

/-- What the log says of the values of a table. -/
def valuesText : String := "Sample App: Example Table Value 1: %d  Value 2: %d"

/-- The values in the log, if that is what it says, are those of a table whose first value is in range. -/
def InRange (action : Action) : Prop :=
  ∀ arguments, action = .writeToSysLog ⟨valuesText, arguments⟩ →
    ∃ table : ExampleTable, table.int1.toNat ≤ tblElement1Max ∧
      arguments = [.number table.int1.toNat, .number table.int2.toNat]

/-- A table that is handed out has passed every check that was registered with it. -/
def HandsOutChecked (calls : List Action) (tables : TblServices) : Prop :=
  ∀ name size options validation, .tblRegister name size options validation ∈ calls →
    success ≤ tables.getAddress → validation.call tables.table = success

/-- A table that is handed out is in range. -/
def HandsOutInRange (tables : TblServices) : Prop :=
  success ≤ tables.getAddress → tables.table.int1.toNat ≤ tblElement1Max

theorem perform_inRange {action : Action} (quiet : ∀ entry, action ≠ .writeToSysLog entry) :
    Exec.Performs InRange (Exec.perform action : AppExec Unit) :=
  .perform fun _ same => absurd same (quiet _)

theorem writeToSysLog_inRange {spec : String} {arguments : List Argument} (other : spec ≠ valuesText) :
    Exec.Performs InRange (writeToSysLog spec arguments) := by
  apply Exec.Performs.perform
  intro arguments same
  injection same with same
  exact absurd (congrArg SysLogEntry.spec same) other

theorem values_inRange {table : ExampleTable} (inRange : table.int1.toNat ≤ tblElement1Max) :
    Exec.Performs InRange (writeToSysLog valuesText
      [.number table.int1.toNat, .number table.int2.toNat]) := by
  apply Exec.Performs.perform
  rintro _ ⟨⟩
  exact ⟨table, inRange, rfl⟩

theorem increment_inRange {update : Data → Data} {counter : Counter} :
    Exec.Performs InRange (do Exec.modify update; Exec.perform (.increment counter) : AppExec Unit) :=
  .bind (.modify _) fun _ => perform_inRange nofun

theorem getCrc_inRange (tables : TblServices) (tableName : String) :
    Exec.Performs InRange (getCrc tables tableName) :=
  .bind (perform_inRange nofun) fun _ => .ite (writeToSysLog_inRange (by decide))
    (writeToSysLog_inRange (by decide))

theorem processCmd_inRange {tables : TblServices} (handsOut : HandsOutInRange tables) :
    Exec.Performs InRange (processCmd tables) := by
  refine .bind (perform_inRange nofun) fun _ => .bind increment_inRange fun _ => .bind .get fun data =>
    .bind (perform_inRange nofun) fun _ => ?_
  by_cases failed : tables.getAddress < success
  · rw [if_pos failed]
    exact .bind (writeToSysLog_inRange (by decide)) fun _ => .pure _
  · rw [if_neg failed]
    refine .bind (values_inRange (handsOut (Int32.not_lt.mp failed))) fun _ =>
      .bind (getCrc_inRange tables _) fun _ => .bind (perform_inRange nofun) fun _ => ?_
    exact .ite (.bind (writeToSysLog_inRange (by decide)) fun _ => .pure _)
      (.bind (perform_inRange nofun) fun _ => .pure _)

theorem dispatchTable_inRange {tables : TblServices} (handsOut : HandsOutInRange tables)
    (message : Message config.stringValLen) (handler : Handler) :
    Exec.Performs InRange (sampleTcDispatchTable config tables message handler) := by
  cases handler with
  | sendHkCmd =>
    refine .bind (perform_inRange nofun) fun _ => .bind (.modify _) fun _ => .bind (.modify _) fun _ =>
      .bind (perform_inRange nofun) fun _ => .bind .get fun _ => .bind (perform_inRange nofun) fun _ =>
      .bind (.forEach ?_ _) fun _ => .pure _
    exact fun index => perform_inRange nofun
  | noopCmd =>
    exact .bind (perform_inRange nofun) fun _ => .bind increment_inRange fun _ =>
      .bind (perform_inRange nofun) fun _ => .pure _
  | resetCountersCmd =>
    exact .bind (perform_inRange nofun) fun _ => .bind (.modify _) fun _ => .bind (.modify _) fun _ =>
      .bind (perform_inRange nofun) fun _ => .pure _
  | processCmd => exact processCmd_inRange handsOut
  | displayParamCmd =>
    exact .bind (perform_inRange nofun) fun _ => .bind increment_inRange fun _ =>
      .bind (perform_inRange nofun) fun _ => .pure _

theorem plainStep_inRange {input : Input config} (handsOut : HandsOutInRange input.services) :
    Exec.Performs InRange (plainStep config input) := by
  have verified (handler : Handler) (expectedLength : ℕ) : Exec.Performs InRange (do
      if ← verifyCmdLength config input.message expectedLength then
        let _ ← sampleTcDispatchTable config input.services input.message handler : AppExec Unit) := by
    refine .bind (.ite (.bind (perform_inRange nofun) fun _ => .bind increment_inRange fun _ => .pure _)
      (.pure _)) fun _ => .ite (.bind ?_ fun _ => .pure _) (.pure _)
    exact dispatchTable_inRange handsOut input.message handler
  have commands : Exec.Performs InRange (processGroundCommand config input.services input.message) :=
    .ite (verified .noopCmd _) (.ite (verified .resetCountersCmd _) (.ite (verified .processCmd _)
      (.ite (verified .displayParamCmd _) (perform_inRange nofun))))
  exact .ite (.bind (dispatchTable_inRange handsOut input.message .sendHkCmd) fun _ => .pure _)
    (.ite commands (perform_inRange nofun))

theorem edsStep_inRange {codes : StatusCodes} {verdict : Message config.stringValLen → Verdict}
    {input : Input config} (handsOut : HandsOutInRange input.services) :
    Exec.Performs InRange (edsStep codes verdict input) := by
  have dispatched : Exec.Performs InRange (edsDispatch config verdict input.services input.message) := by
    unfold edsDispatch
    cases verdict input.message with
    | reject status => exact .pure status
    | indicate handler => exact dispatchTable_inRange handsOut input.message handler
  exact .bind dispatched fun _ => .ite (.bind increment_inRange fun _ => .ite (perform_inRange nofun)
    (.ite (perform_inRange nofun) (perform_inRange nofun))) (.pure _)

theorem init_inRange (config : Config) (services : InitServices) :
    Exec.Performs InRange (init config services) := by
  refine (init_startup config services).mono fun action startup => ?_
  rintro arguments rfl
  have other : valuesText ≠ "F Prime App: Error Registering Events, RC = 0x%08lX\n" := by decide
  exact absurd startup other

/-- An application that comes up has registered its check. -/
theorem tblRegister_mem (initializes : Initializes services) (data : Data) :
    .tblRegister "ExampleTable" exampleTableSize .default .tblValidationFunc ∈
      ((init config services).run data).trace := by
  have asked : tableCalls ((init config services).run data).trace = startupTables services := by
    rw [init_run_zero]
    exact init_tables config
  have started : services.evsRegister = success ∧ services.createPipe = success ∧
      services.subscribeSendHk = success ∧ services.subscribeCmd = success := by
    simp only [Initializes, initSteps, List.forall_mem_cons] at initializes
    exact ⟨initializes.1, initializes.2.1, initializes.2.2.1, initializes.2.2.2.1⟩
  have registered : .tblRegister "ExampleTable" exampleTableSize .default .tblValidationFunc ∈
      tableCalls ((init config services).run data).trace := by
    rw [asked, startupTables, if_pos started]
    exact List.mem_cons_self ..
  exact (List.mem_filter.mp registered).1

/-- Tables that pass the check registered are in range. -/
theorem HandsOutChecked.inRange {calls : List Action} {tables : TblServices}
    (checked : HandsOutChecked calls tables)
    (registered : .tblRegister "ExampleTable" exampleTableSize .default .tblValidationFunc ∈ calls) :
    HandsOutInRange tables := fun granted =>
  (tblValidationFunc_eq_success_iff tables.table).mp (checked _ _ _ _ registered granted)

/-- What the log says of a table in a run, from what the dispatcher says. -/
theorem outcome_inRange {step : Input config → AppExec Unit} {turns : List (Turn config)}
    (inRange : ∀ input, HandsOutInRange input.services → Exec.Performs InRange (step input)) (data : Data)
    {calls : List Action}
    (ran : calls = outcome services turns ((init config services).run data).trace
      ((Exec.forEach step (delivered turns)).run ((init config services).run data).state).trace)
    (handsOut : ∀ input ∈ delivered turns, HandsOutChecked calls input.services) :
    ∀ action ∈ calls, InRange action := by
  intro action member
  rw [ran] at member
  rcases List.mem_append.mp member with startup | later
  · exact init_inRange config services data action startup
  · split_ifs at later with initializes
    · have registered : .tblRegister "ExampleTable" exampleTableSize .default .tblValidationFunc ∈ calls := by
        rw [ran]
        exact List.mem_append_left _ (tblRegister_mem services initializes data)
      rcases List.mem_append.mp later with dispatched | report
      · refine Exec.Performs.forEach_of_mem (fun input here => ?_) _ action dispatched
        exact inRange input ((handsOut input here).inRange registered)
      · rw [receiveReport] at report
        split_ifs at report
        · obtain rfl := List.mem_singleton.mp report
          rintro _ ⟨⟩
        · exact absurd report List.not_mem_nil
    · exact absurd later List.not_mem_nil

/-- If table services hand out only tables that pass the check the run has registered, which is
`FPRIME_GDS_TblValidationFunc` of `fprime_gds_utils.c`, the values the log reports in a run of either build
are those of a table whose first value is in range. -/
theorem application_reports_checked (config : Config) (services : InitServices) (bus : SoftwareBus)
    (codes : StatusCodes) (verdict : Message config.stringValLen → Verdict) (turns : List (Turn config))
    (data : Data) :
    let plain := appActions (((Build.plain bus config).main services turns).run (.cold bus data)).trace
    let eds := appActions (((Build.eds codes config verdict).main services turns).run data).trace
    ((∀ input ∈ delivered turns, HandsOutChecked plain input.services) → ∀ action ∈ plain, InRange action) ∧
      ((∀ input ∈ delivered turns, HandsOutChecked eds input.services) → ∀ action ∈ eds, InRange action) :=
  ⟨outcome_inRange services (fun _ handsOut => plainStep_inRange handsOut) data (appActions_cold ..),
    outcome_inRange services (fun _ handsOut => edsStep_inRange handsOut) data (appActions_eds ..)⟩

/-- A run that processes the shipped table, and one whose table services keep back a table that is out of
range. -/
theorem application_reports_checked_shipped :
    let config : Config := ⟨0x1882, 0x1883, 0x883, 8, 16, 2⟩
    let bus : SoftwareBus := ⟨fun msgId => msgId != 0, 0, rfl⟩
    let services : InitServices := ⟨0, 0, 1, 0, 0, 0, 2, 0, ""⟩
    let turn (getAddress : Status) (table : ExampleTable) : Turn config :=
      ⟨none, 0, ⟨⟨0x1882, processCc, 8, ⟨0, 0, ⟨#[0, 0], rfl⟩⟩⟩, ⟨getAddress, table, 0, 0, 0⟩⟩⟩
    let turns := [turn 0 exampleTable, turn (-1) ⟨11, 2⟩]
    ∀ action ∈ appActions (((Build.plain bus config).main services turns).run (.cold bus .zero)).trace,
      InRange action := by
  intro config bus services turn turns
  refine (application_reports_checked config services bus .documented
    (referenceVerdict .documented config (-939524092)) turns .zero).1 ?_
  intro input member name size options validation _ granted
  cases validation
  have either : input.services = ⟨0, exampleTable, 0, 0, 0⟩ ∨ input.services = ⟨-1, ⟨11, 2⟩, 0, 0, 0⟩ := by
    rcases List.mem_cons.mp member with rfl | other
    · exact .inl rfl
    · obtain rfl := List.mem_singleton.mp other
      exact .inr rfl
  rcases either with shipped | keptBack
  · rw [shipped]
    decide
  · rw [keptBack] at granted
    exact absurd granted (by decide)

end Reports

end FprimeGds.Soundness.TableLeases
