import FprimeGds.Machine.Monitor
import FprimeGds.Proofs.App.Main

/-! # The C application uses cFE services only when it may

Events need a registration, subscriptions and receives a pipe, tables a registered and loaded table, and
handlers a message. Which of these the application has is decided by what the services answered, and
after one that fails no further service of initialization is called, though there are reports. Performance
log entries and exits alternate, so that waiting for a message is never counted as work.
-/

namespace FprimeGds.Soundness.ServiceUse

open Machine Model Model.Cfe Model.App Proofs.App

/-! ## The rules -/

/-- How far initialization has come; a service that fails ends it. -/
inductive Stage where
  | started
  | registered
  | packetReady
  | piped
  | hkSubscribed
  | subscribed
  | tableRegistered
  | loaded
  | failed
  | exited
deriving DecidableEq, Repr

/-- The stage, and whether events are registered, a performance log entry is open and a message is being
handled. -/
structure Use where
  stage : Stage
  events : Bool
  logging : Bool
  handling : Bool
deriving DecidableEq, Repr

/-- A service is called that takes the application from one stage to the next if it answers success. -/
def Use.advance (use : Use) (source target : Stage) (answer : Status) : Option Use :=
  if use.stage = source then
    some { use with stage := if answer = success then target else .failed }
  else none

variable {config : Config} (services : InitServices)

/-- What a handler does is done while a message is handled. -/
def Use.handle (use : Use) : Option Use := if use.handling = true then some use else none

/-- Tables are used by the handle their registration gave. -/
def Use.useTable (use : Use) (handle : UInt32) : Option Use :=
  if use.handling = true ∧ handle = services.tblHandle then some use else none

/-- The housekeeping subscription comes first. Both are made on the pipe created. -/
def Use.subscribe (config : Config) (use : Use) (msgId : MsgId) (pipe : UInt32) : Option Use :=
  if pipe = services.commandPipe then
    if msgId = config.sendHkMid ∧ use.stage = .piped then
      use.advance .piped .hkSubscribed services.subscribeSendHk
    else if msgId = config.cmdMid then
      use.advance .hkSubscribed .subscribed services.subscribeCmd
    else none
  else none

def appUse (config : Config) : Monitor Use Action
  | use, .evsRegister =>
    { use with events := services.evsRegister == success }.advance .started .registered services.evsRegister
  | use, .sendEvent _ => if use.events = true ∧ use.logging = true then some use else none
  | use, .writeToSysLog _ => if use.logging = true then some use else none
  | use, .msgInit msgId size =>
    if msgId = config.hkTlmMid ∧ size = config.hkTlmSize then
      use.advance .registered .packetReady success
    else none
  | use, .createPipe _ _ => use.advance .packetReady .piped services.createPipe
  | use, .subscribe msgId pipe => use.subscribe services config msgId pipe
  | use, .tblRegister _ _ _ _ => use.advance .subscribed .tableRegistered services.tblRegister
  | use, .tblLoad handle _ _ =>
    if handle = services.tblHandle then use.advance .tableRegistered .loaded services.tblLoad else none
  | use, .tblManage handle => use.useTable services handle
  | use, .tblGetAddress handle => use.useTable services handle
  | use, .tblReleaseAddress handle => use.useTable services handle
  | use, .enter _ => use.handle
  | use, .increment _ => use.handle
  | use, .timeStampMsg => use.handle
  | use, .transmitMsg _ _ => use.handle
  | use, .tblGetInfo _ => use.handle
  | use, .sampleLibFunction => use.handle

/-- The application waits for a message outside the performance log, and handles one at a time. -/
def mainUse : Monitor Use (MainAction config)
  | use, .app action => appUse services config use action
  | use, .perfLogEntry id =>
    if id = perfId ∧ use.logging = false ∧ use.stage ≠ .exited then some { use with logging := true } else none
  | use, .perfLogExit id =>
    if id = perfId ∧ use.logging = true then some { use with logging := false, handling := false } else none
  | use, .receiveBuffer pipe =>
    if use.stage = .loaded ∧ use.logging = false ∧ pipe = services.commandPipe then some use else none
  | use, .taskPipe _ =>
    if use.stage = .loaded ∧ use.logging = true ∧ use.handling = false then some { use with handling := true }
    else none
  | use, .exitApp _ =>
    if use.logging = false ∧ use.stage ≠ .exited then some { use with stage := .exited } else none

def fresh : Use := ⟨.started, false, false, false⟩

/-- Every call is made when it may be. -/
def UsedInOrder (calls : List (MainAction config)) : Prop := (mainUse services).Accepts fresh calls

/-! ## Handlers -/

section Handlers

/-- The global data hold what initialization was given. -/
def Given (data : Data) : Prop :=
  data.commandPipe = services.commandPipe ∧ ∀ index, data.tblHandles.get index = services.tblHandle

/-- A message is being handled. -/
def Handling : Use → Data → Prop := Exec.At ⟨.loaded, true, true, true⟩ (Given services)

/-- What a handler does, and that it leaves the application handling its message. -/
abbrev Handles (config : Config) {α : Type} (function : AppExec α) : Prop :=
  Exec.Obeys (appUse services config) (Handling services) function fun _ => Handling services

variable {services}

theorem pure_handles {α : Type} (value : α) : Handles services config (pure value) :=
  .pure fun _ _ handling => handling

/-- What is read of the global data is what initialization was given. -/
theorem get_handles {α : Type} {rest : Data → AppExec α}
    (handles : ∀ data, Given services data → Handles services config (rest data)) :
    Handles services config (Exec.get >>= rest) :=
  fun use data handling => handles data handling.2 use data handling

theorem sendEvent_handles {eventId : ℕ} {eventType : EventType} {spec : String} {arguments : List Argument} :
    Handles services config (sendEvent eventId eventType spec arguments) := .perform_at _ rfl

theorem writeToSysLog_handles {spec : String} {arguments : List Argument} :
    Handles services config (writeToSysLog spec arguments) := .perform_at _ rfl

theorem useTable_handles {action : Action} {handle : UInt32} (given : handle = services.tblHandle)
    (checked : ∀ use, appUse services config use action = use.useTable services handle) :
    Handles services config (Exec.perform action) := by
  apply Exec.Obeys.perform_at
  rw [checked]
  exact if_pos ⟨rfl, given⟩

theorem incrementCmdCounter_handles : Handles services config incrementCmdCounter :=
  .bind (.modify_at _ fun _ given => given) fun _ => .perform_at _ rfl

theorem incrementErrCounter_handles : Handles services config incrementErrCounter :=
  .bind (.modify_at _ fun _ given => given) fun _ => .perform_at _ rfl

theorem sendHkCmd_handles : Handles services config sendHkCmd := by
  refine .bind (.perform_at _ rfl) fun _ => .bind (.modify_at _ fun _ given => given) fun _ =>
    .bind (.modify_at _ fun _ given => given) fun _ => .bind (.perform_at _ rfl) fun _ =>
    get_handles fun data given => .bind (.perform_at _ rfl) fun _ => .bind (.forEach ?_ _) fun _ =>
    pure_handles _
  exact fun index => useTable_handles (given.2 index) fun _ => rfl

theorem noopCmd_handles : Handles services config noopCmd :=
  .bind (.perform_at _ rfl) fun _ => .bind incrementCmdCounter_handles fun _ =>
    .bind sendEvent_handles fun _ => pure_handles _

theorem resetCountersCmd_handles : Handles services config resetCountersCmd :=
  .bind (.perform_at _ rfl) fun _ => .bind (.modify_at _ fun _ given => given) fun _ =>
    .bind (.modify_at _ fun _ given => given) fun _ => .bind sendEvent_handles fun _ => pure_handles _

theorem getCrc_handles (tables : TblServices) (tableName : String) :
    Handles services config (getCrc tables tableName) :=
  .bind (.perform_at _ rfl) fun _ => .ite (fun _ => writeToSysLog_handles) fun _ => writeToSysLog_handles

theorem processCmd_handles (tables : TblServices) : Handles services config (processCmd tables) := by
  refine .bind (.perform_at _ rfl) fun _ => .bind incrementCmdCounter_handles fun _ =>
    get_handles fun data given => .bind (useTable_handles (given.2 _) fun _ => rfl) fun _ =>
    .ite (fun _ => .bind writeToSysLog_handles fun _ => pure_handles _) fun _ => ?_
  refine .bind writeToSysLog_handles fun _ => .bind (getCrc_handles tables _) fun _ =>
    .bind (useTable_handles (given.2 _) fun _ => rfl) fun _ => ?_
  exact .ite (fun _ => .bind writeToSysLog_handles fun _ => pure_handles _)
    fun _ => .bind (.perform_at _ rfl) fun _ => pure_handles _

theorem displayParamCmd_handles {stringValLen : ℕ} (message : Message stringValLen) :
    Handles services config (displayParamCmd message) :=
  .bind (.perform_at _ rfl) fun _ => .bind incrementCmdCounter_handles fun _ =>
    .bind sendEvent_handles fun _ => pure_handles _

theorem verifyCmdLength_handles (message : Message config.stringValLen) (expectedLength : ℕ) :
    Handles services config (verifyCmdLength config message expectedLength) :=
  .ite (fun _ => .bind sendEvent_handles fun _ => .bind incrementErrCounter_handles fun _ =>
    pure_handles _) fun _ => pure_handles _

theorem processGroundCommand_handles (tables : TblServices) (message : Message config.stringValLen) :
    Handles services config (processGroundCommand config tables message) := by
  have verified {handler : AppExec Status} (handles : Handles services config handler)
      (expectedLength : ℕ) : Handles services config (do
        if ← verifyCmdLength config message expectedLength then
          let _ ← handler) :=
    .bind (verifyCmdLength_handles message expectedLength) fun _ =>
      .ite (fun _ => .bind handles fun _ => pure_handles _) fun _ => pure_handles _
  exact .ite (fun _ => verified noopCmd_handles _) fun _ =>
    .ite (fun _ => verified resetCountersCmd_handles _) fun _ =>
    .ite (fun _ => verified (processCmd_handles tables) _) fun _ =>
    .ite (fun _ => verified (displayParamCmd_handles message) _) fun _ => sendEvent_handles

end Handlers

/-! ## The dispatchers -/

section Dispatchers

variable {σ : Type}

/-- The dispatcher of a build only does what may be done while a message is handled. -/
def Dispatches (build : Build config σ) : Prop :=
  ∀ tables message, Exec.Obeys (appUse services config)
    (fun use state => Handling services use (build.data state)) (build.taskPipe tables message)
    fun _ use state => Handling services use (build.data state)

variable {services}

theorem plain_dispatches (bus : SoftwareBus) : Dispatches services (.plain bus config) := by
  intro tables message
  have onData {α : Type} {function : AppExec α} (handles : Handles services config function) :
      Exec.Obeys (appUse services config) (fun use (state : PlainState) => Handling services use state.data)
        (onData function) fun _ use state => Handling services use state.data :=
    .within (fun _ _ => rfl) handles
  have looked : Exec.Obeys (appUse services config)
      (fun use (state : PlainState) => Handling services use state.data) (cacheMids bus config)
      fun _ use state => Handling services use state.data :=
    .read fun _ => .ite (fun _ => .modify fun _ _ handling => handling) fun _ => .pure fun _ _ handling => handling
  refine .bind looked fun _ => .read fun _ => .ite (fun _ => ?_) fun _ => .ite (fun _ => ?_) fun _ => ?_
  · exact .bind (onData sendHkCmd_handles) fun _ => .pure fun _ _ handling => handling
  · exact onData (processGroundCommand_handles tables message)
  · exact onData sendEvent_handles

theorem eds_dispatches (codes : StatusCodes) (verdict : Message config.stringValLen → Verdict) :
    Dispatches services (.eds codes config verdict) := by
  intro tables message
  have entry (handler : Handler) :
      Handles services config (sampleTcDispatchTable config tables message handler) := by
    cases handler with
    | sendHkCmd => exact sendHkCmd_handles
    | noopCmd => exact noopCmd_handles
    | resetCountersCmd => exact resetCountersCmd_handles
    | processCmd => exact processCmd_handles tables
    | displayParamCmd => exact displayParamCmd_handles message
  have dispatched : Handles services config (edsDispatch config verdict tables message) := by
    unfold edsDispatch
    cases verdict message with
    | reject status => exact pure_handles status
    | indicate handler => exact entry handler
  have whole : Handles services config (edsTaskPipe codes config verdict tables message) :=
    .bind dispatched fun status => .ite (fun _ => .bind incrementErrCounter_handles fun _ =>
      .ite (fun _ => sendEvent_handles) fun _ =>
      .ite (fun _ => sendEvent_handles) fun _ => sendEvent_handles) fun _ => pure_handles _
  exact whole

end Dispatchers

/-! ## Initialization -/

section Init

variable (config)

/-- Initialization has come to a stage with everything it needs of the global data, or a service has
failed and the report of it has been made. -/
def Reached (target : Stage) (kept : Data → Prop) (status : Status) (use : Use) (data : Data) : Prop :=
  (status = success → Exec.At ⟨target, true, true, false⟩ kept use data) ∧
    (status ≠ success → use.stage = .failed ∧ use.logging = true)

/-- A service has answered. -/
def answered (target : Stage) (answer : Status) : Use :=
  ⟨if answer = success then target else .failed, true, true, false⟩

variable {config services}

theorem reached_of_answered {target : Stage} {kept : Data → Prop} {answer : Status} {use : Use} {data : Data}
    (here : Exec.At (answered target answer) kept use data) : Reached target kept answer use data := by
  obtain ⟨rfl, holds⟩ := here
  refine ⟨fun succeeded => ?_, fun failed => ?_⟩
  · rw [answered, if_pos succeeded]
    exact ⟨rfl, holds⟩
  · rw [answered, if_neg failed]
    exact ⟨rfl, rfl⟩

theorem answered_obeys {target : Stage} {kept : Data → Prop} (answer : Status) (eventId : ℕ) (spec : String) :
    Exec.Obeys (appUse services config) (Exec.At (answered target answer) kept)
      (do reportFailure answer eventId spec; return answer) (Reached target kept) := by
  have reported : Exec.Obeys (appUse services config) (Exec.At (answered target answer) kept)
      (reportFailure answer eventId spec) fun _ => Exec.At (answered target answer) kept :=
    .ite (fun _ => .perform_at _ rfl) fun _ => .pure fun _ _ here => here
  exact .bind reported fun _ => .pure fun _ _ here => reached_of_answered here

/-- A block that is skipped once something has failed. -/
theorem ifSuccess_obeys {source target : Stage} {before after : Data → Prop} {block : AppExec Status}
    (obeys : Exec.Obeys (appUse services config) (Exec.At ⟨source, true, true, false⟩ before) block
      (Reached target after)) (status : Status) :
    Exec.Obeys (appUse services config) (Reached source before status) (ifSuccess status block)
      (Reached target after) := by
  refine .ite (fun succeeded => ?_) fun failed => .pure ?_
  · exact obeys.weaken (fun _ _ reached => reached.1 succeeded) fun _ _ _ reached => reached
  · exact fun use data reached => ⟨fun succeeded => absurd succeeded failed, fun _ => reached.2 failed⟩

/-- The command pipe is in the global data. -/
def Piped (services : InitServices) (data : Data) : Prop := data.commandPipe = services.commandPipe

theorem createCommandPipe_obeys : Exec.Obeys (appUse services config)
    (Exec.At ⟨.registered, true, true, false⟩ fun _ => True) (createCommandPipe config services)
    (Reached .piped (Piped services)) := by
  have ready : appUse services config ⟨.registered, true, true, false⟩
      (.msgInit config.hkTlmMid config.hkTlmSize) = some ⟨.packetReady, true, true, false⟩ :=
    if_pos ⟨rfl, rfl⟩
  exact .bind (.perform_at _ ready) fun _ => .bind (.modify_at (fun _ => True) fun _ _ => trivial) fun _ =>
    .bind (.perform_at (answered .piped services.createPipe) rfl) fun _ =>
    .bind (.modify_at (Piped services) fun _ _ => rfl) fun _ => answered_obeys services.createPipe _ _

theorem registerEvents_obeys : Exec.Obeys (appUse services config)
    (Exec.At ⟨.started, false, true, false⟩ fun _ => True) (registerEvents config services)
    (Reached .piped (Piped services)) := by
  by_cases registered : services.evsRegister = success
  · have asked : appUse services config ⟨.started, false, true, false⟩ .evsRegister =
        some ⟨.registered, true, true, false⟩ := by
      rw [appUse, registered]
      rfl
    refine .bind (.perform_at _ asked) fun _ => .ite (fun failed => absurd registered failed) fun _ => ?_
    exact createCommandPipe_obeys
  · have asked : appUse services config ⟨.started, false, true, false⟩ .evsRegister =
        some ⟨.failed, false, true, false⟩ := by
      rw [appUse, beq_false_of_ne registered, Use.advance, if_pos rfl, if_neg registered]
    refine .bind (.perform_at _ asked) fun _ => .ite (fun _ => ?_) fun succeeded => absurd registered succeeded
    refine .bind (.perform_at ⟨.failed, false, true, false⟩ rfl) fun _ => .pure ?_
    rintro _ data ⟨rfl, _⟩
    exact ⟨fun succeeded => absurd succeeded registered, fun _ => ⟨rfl, rfl⟩⟩

/-- A subscription that the stage asks for, on the pipe created. -/
theorem subscribe_obeys (source target : Stage) {msgId : MsgId} {answer : Status} {eventId : ℕ} {spec : String}
    (asked : Use.subscribe services config ⟨source, true, true, false⟩ msgId services.commandPipe =
      some (answered target answer)) :
    Exec.Obeys (appUse services config) (Exec.At ⟨source, true, true, false⟩ (Piped services))
      (subscribe msgId answer eventId spec) (Reached target (Piped services)) := by
  have called : Exec.Obeys (appUse services config) (Exec.At ⟨source, true, true, false⟩ (Piped services)) (do
      Exec.perform (.subscribe msgId services.commandPipe)
      reportFailure answer eventId spec
      return answer) (Reached target (Piped services)) :=
    .bind (.perform_at (answered target answer) asked) fun _ => answered_obeys answer eventId spec
  intro use data start
  rw [subscribe, Exec.run_get_bind, start.2]
  exact called use data start

theorem loadTable_obeys : Exec.Obeys (appUse services config)
    (Exec.At (answered .tableRegistered services.tblRegister) (Given services)) (loadTable services)
    fun status => Exec.At (answered .loaded status) (Given services) := by
  by_cases registered : services.tblRegister = success
  · refine .ite (fun failed => absurd registered failed) fun _ => ?_
    rw [answered, if_pos registered]
    intro use data start
    have loaded : Exec.Obeys (appUse services config)
        (Exec.At ⟨.tableRegistered, true, true, false⟩ (Given services)) (do
          Exec.perform (.tblLoad services.tblHandle .file "/cf/fprime_gds_tbl.tbl")
          return services.tblLoad)
        fun status => Exec.At (answered .loaded status) (Given services) :=
      .bind (.perform_at (answered .loaded services.tblLoad) (if_pos rfl)) fun _ => .pure fun _ _ here => here
    rw [Exec.run_get_bind, start.2.2]
    exact loaded use data start
  · refine .ite (fun _ => ?_) fun succeeded => absurd registered succeeded
    rw [answered, if_neg registered]
    refine .bind (.perform_at ⟨.failed, true, true, false⟩ rfl) fun _ => .pure ?_
    rintro _ data ⟨rfl, given⟩
    refine ⟨?_, given⟩
    rw [answered, if_neg registered]

theorem registerTables_obeys : Exec.Obeys (appUse services config)
    (Exec.At ⟨.subscribed, true, true, false⟩ (Piped services)) (registerTables services)
    (Reached .loaded (Given services)) := by
  refine .bind (.perform_at (answered .tableRegistered services.tblRegister) rfl) fun _ =>
    .bind (.modify_at (Given services) ?_) fun _ => .bind loadTable_obeys fun status =>
    .bind (.perform_at (answered .loaded status) rfl) fun _ => .pure fun _ _ here => reached_of_answered here
  intro data piped
  refine ⟨piped, fun index => ?_⟩
  have only : index = ⟨0, Nat.one_pos⟩ := Fin.ext (Nat.lt_one_iff.mp index.isLt)
  rw [only]
  exact Vector.getElem_set_self ..

/-- Initialization, from the first performance log entry on. -/
theorem init_obeys : Exec.Obeys (appUse services config) (Exec.At ⟨.started, false, true, false⟩ fun _ => True)
    (init config services) (Reached .loaded (Given services)) := by
  have zeroed : Exec.Obeys (appUse services config) (Exec.At ⟨.started, false, true, false⟩ fun _ => True)
      zeroData fun _ => Exec.At ⟨.started, false, true, false⟩ fun _ => True :=
    .bind (.modify_at (fun _ => True) fun _ _ => trivial) fun _ => .modify_at _ fun _ _ => trivial
  refine .bind zeroed fun _ => .bind registerEvents_obeys fun status =>
    .bind (ifSuccess_obeys (subscribe_obeys .piped .hkSubscribed ?_) status) fun status =>
    .bind (ifSuccess_obeys (subscribe_obeys .hkSubscribed .subscribed ?_) status) fun status =>
    ifSuccess_obeys registerTables_obeys status
  · rw [Use.subscribe, if_pos rfl, if_pos ⟨rfl, rfl⟩]
    rfl
  · have later : ¬ (config.cmdMid = config.sendHkMid ∧ Stage.hkSubscribed = .piped) :=
      fun both => nomatch both.2
    rw [Use.subscribe, if_pos rfl, if_neg later, if_pos rfl]
    rfl

end Init

/-! ## The entry point -/

section Main

variable {σ : Type} {build : Build config σ} {services}

/-- Initialized, and at work on the global data that initialization left. -/
def Serving (services : InitServices) (build : Build config σ) (use : Use) (state : σ) : Prop :=
  ∃ handling, Exec.At ⟨.loaded, true, true, handling⟩ (fun state => Given services (build.data state)) use state

/-- If the loop goes on, the application is initialized. -/
def Going (services : InitServices) (build : Build config σ) (use : Use) (state : σ) : Prop :=
  use.logging = true ∧ use.stage ≠ .exited ∧
    ((build.data state).runStatus = .appRun → Serving services build use state)

theorem Serving.going {use : Use} {state : σ} (serving : Serving services build use state) :
    Going services build use state := by
  obtain ⟨handling, rfl, given⟩ := serving
  exact ⟨rfl, nofun, fun _ => ⟨handling, rfl, given⟩⟩

theorem Given.setRunStatus {state : σ} (given : Given services (build.data state)) (status : RunStatus) :
    Given services (build.data (build.setData { build.data state with runStatus := status } state)) := by
  rw [build.data_setData]
  exact given

/-- Waiting for a message, outside the performance log. -/
def Waiting (services : InitServices) (build : Build config σ) : Use → σ → Prop :=
  Exec.At ⟨.loaded, true, false, false⟩ fun state => Given services (build.data state)

theorem waits_obeys : Exec.Obeys (mainUse services) (Serving services build)
    (Exec.perform (.perfLogExit perfId : MainAction config)) fun _ => Waiting services build := by
  apply Exec.Obeys.perform
  rintro _ state ⟨handling, rfl, given⟩
  refine ⟨⟨.loaded, true, false, false⟩, ?_, rfl, given⟩
  rw [mainUse, if_pos ⟨rfl, rfl⟩]

theorem receives_obeys {rest : Exec σ (MainAction config) Unit} {after : Unit → Use → σ → Prop}
    (obeys : Exec.Obeys (mainUse services) (Waiting services build) rest after) :
    Exec.Obeys (mainUse services) (Waiting services build)
      (Exec.get >>= fun state => Exec.perform (.receiveBuffer (build.data state).commandPipe) >>= fun _ => rest)
      after := by
  rintro _ state ⟨rfl, given⟩
  have received : Exec.Obeys (mainUse services) (Exec.At ⟨.loaded, true, false, false⟩ (· = state))
      (Exec.perform (.receiveBuffer (build.data state).commandPipe : MainAction config))
      fun _ => Waiting services build := by
    apply Exec.Obeys.perform
    rintro _ _ ⟨rfl, rfl⟩
    refine ⟨⟨.loaded, true, false, false⟩, ?_, rfl, given⟩
    rw [mainUse, given.1, if_pos ⟨rfl, rfl, rfl⟩]
  exact (received.bind fun _ => obeys) _ state ⟨rfl, rfl⟩

theorem dispatches_obeys (dispatches : Dispatches services build) (input : Input config) :
    Exec.Obeys (mainUse services)
      (Exec.At ⟨.loaded, true, true, false⟩ fun state => Given services (build.data state))
      (build.dispatch input) fun _ => Serving services build := by
  have called : mainUse services ⟨.loaded, true, true, false⟩ (.taskPipe input.message) =
      some ⟨.loaded, true, true, true⟩ := by
    rw [mainUse, if_pos ⟨rfl, rfl, rfl⟩]
  refine .bind (.perform_at _ called) fun _ => .relabel ?_
  exact (dispatches input.services input.message).weaken (fun _ _ here => here)
    fun _ _ _ handling => ⟨true, handling⟩

theorem fails_obeys : Exec.Obeys (mainUse services)
    (Exec.At ⟨.loaded, true, true, false⟩ fun state => Given services (build.data state))
    (do
      build.call (sendEvent pipeErrEid .error "FPRIME APP: SB Pipe Read Error, App Will Exit" [])
      build.setRunStatus .appError)
    fun _ => Serving services build := by
  have sent : Exec.Obeys ((mainUse services : Monitor Use (MainAction config)))
      (Exec.At ⟨.loaded, true, true, false⟩ fun state => Given services (build.data state))
      (build.call (sendEvent pipeErrEid .error "FPRIME APP: SB Pipe Read Error, App Will Exit" []))
      fun _ => Exec.At ⟨.loaded, true, true, false⟩ fun state => Given services (build.data state) :=
    .relabel (.within build.data_setData (.perform_at _ rfl))
  refine .bind sent fun _ => .modify ?_
  rintro _ state ⟨rfl, given⟩
  exact ⟨false, rfl, given.setRunStatus .appError⟩

/-- The body of the loop. -/
theorem receiveAndDispatch_obeys (dispatches : Dispatches services build) (turn : Turn config) :
    Exec.Obeys (mainUse services) (Serving services build) (build.receiveAndDispatch turn)
      fun _ => Serving services build := by
  have entered : (mainUse services : Monitor Use (MainAction config)) ⟨.loaded, true, false, false⟩ (.perfLogEntry perfId) =
      some ⟨.loaded, true, true, false⟩ := by
    rw [mainUse, if_pos ⟨rfl, rfl, by decide⟩]
  refine .bind waits_obeys fun _ => receives_obeys (.bind (.perform_at _ entered) fun _ => ?_)
  exact .ite (fun _ => dispatches_obeys dispatches turn.input) fun _ => fails_obeys

theorem runLoop_again {exitRequest : Option RunStatus} {runStatus left : RunStatus}
    (again : runLoop exitRequest runStatus = (true, left)) : runStatus = .appRun := by
  by_contra stopped
  rw [runLoop_stopped stopped] at again
  exact Bool.false_ne_true (Prod.mk.inj again).1

theorem mainLoop_obeys (dispatches : Dispatches services build) (turns : List (Turn config)) :
    Exec.Obeys (mainUse services) (Going services build) (build.mainLoop turns)
      fun _ use _ => use.logging = true ∧ use.stage ≠ .exited := by
  induction turns with
  | nil => exact .pure fun _ _ going => ⟨going.1, going.2.1⟩
  | cons turn rest ih =>
    have continued : Exec.Obeys (mainUse services) (Serving services build)
        (build.receiveAndDispatch turn >>= fun _ => build.mainLoop rest)
        fun _ use _ => use.logging = true ∧ use.stage ≠ .exited :=
      .bind (receiveAndDispatch_obeys dispatches turn) fun _ =>
        ih.weaken (fun _ _ serving => serving.going) fun _ _ _ left => left
    rintro use state ⟨logging, staying, going⟩
    rw [Build.mainLoop, Exec.run_get_bind]
    -- the guard goes on only while the run status is APP_RUN
    rcases guard : runLoop turn.exitRequest (build.data state).runStatus with ⟨_ | _, runStatus⟩
    · exact ⟨use, rfl, logging, staying⟩
    · obtain ⟨handling, rfl, given⟩ := going (runLoop_again guard)
      exact continued _ _ ⟨handling, rfl, given.setRunStatus runStatus⟩

/-- The loop and what follows it. -/
theorem mainTask_obeys (dispatches : Dispatches services build) (turns : List (Turn config)) :
    Exec.Obeys (mainUse services) (Going services build) (build.mainTask turns) fun _ _ _ => True := by
  refine .bind (mainLoop_obeys dispatches turns) fun _ => .ite (fun _ => ?_) fun _ =>
    .pure fun _ _ _ => trivial
  have left : Exec.Obeys (mainUse services) (fun use (_ : σ) => use.logging = true ∧ use.stage ≠ .exited)
      (Exec.perform (.perfLogExit perfId : MainAction config))
      fun _ use _ => use.logging = false ∧ use.stage ≠ .exited := by
    apply Exec.Obeys.perform
    intro use state found
    refine ⟨{ use with logging := false, handling := false }, ?_, rfl, found.2⟩
    rw [mainUse, if_pos ⟨rfl, found.1⟩]
  have exited (runStatus : RunStatus) :
      Exec.Obeys (mainUse services) (fun use (_ : σ) => use.logging = false ∧ use.stage ≠ .exited)
        (Exec.perform (.exitApp runStatus : MainAction config)) fun _ _ _ => True := by
    apply Exec.Obeys.perform
    intro use state found
    refine ⟨{ use with stage := .exited }, ?_, trivial⟩
    rw [mainUse, if_pos found]
  exact .bind left fun _ => .read fun _ => exited _

/-- The entry point. -/
theorem main_obeys (dispatches : Dispatches services build) (turns : List (Turn config)) :
    Exec.Obeys (mainUse services) (fun use _ => use = fresh) (build.main services turns) fun _ _ _ => True := by
  have entered : Exec.Obeys (mainUse services) (fun use (_ : σ) => use = fresh)
      (Exec.perform (.perfLogEntry perfId : MainAction config))
      fun _ use state => Exec.At ⟨.started, false, true, false⟩ (fun _ => True) use (build.data state) := by
    apply Exec.Obeys.perform
    rintro _ state rfl
    refine ⟨⟨.started, false, true, false⟩, ?_, rfl, trivial⟩
    rw [mainUse, if_pos ⟨rfl, rfl, by decide⟩]
    rfl
  have initialized : Exec.Obeys (mainUse services)
      (fun use state => Exec.At ⟨.started, false, true, false⟩ (fun _ => True) use (build.data state))
      (build.call (init config services))
      fun status use state => Reached .loaded (Given services) status use (build.data state) :=
    .relabel (.within build.data_setData init_obeys)
  refine .bind entered fun _ => .bind initialized fun status => .ite (fun failed => ?_) fun succeeded => ?_
  · refine .bind (.modify ?_) fun _ => mainTask_obeys dispatches turns
    intro use state reached
    obtain ⟨stopped, logging⟩ := reached.2 failed
    refine ⟨logging, ?_, fun running => ?_⟩
    · rw [stopped]
      decide
    · rw [build.data_setData] at running
      nomatch running
  · refine (mainTask_obeys dispatches turns).weaken ?_ fun _ _ _ _ => trivial
    intro use state reached
    exact Serving.going ⟨false, reached.1 (not_not.mp succeeded)⟩

/-- In either build, from any state and whatever the services answer, no call of a whole run is made
before it may be. -/
theorem application_uses_in_order (services : InitServices) (bus : SoftwareBus) (codes : StatusCodes)
    (verdict : Message config.stringValLen → Verdict) (turns : List (Turn config)) (state : PlainState)
    (data : Data) :
    UsedInOrder services (((Build.plain bus config).main services turns).run state).trace ∧
      UsedInOrder services (((Build.eds codes config verdict).main services turns).run data).trace :=
  ⟨(main_obeys (plain_dispatches bus) turns).accepts rfl,
    (main_obeys (eds_dispatches codes verdict) turns).accepts rfl⟩

end Main

end FprimeGds.Soundness.ServiceUse
