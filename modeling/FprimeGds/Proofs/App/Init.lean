import FprimeGds.Machine.Attempt
import FprimeGds.Machine.Refinement
import FprimeGds.Model.App.Init

/-! # What initialization leaves and reports

Whatever the services answer, `FPRIME_GDS_Init` leaves both counters and the housekeeping payload zero:
it clears the global data first, and no later block touches these fields except to clear them again.
To an observer of its reports the four services called before the table are attempts of one kind, and
the table is only come to if all of them succeed.
-/

namespace FprimeGds.Proofs.App

open Machine Model Model.Cfe Model.App

/-- Nothing counted and nothing reported yet. -/
def Zeroed (data : Data) : Prop := data.cmdCounter = 0 ∧ data.errCounter = 0 ∧ data.hkTlm = .zero

theorem ifSuccess_preserves {property : Data → Prop} {block : AppExec Status} (status : Status)
    (kept : Exec.Preserves property block) : Exec.Preserves property (ifSuccess status block) :=
  .ite kept (.pure status)

theorem reportFailure_preserves {property : Data → Prop} (status : Status) (eventId : ℕ)
    (spec : String) : Exec.Preserves property (reportFailure status eventId spec) :=
  .ite (.perform _) (.pure ())

theorem subscribe_preserves {property : Data → Prop} (msgId : MsgId) (answer : Status) (eventId : ℕ)
    (spec : String) : Exec.Preserves property (subscribe msgId answer eventId spec) :=
  .bind .get fun _ => .bind (.perform _) fun _ =>
    .bind (reportFailure_preserves answer eventId spec) fun _ => .pure answer

section Blocks

variable (config : Config) (services : InitServices)

theorem registerEvents_zeroed : Exec.Preserves Zeroed (registerEvents config services) := by
  have pipe : Exec.Preserves Zeroed (createCommandPipe config services) :=
    .bind (.perform _) fun _ =>
      .bind (fun _ zeroed => ⟨zeroed.1, zeroed.2.1, rfl⟩) fun _ =>
        .bind (.perform _) fun _ => .bind (fun _ zeroed => zeroed) fun _ =>
          .bind (reportFailure_preserves _ _ _) fun _ => .pure _
  exact .bind (.perform _) fun _ => .ite (.bind (.perform _) fun _ => .pure _) pipe

theorem registerTables_zeroed : Exec.Preserves Zeroed (registerTables services) := by
  have load : Exec.Preserves Zeroed (loadTable services) :=
    .ite (.bind (.perform _) fun _ => .pure _)
      (.bind .get fun _ => .bind (.perform _) fun _ => .pure _)
  exact .bind (.perform _) fun _ => .bind (fun _ zeroed => zeroed) fun _ =>
    .bind load fun status => .bind (.perform _) fun _ => .pure status

/-- Initialization leaves zeroed counters and telemetry, whether it succeeds or not. -/
theorem init_zeroed (data : Data) : Zeroed ((init config services).run data).state := by
  have cleared : Exec.Ensures (fun _ => True) zeroData fun _ => Zeroed := by
    intro data _
    exact ⟨rfl, rfl, rfl⟩
  have blocks : Exec.Ensures (fun _ => True) (init config services) fun _ => Zeroed :=
    .bind cleared fun _ => .bind (registerEvents_zeroed config services) fun status =>
      .bind (ifSuccess_preserves status (subscribe_preserves _ _ _ _)) fun status =>
        .bind (ifSuccess_preserves status (subscribe_preserves _ _ _ _)) fun status =>
          ifSuccess_preserves status (registerTables_zeroed services)
  exact blocks data trivial

end Blocks

/-! ## What initialization reports -/

/-- An action that tells an operator something. -/
def isReport : Action → Bool
  | .sendEvent _ => true
  | .writeToSysLog _ => true
  | _ => false

section Startup

variable (config : Config) (services : InitServices)

/-- The error event with the status of a service. -/
def failureEvent (status : Status) (eventId : ℕ) (spec : String) : Action :=
  .sendEvent ⟨eventId, .error, spec, [.number status.toUnsignedLong]⟩

def registration : Attempt Action Status where
  call := .evsRegister
  answer := services.evsRegister
  report := .writeToSysLog ⟨"F Prime App: Error Registering Events, RC = 0x%08lX\n",
    [.number services.evsRegister.toUnsignedLong]⟩

def pipeCreation : Attempt Action Status where
  call := .createPipe 32 "FPRIME_GDS_CMD_PIPE"
  answer := services.createPipe
  report := failureEvent services.createPipe crPipeErrEid
    "F Prime App: Error creating SB Command Pipe, RC = 0x%08lX"

def subscription (msgId : MsgId) (answer : Status) (eventId : ℕ) (spec : String) :
    Attempt Action Status where
  call := .subscribe msgId services.commandPipe
  answer := answer
  report := failureEvent answer eventId spec

def hkSubscription : Attempt Action Status :=
  subscription services config.sendHkMid services.subscribeSendHk subHkErrEid
    "F Prime App: Error Subscribing to HK request, RC = 0x%08lX"

def cmdSubscription : Attempt Action Status :=
  subscription services config.cmdMid services.subscribeCmd subCmdErrEid
    "F Prime App: Error Subscribing to Commands, RC = 0x%08lX"

/-- Everything that is tried before the table. -/
def startup : List (Attempt Action Status) :=
  [registration services, pipeCreation services] ++ [hkSubscription config services] ++
    [cmdSubscription config services]

theorem registerEvents_refines : Exec.Refines isReport (registerEvents config services)
    (Attempt.performAll success [registration services, pipeCreation services] : AppExec Status) := by
  unfold registerEvents createCommandPipe reportFailure ifFailure
  by_cases registered : services.evsRegister = success
  · rw [Attempt.performAll_cons_good registered, if_neg (not_not.mpr registered)]
    by_cases created : services.createPipe = success
    · rw [Attempt.performAll_cons_good created, if_neg (not_not.mpr created), created]
      exact fun _ _ => ⟨rfl, rfl⟩
    · rw [Attempt.performAll_cons_bad created, if_pos created]
      exact fun _ _ => ⟨rfl, rfl⟩
  · rw [Attempt.performAll_cons_bad registered, if_pos registered]
    exact fun _ _ => ⟨rfl, rfl⟩

theorem subscribe_refines (msgId : MsgId) (answer : Status) (eventId : ℕ) (spec : String) :
    Exec.Refines isReport (subscribe msgId answer eventId spec)
      (Attempt.performAll success [subscription services msgId answer eventId spec] : AppExec Status) := by
  unfold subscribe reportFailure ifFailure
  by_cases subscribed : answer = success
  · rw [Attempt.performAll_cons_good (show (subscription ..).answer = success from subscribed),
      if_neg (not_not.mpr subscribed), subscribed]
    exact fun _ _ => ⟨rfl, rfl⟩
  · rw [Attempt.performAll_cons_bad (show (subscription ..).answer ≠ success from subscribed),
      if_pos subscribed]
    exact fun _ _ => ⟨rfl, rfl⟩

/-- What the table block returns. -/
def tableStatus : Status :=
  if services.tblRegister ≠ success then services.tblRegister else services.tblLoad

/-- `FPRIME_GDS_INIT_INF_EID`. -/
def announcement : Action :=
  .sendEvent ⟨initInfEid, .information, "F Prime App Initialized.%s", [.string services.versionString]⟩

/-- What the table block reports: a failed registration, but not a failed load, and then in any case
that the application is initialized. -/
def tableReports : List Action :=
  (if services.tblRegister ≠ success then
    [failureEvent services.tblRegister tableRegErrEid
      "F Prime App: Error Registering Example Table, RC = 0x%08lX"]
  else []) ++ [announcement services]

theorem registerTables_run (data : Data) :
    ((registerTables services).run data).value = tableStatus services ∧
      ((registerTables services).run data).trace.filter isReport = tableReports services := by
  unfold registerTables loadTable tableStatus tableReports
  by_cases registered : services.tblRegister = success
  · simp only [if_neg (not_not.mpr registered)]
    exact ⟨rfl, rfl⟩
  · simp only [if_pos registered]
    exact ⟨rfl, rfl⟩

theorem ifSuccess_refines {block abstract : AppExec Status} (refines : Exec.Refines isReport block abstract)
    (status : Status) : Exec.Refines isReport (ifSuccess status block) (ifSuccess status abstract) := by
  unfold ifSuccess
  split_ifs
  · exact refines
  · exact .pure status

/-- To an observer of its reports initialization is four attempts and the table block. -/
theorem init_refines : Exec.Refines isReport (init config services) (do
    let status ← Attempt.performAll success (startup config services)
    ifSuccess status (registerTables services) : AppExec Status) := by
  have tables : Exec.Refines isReport (registerTables services) (registerTables services) := by
    intro data other
    obtain ⟨value, reports⟩ := registerTables_run services data
    obtain ⟨otherValue, otherReports⟩ := registerTables_run services other
    exact ⟨value.trans otherValue.symm, reports.trans otherReports.symm⟩
  rw [startup, Attempt.performAll_append, Attempt.performAll_append, Exec.bind_assoc, Exec.bind_assoc]
  refine .skip (.bind (.modify _) fun _ => .modify _) fun _ =>
    .bind (registerEvents_refines config services) fun status => ?_
  refine .bind (ifSuccess_refines (subscribe_refines services _ _ _ _) status) fun status => ?_
  exact .bind (ifSuccess_refines (subscribe_refines services _ _ _ _) status) fun status =>
    ifSuccess_refines tables status

theorem allGood_startup_iff : Attempt.AllGood success (startup config services) ↔
    services.evsRegister = success ∧ services.createPipe = success ∧
      services.subscribeSendHk = success ∧ services.subscribeCmd = success := by
  simp only [Attempt.AllGood, startup, registration, pipeCreation, hkSubscription, cmdSubscription,
    subscription, List.cons_append, List.nil_append, List.forall_mem_cons, List.not_mem_nil,
    false_implies, implies_true, and_true]

theorem tableStatus_eq_success_iff : tableStatus services = success ↔
    services.tblRegister = success ∧ services.tblLoad = success := by
  rw [tableStatus]
  by_cases registered : services.tblRegister = success
  · rw [if_neg (not_not.mpr registered)]
    exact (and_iff_right registered).symm
  · rw [if_pos registered]
    exact iff_of_false registered fun both => registered both.1

/-- The attempts themselves are not reports. -/
theorem startup_hidden : ∀ attempt ∈ startup config services, isReport attempt.call = false := by
  simp only [startup, List.cons_append, List.nil_append, List.forall_mem_cons, List.not_mem_nil,
    false_implies, implies_true, and_true]
  exact ⟨rfl, rfl, rfl, rfl⟩

variable {config services}

/-- If everything before it succeeds, the table decides the status and what is reported. -/
theorem init_started (all : Attempt.AllGood success (startup config services)) (data : Data) :
    ((init config services).run data).value = tableStatus services ∧
      ((init config services).run data).trace.filter isReport = tableReports services := by
  obtain ⟨value, reports⟩ := init_refines config services data data
  obtain ⟨tableValue, tables⟩ := registerTables_run services data
  rw [value, reports, Exec.run_bind, Attempt.run_performAll_good data all, ifSuccess, if_pos rfl,
    List.filter_append, Attempt.filter_calls (startup_hidden config services), tables]
  exact ⟨tableValue, rfl⟩

/-- Otherwise the first failure is returned and reported, and nothing else is. -/
theorem init_failed {before after : List (Attempt Action Status)} {failed : Attempt Action Status}
    (split : startup config services = before ++ failed :: after)
    (all : Attempt.AllGood success before) (bad : failed.answer ≠ success) (data : Data) :
    ((init config services).run data).value = failed.answer ∧
      ((init config services).run data).trace.filter isReport = [failed.report].filter isReport := by
  obtain ⟨value, reports⟩ := init_refines config services data data
  have hidden := startup_hidden config services
  rw [split, List.forall_mem_append, List.forall_mem_cons] at hidden
  obtain ⟨earlier, last, -⟩ := hidden
  rw [value, reports, Exec.run_bind, split, Attempt.run_performAll_bad data all bad, ifSuccess,
    if_neg bad, Exec.run_pure, List.append_nil]
  refine ⟨rfl, ?_⟩
  rw [List.filter_append, Attempt.filter_calls earlier, List.nil_append,
    List.filter_cons_of_neg (Bool.eq_false_iff.mp last)]

theorem init_value_iff (data : Data) : ((init config services).run data).value = success ↔
    Attempt.AllGood success (startup config services) ∧ tableStatus services = success := by
  by_cases all : Attempt.AllGood success (startup config services)
  · rw [(init_started all data).1]
    exact (and_iff_right all).symm
  · obtain ⟨before, failed, after, split, good, bad⟩ := Attempt.exists_first_failure all
    rw [(init_failed split good bad data).1]
    exact iff_of_false bad fun both => all both.1

end Startup

/-! ## Success -/

section Success

/-- What the services called by `FPRIME_GDS_Init` answer, in the order of the calls. -/
def initSteps (services : InitServices) : List Status :=
  [services.evsRegister, services.createPipe, services.subscribeSendHk, services.subscribeCmd,
    services.tblRegister, services.tblLoad]

/-- No step of initialization fails. -/
def Initializes (services : InitServices) : Prop := ∀ status ∈ initSteps services, status = success

instance (services : InitServices) : Decidable (Initializes services) :=
  inferInstanceAs (Decidable (∀ status ∈ _, _))

theorem initializes_iff {config : Config} {services : InitServices} (data : Data) :
    ((init config services).run data).value = success ↔ Initializes services := by
  rw [init_value_iff, allGood_startup_iff, tableStatus_eq_success_iff]
  simp only [Initializes, initSteps, List.forall_mem_cons, List.not_mem_nil, false_implies,
    implies_true, and_true, and_assoc]

end Success

end FprimeGds.Proofs.App
