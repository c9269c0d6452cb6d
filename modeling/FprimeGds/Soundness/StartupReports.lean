import FprimeGds.Proofs.App.Main

/-! # What the C application says of its own start

A run of the application is truthful if every failure of initialization or of a receive is reported
once, and the application is announced as initialized exactly if it is. It is, up to the table: a failed
registration of the table does not keep the announcement back, and a failed load is not even reported.
-/

namespace FprimeGds.Soundness.StartupReports

open Machine Model Model.Cfe Model.App Proofs.App

variable {config : Config}

/-- A system log entry or an error event. -/
def isFailureReport : MainAction config → Bool
  | .app (.writeToSysLog _) => true
  | .app (.sendEvent event) => event.eventType == .error
  | _ => false

/-- `FPRIME_GDS_PIPE_ERR_EID`. -/
def isPipeError : MainAction config → Bool
  | .app (.sendEvent event) => event.eventId == pipeErrEid
  | _ => false

/-- `FPRIME_GDS_INIT_INF_EID`. -/
def isAnnouncement : MainAction config → Bool
  | .app (.sendEvent event) => event.eventId == initInfEid
  | _ => false

/-- The report is of the kind owed: to the system log where there are no events yet. -/
def Owed (services : InitServices) (report : MainAction config) : Prop :=
  if services.evsRegister ≠ success then ∃ entry, report = .app (.writeToSysLog entry)
  else ∃ event, report = .app (.sendEvent event) ∧ event.eventType = .error

/-- In a run of `FPRIME_GDS_Main` whose initialization returned `status`, each failure is reported once
and success is announced. -/
structure Truthful (services : InitServices) (turns : List (Turn config)) (status : Status)
    (calls : List (MainAction config)) : Prop where
  failure : status ≠ success → ∃ report, calls.filter isFailureReport = [report] ∧ Owed services report
  receive : status = success → calls.filter isPipeError = if receiveFails turns then [pipeError] else []
  announced : (∃ action ∈ calls, isAnnouncement action = true) ↔ status = success

/-- Where the table is come to, it is registered and loaded. -/
def TableFollows (services : InitServices) : Prop :=
  services.evsRegister = success ∧ services.createPipe = success ∧
    services.subscribeSendHk = success ∧ services.subscribeCmd = success →
  services.tblRegister = success ∧ services.tblLoad = success

/-- The whole run, and the status of its initialization. -/
def TruthfulRun (bus : SoftwareBus) (services : InitServices) (turns : List (Turn config))
    (state : PlainState) : Prop :=
  Truthful services turns ((init config services).run state.data).value
    ((main bus services turns).run state).trace

/-! ## Filters that keep reports only -/

/-- Of the calls `FPRIME_GDS_Main` makes itself nothing is kept, and of the others only reports. -/
structure KeepsReports (kept : MainAction config → Bool) : Prop where
  reports : ∀ action, kept (.app action) = true → isReport action = true
  own : ∀ action, isOwn action = true → kept action = false

section Filters

theorem isFailureReport_keeps : KeepsReports (isFailureReport : MainAction config → Bool) := by
  constructor
  · intro action shown
    cases action with
    | sendEvent event => rfl
    | writeToSysLog entry => rfl
    | _ => exact absurd shown Bool.false_ne_true
  · intro action own
    cases action with
    | app action => exact absurd own Bool.false_ne_true
    | _ => rfl

theorem isPipeError_keeps : KeepsReports (isPipeError : MainAction config → Bool) := by
  constructor
  · intro action shown
    cases action with
    | sendEvent event => rfl
    | _ => exact absurd shown Bool.false_ne_true
  · intro action own
    cases action with
    | app action => exact absurd own Bool.false_ne_true
    | _ => rfl

theorem isAnnouncement_keeps : KeepsReports (isAnnouncement : MainAction config → Bool) := by
  constructor
  · intro action shown
    cases action with
    | sendEvent event => rfl
    | _ => exact absurd shown Bool.false_ne_true
  · intro action own
    cases action with
    | app action => exact absurd own Bool.false_ne_true
    | _ => rfl

/-- What of initialization passes such a filter. -/
theorem filter_init {kept : MainAction config → Bool} (keeps : KeepsReports kept) (trace : List Action) :
    (.perfLogEntry perfId :: trace.map .app).filter kept =
      (((trace.filter isReport).map .app).filter kept : List (MainAction config)) := by
  have selected : trace.filter (kept ∘ MainAction.app) =
      (trace.filter isReport).filter (kept ∘ MainAction.app) := by
    rw [List.filter_filter]
    apply List.filter_congr
    intro action _
    cases shown : kept (.app action) with
    | false => simp only [Function.comp, shown, Bool.false_and]
    | true => simp only [Function.comp, shown, keeps.reports action shown, Bool.and_self]
  rw [List.filter_cons_of_neg (Bool.eq_false_iff.mp (keeps.own _ rfl)), List.filter_map,
    List.filter_map, selected]

end Filters

/-! ## Outcomes -/

section Outcomes

variable {bus : SoftwareBus} {services : InitServices}

/-- What the first failure before the table leads to: a system log entry if it is the registration,
and else an error event of its own. -/
theorem failed_cases {before after : List (Attempt Action Status)} {failed : Attempt Action Status}
    (split : startup config services = before ++ failed :: after)
    (all : Attempt.AllGood success before) (bad : failed.answer ≠ success) :
    (services.evsRegister ≠ success ∧ failed = registration services) ∨
      services.evsRegister = success ∧ ∃ status eventId spec,
        eventId ≠ initInfEid ∧ failed.report = failureEvent status eventId spec := by
  by_cases registered : services.evsRegister = success
  · have member : failed ∈ startup config services := by
      rw [split]
      exact List.mem_append_right _ (List.mem_cons_self ..)
    simp only [startup, List.cons_append, List.nil_append, List.mem_cons, List.not_mem_nil, or_false]
      at member
    rcases member with rfl | rfl | rfl | rfl
    · exact absurd registered bad
    all_goals exact .inr ⟨registered, _, _, _, by decide, rfl⟩
  · left
    cases before with
    | nil => exact ⟨registered, (List.cons.inj split).1.symm⟩
    | cons first others =>
      have same := (List.cons.inj split).1
      have answered := all first (List.mem_cons_self ..)
      rw [← same] at answered
      exact absurd answered registered

/-- A whole run through a filter that hides what handlers do. -/
theorem filter_main {kept : MainAction config → Bool}
    (hidden : ∀ action, isStartupEvent action = false → kept (.app action) = false)
    (turns : List (Turn config)) (state : PlainState) :
    ((main bus services turns).run state).trace.filter kept =
      (.perfLogEntry perfId :: ((init config services).run state.data).trace.map .app).filter kept ++
        (if ((init config services).run state.data).value = success then running services.commandPipe turns
          else if turns = [] then [] else leaving .appError).filter kept :=
  main_filter (plain_neutral bus config) hidden services turns state

/-- All reports of a run whose initialization fails are those of initialization. -/
theorem filter_main_failed {kept : MainAction config → Bool} (keeps : KeepsReports kept)
    (turns : List (Turn config)) (state : PlainState)
    (failed : ((init config services).run state.data).value ≠ success) :
    ((main bus services turns).run state).trace.filter kept =
      ((((init config services).run state.data).trace.filter isReport).map .app).filter kept := by
  rw [main_failed (plain_neutral bus config) turns state failed, ← List.cons_append, List.filter_append,
    stopped_filter keeps.own turns .appError, List.append_nil, filter_init keeps]
  rfl

theorem exists_announcement_iff (calls : List (MainAction config)) :
    (∃ action ∈ calls, isAnnouncement action = true) ↔ calls.filter isAnnouncement ≠ [] := by
  rw [Ne, List.filter_eq_nil_iff]
  push Not
  rfl

/-- A failure before the table is reported once, and nothing is announced. -/
theorem truthful_of_startup_failed (some : ¬ Attempt.AllGood success (startup config services))
    (turns : List (Turn config)) (state : PlainState) : TruthfulRun bus services turns state := by
  obtain ⟨before, failed, after, split, all, bad⟩ := Attempt.exists_first_failure some
  obtain ⟨value, reports⟩ := init_failed split all bad state.data
  have notStarted : ((init config services).run state.data).value ≠ success := value ▸ bad
  have filtered {kept : MainAction config → Bool} (keeps : KeepsReports kept) :
      ((main bus services turns).run state).trace.filter kept = _ :=
    filter_main_failed keeps turns state notStarted
  refine ⟨fun _ => ⟨.app failed.report, ?_, ?_⟩, fun started => absurd started notStarted, ?_⟩
  · rw [filtered isFailureReport_keeps, reports]
    rcases failed_cases split all bad with ⟨_, rfl⟩ | ⟨_, status, eventId, spec, _, same⟩
    · rfl
    · rw [same]
      rfl
  · unfold Owed
    rcases failed_cases split all bad with ⟨unregistered, rfl⟩ | ⟨registered, status, eventId, spec, _, same⟩
    · rw [if_pos unregistered]
      exact ⟨_, rfl⟩
    · rw [if_neg (not_not.mpr registered), same]
      exact ⟨_, rfl, rfl⟩
  · refine iff_of_false ?_ notStarted
    rw [exists_announcement_iff, not_not, filtered isAnnouncement_keeps, reports]
    rcases failed_cases split all bad with ⟨_, rfl⟩ | ⟨_, status, eventId, spec, other, same⟩
    · rfl
    · have hidden : isAnnouncement (.app (failureEvent status eventId spec) : MainAction config) = false :=
        beq_false_of_ne other
      rw [same]
      exact List.filter_cons_of_neg (Bool.eq_false_iff.mp hidden)

/-- Once the table is come to, the application is announced whatever comes of it. -/
theorem announced_of_started (all : Attempt.AllGood success (startup config services))
    (turns : List (Turn config)) (state : PlainState) :
    ∃ action ∈ ((main bus services turns).run state).trace, isAnnouncement action = true := by
  have hidden : ∀ action, isStartupEvent action = false →
      isAnnouncement (.app action : MainAction config) = false := by
    intro action routine
    cases action with
    | sendEvent event => exact (Bool.or_eq_false_iff.mp routine).1
    | _ => rfl
  have announcing : .app (announcement services) ∈
      (((tableReports services).map .app).filter isAnnouncement : List (MainAction config)) := by
    refine List.mem_filter.mpr ⟨List.mem_map_of_mem ?_, rfl⟩
    exact List.mem_append_right _ (List.mem_singleton_self _)
  have run : ((main bus services turns).run state).trace.filter isAnnouncement = _ :=
    filter_main hidden turns state
  rw [filter_init isAnnouncement_keeps, (init_started all state.data).2] at run
  have member : .app (announcement services) ∈
      ((main bus services turns).run state).trace.filter isAnnouncement := by
    rw [run]
    exact List.mem_append_left _ announcing
  exact ⟨_, (List.mem_filter.mp member).1, rfl⟩

/-- An application that comes up reports a failed receive once, and is announced. -/
theorem truthful_of_table (all : Attempt.AllGood success (startup config services))
    (registered : services.tblRegister = success) (loaded : services.tblLoad = success)
    (turns : List (Turn config)) (state : PlainState) : TruthfulRun bus services turns state := by
  have hidden : ∀ action, isStartupEvent action = false →
      isPipeError (.app action : MainAction config) = false := by
    intro action routine
    cases action with
    | sendEvent event => exact (Bool.or_eq_false_iff.mp routine).2
    | _ => rfl
  obtain ⟨value, reports⟩ := init_started all state.data
  have started := value.trans ((tableStatus_eq_success_iff services).mpr ⟨registered, loaded⟩)
  have run : ((main bus services turns).run state).trace.filter isPipeError = _ :=
    filter_main hidden turns state
  refine ⟨fun failed => absurd started failed, fun _ => ?_, ?_⟩
  · rw [run, filter_init isPipeError_keeps, reports, if_pos started,
      running_filter isPipeError_keeps.own, tableReports, if_neg (not_not.mpr registered)]
    rfl
  · exact iff_of_true (announced_of_started all turns state) started

/-- Where the table fails the application is announced although it exits. -/
theorem not_truthful_of_table_failed (all : Attempt.AllGood success (startup config services))
    (failed : tableStatus services ≠ success) (turns : List (Turn config)) (state : PlainState) :
    ¬ TruthfulRun bus services turns state := by
  intro truthful
  have started := truthful.announced.mp (announced_of_started all turns state)
  exact failed ((init_started all state.data).1.symm.trans started)

end Outcomes

/-- Reports are truthful exactly if the table follows whenever it is come to. -/
theorem truthfulRun_iff (bus : SoftwareBus) (config : Config) (services : InitServices)
    (turns : List (Turn config)) (state : PlainState) :
    TruthfulRun bus services turns state ↔ TableFollows services := by
  unfold TableFollows
  rw [← allGood_startup_iff config, ← tableStatus_eq_success_iff]
  by_cases all : Attempt.AllGood success (startup config services)
  · rw [iff_of_true all trivial, true_imp_iff]
    constructor
    · intro truthful
      by_contra failed
      exact not_truthful_of_table_failed all failed turns state truthful
    · intro follows
      obtain ⟨registered, loaded⟩ := (tableStatus_eq_success_iff services).mp follows
      exact truthful_of_table all registered loaded turns state
  · exact iff_of_true (truthful_of_startup_failed all turns state) fun good => absurd good all

/-- The answers of services that all succeed, the table's apart. -/
def withTable (tblRegister tblLoad : Status) : InitServices :=
  ⟨success, success, 3, success, success, tblRegister, 5, tblLoad, "v7.0.0"⟩

/-- A table that cannot be loaded: no failure is reported, and the application exits announced. A table
that cannot be registered: the application exits announced, too. -/
theorem table_failures_announced :
    let bus : SoftwareBus := ⟨fun msgId => msgId != 0, 0, rfl⟩
    let config : Config := ⟨0x1882, 0x1883, 0x0883, 8, 16, 10⟩
    let turns : List (Turn config) := []
    ¬ TruthfulRun bus (withTable success (-1)) turns (.cold bus .zero) ∧
      ((main bus (withTable success (-1)) turns).run (.cold bus .zero)).trace.filter isFailureReport = [] ∧
      ¬ TruthfulRun bus (withTable (-1) success) turns (.cold bus .zero) := by
  intro bus config turns
  have all (tblRegister tblLoad : Status) :
      Attempt.AllGood success (startup config (withTable tblRegister tblLoad)) :=
    (allGood_startup_iff config _).mpr ⟨rfl, rfl, rfl, rfl⟩
  exact ⟨not_truthful_of_table_failed (all _ _) (by decide) turns _, rfl,
    not_truthful_of_table_failed (all _ _) (by decide) turns _⟩

end FprimeGds.Soundness.StartupReports
