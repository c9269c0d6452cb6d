import FprimeGds.Machine.Monitor
import FprimeGds.Proofs.Bridge.Main

/-! # The topology is used in the order its header asks for

Setting up has seven steps and tearing down five, in an order F Prime topologies depend on: components
are initialized, identified, connected, configured and loaded before tasks start, nothing is dispatched
or cycled unless tasks run, and nothing is deallocated before all of them are joined. A task nobody
deletes keeps to that order whatever its calls answer. The delete callback begins by stopping the tasks,
so a deletion is in order exactly while they run.
-/

namespace FprimeGds.Soundness.TopologyUse

open Machine Model Model.Cfe Model.Bridge Proofs.Bridge

/-! ## The order -/

/-- What has been done to the components and their tasks. -/
inductive Stage where
  | absent
  | initialized
  | identified
  | connected
  | configured
  | loaded
  | started
  | stopped
  | freed
  | tornDown
  | exited
deriving DecidableEq, Repr

/-- The socket task, which no active component owns. -/
inductive Driver where
  | idle
  | configured
  | receiving
  | terminated
  | stopped
  | joined
deriving DecidableEq, Repr

structure Use where
  stage : Stage
  timerRuns : Bool
  driver : Driver
deriving DecidableEq, Repr

namespace Use

/-- Nothing of the topology has been touched. -/
def fresh : Use := ⟨.absent, false, .idle⟩

/-- Go from one stage to the next. -/
def advance (use : Use) (source target : Stage) : Option Use :=
  if use.stage = source then some { use with stage := target } else none

def setTimer (use : Use) (stage : Stage) (runs : Bool) : Option Use :=
  if use.stage = stage ∧ use.timerRuns ≠ runs then some { use with timerRuns := runs } else none

def setDriver (use : Use) (stage : Stage) (allowed : List Driver) (driver : Driver) : Option Use :=
  if use.stage = stage ∧ use.driver ∈ allowed then some { use with driver := driver } else none

end Use

/-- The driver may be terminated, stopped and joined although it was never started. -/
def useTopology (use : Use) : TopologyCall → Option Use
  | .initComponents _ => use.advance .absent .initialized
  | .setBaseIds => use.advance .initialized .identified
  | .connectComponents => use.advance .identified .connected
  | .configComponents _ => use.advance .connected .configured
  | .comDriverConfigure _ _ => use.setDriver .configured [.idle] .configured
  | .startTimer _ _ => use.setTimer .configured true
  | .loadParameters => if use.timerRuns then use.advance .configured .loaded else none
  | .startTasks _ => use.advance .loaded .started
  | .comDriverStart _ _ _ => use.setDriver .started [.configured] .receiving
  | .pollingTimerCycle => if use.stage = .started ∧ use.timerRuns then some use else none
  | .stopTasks _ => use.advance .started .stopped
  | .freeThreads _ => use.advance .stopped .freed
  | .pollingTimerStop => use.setTimer .freed false
  | .comDriverTerminate => use.setDriver .freed [.idle, .configured, .receiving] .terminated
  | .comDriverStop => use.setDriver .freed [.terminated] .stopped
  | .comDriverJoin => use.setDriver .freed [.stopped] .joined
  | .tearDownComponents _ =>
    if use.timerRuns = false ∧ use.driver = .joined then use.advance .freed .tornDown else none

/-- Messages are dispatched while tasks run. The task exits without a topology, and does nothing more. -/
def topologyUse : Monitor Use Action
  | use, .topology call => useTopology use call
  | use, .process => if use.stage = .started then some use else none
  | use, .exitApp _ =>
    if use.stage = .absent ∨ use.stage = .tornDown then some { use with stage := .exited } else none
  | use, _ => if use.stage = .exited then none else some use

/-- Every call is in order. -/
def UsedInOrder (calls : List Action) : Prop := topologyUse.Accepts .fresh calls

def isStart : Action → Bool
  | .topology (.startTasks _) => true
  | _ => false

def isStop : Action → Bool
  | .topology (.stopTasks _) => true
  | _ => false

/-- The task is not deleted, or it is while the tasks of the topology run. -/
def WhileStarted (deletedAfter : Option (List Action)) : Prop :=
  ∀ before ∈ deletedAfter, before.any isStart = true ∧ before.any isStop = false

/-! ## A task nobody deletes -/

section Task

/-- Tasks and timer run. -/
def Up (use : Use) : Prop := use.stage = .started ∧ use.timerRuns = true ∧
  use.driver ∈ [Driver.idle, .configured, .receiving]

theorem setupTopology_obeys (inputs : TopologyState) : Exec.Obeys topologyUse
    (fun use _ => use = .fresh) (setupTopology inputs) fun _ use _ => Up use := by
  rintro _ state rfl
  obtain ⟨hostname, port⟩ := inputs
  cases hostname with
  | none => exact ⟨_, rfl, rfl, rfl, by decide⟩
  | some hostname =>
    unfold setupTopology ifAddressed
    dsimp only
    split_ifs with addressed
    · exact ⟨_, rfl, rfl, rfl, by decide⟩
    · exact ⟨_, rfl, rfl, rfl, by decide⟩

theorem teardownTopology_obeys (inputs : TopologyState) : Exec.Obeys topologyUse
    (fun use _ => Up use) (teardownTopology inputs) fun _ use _ => use.stage = .tornDown := by
  rintro ⟨stage, timerRuns, driver⟩ state ⟨started, runs, known⟩
  dsimp only at started runs known
  subst started runs
  simp only [List.mem_cons, List.not_mem_nil, or_false] at known
  rcases known with rfl | rfl | rfl
  all_goals exact ⟨_, rfl, rfl⟩

/-- A call that only a task that has exited may not make. -/
theorem topologyUse_attempt (services : InitServices) (apids : List Apid) {use : Use}
    (alive : use.stage ≠ .exited) : ∀ attempt ∈ attempts services apids,
      topologyUse use attempt.call = some use ∧ topologyUse use attempt.report = some use :=
  forall_attempts services ⟨if_neg alive, if_neg alive⟩ ⟨if_neg alive, if_neg alive⟩
    (fun _ => ⟨if_neg alive, if_neg alive⟩) apids

theorem bringUp_obeys (services : InitServices) (inputs : TopologyState) : Exec.Obeys topologyUse
    (fun use _ => use = .fresh) (bringUp services inputs) fun _ use _ => Up use := by
  have installed : Exec.Obeys topologyUse (fun use (_ : TopologyState) => use = .fresh)
      (Exec.perform .installDeleteHandler) fun _ use _ => use = .fresh := by
    apply Exec.Obeys.perform
    rintro _ state rfl
    exact ⟨_, rfl, rfl⟩
  refine .bind installed fun _ => .bind (setupTopology_obeys inputs) fun _ => .perform ?_
  intro use state up
  have alive : use.stage ≠ .exited := by
    rw [up.1]
    decide
  exact ⟨use, if_neg alive, up⟩

/-- Initialization brings the topology up, or has not touched it. -/
theorem init_obeys (services : InitServices) (apids : List Apid) (inputs : TopologyState) :
    Exec.Obeys topologyUse (fun use _ => use = .fresh) (init services apids inputs)
      fun status use _ => (status = success → Up use) ∧ (status ≠ success → use = .fresh) := by
  rintro _ state rfl
  have ignored := topologyUse_attempt services apids
    (show Use.fresh.stage ≠ .exited by decide)
  by_cases all : Attempt.AllGood success (attempts services apids)
  · obtain ⟨use, read, up⟩ := bringUp_obeys services inputs .fresh state rfl
    rw [init_run_good inputs state all]
    refine ⟨use, ?_, fun _ => up, fun failed => absurd rfl failed⟩
    rw [Monitor.watch_append_of_eq, read]
    apply Monitor.watch_of_fixed
    rw [List.forall_mem_map]
    exact fun attempt member => (ignored attempt member).1
  · obtain ⟨before, failed, after, split, good, bad⟩ := Attempt.exists_first_failure all
    rw [split, List.forall_mem_append, List.forall_mem_cons] at ignored
    obtain ⟨earlier, last, -⟩ := ignored
    rw [init_run_bad inputs state split good bad]
    refine ⟨.fresh, Monitor.watch_of_fixed ?_, fun succeeded => absurd succeeded bad, fun _ => rfl⟩
    rw [List.forall_mem_append, List.forall_mem_map, List.forall_mem_cons, List.forall_mem_singleton]
    exact ⟨fun attempt member => (earlier attempt member).1, last⟩

section Loop

/-- An action that leaves a running topology as it is. -/
theorem ignored_obeys {action : Action}
    (harmless : ∀ use : Use, Up use → topologyUse use action = some use) :
    Exec.Obeys topologyUse (fun use (_ : TopologyState) => Up use) (Exec.perform action)
      fun _ use _ => Up use :=
  .perform fun use _ up => ⟨use, harmless use up, up⟩

theorem Up.alive {use : Use} (up : Up use) : use.stage ≠ .exited := by
  rw [up.1]
  decide

theorem processMessage_obeys (dispatched : MsgDispatchStatus) (runStatus : RunStatus) :
    Exec.Obeys topologyUse (fun use _ => Up use) (processMessage dispatched runStatus)
      fun _ use _ => Up use := by
  refine .bind (ignored_obeys fun use up => if_pos up.1) fun _ => ?_
  cases dispatched with
  | other code =>
    exact .bind (ignored_obeys fun use up => if_neg up.alive) fun _ => .pure fun _ _ up => up
  | msgDispatchOk | msgDispatchEmpty | msgDispatchExit => exact .pure fun _ _ up => up

theorem cycleTopology_obeys :
    Exec.Obeys topologyUse (fun use _ => Up use) cycleTopology fun _ use _ => Up use :=
  .bind (ignored_obeys fun _ up => if_neg up.alive) fun _ =>
    .bind (ignored_obeys fun _ up => if_pos ⟨up.1, up.2.1⟩) fun _ =>
    ignored_obeys fun _ up => if_neg up.alive

/-- Iterations leave the topology up, however many there are and whatever ends them. -/
theorem mainLoop_obeys (turns : List Turn) (runStatus : RunStatus) :
    Exec.Obeys topologyUse (fun use _ => Up use) (mainLoop turns runStatus) fun _ use _ => Up use := by
  induction turns generalizing runStatus with
  | nil => exact .pure fun _ _ up => up
  | cons turn rest ih =>
    unfold mainLoop
    generalize runLoop turn.exitRequest runStatus = guard
    obtain ⟨again, runStatus⟩ := guard
    refine .ite (fun _ => ?_) fun _ => .pure fun _ _ up => up
    exact .bind (processMessage_obeys _ _) fun _ => .bind cycleTopology_obeys fun _ =>
      .bind (ignored_obeys fun _ up => if_neg up.alive) fun _ => ih _

end Loop

theorem mainTask_obeys (turns : List Turn) (inputs : TopologyState) :
    Exec.Obeys topologyUse (fun use _ => Up use) (mainTask turns inputs) fun _ _ _ => True := by
  refine .bind (mainLoop_obeys turns .appRun) fun ended => ?_
  cases ended with
  | none => exact .pure fun _ _ _ => trivial
  | some status =>
    refine .bind (teardownTopology_obeys inputs) fun _ => .perform ?_
    exact fun use _ tornDown => ⟨_, if_pos (.inr tornDown), trivial⟩

/-- A task nobody deletes uses the topology in order. -/
theorem program_usedInOrder (apids : PacketApids) (services : InitServices) (turns : List Turn) :
    UsedInOrder (program apids services turns) := by
  have booted : Exec.Obeys topologyUse (fun use (_ : TopologyState) => use = .fresh)
      (Exec.perform .osInit) fun _ use _ => use = .fresh := by
    apply Exec.Obeys.perform
    rintro _ _ rfl
    exact ⟨_, rfl, rfl⟩
  have assigned (update : TopologyState → TopologyState) :
      Exec.Obeys topologyUse (fun use _ => use = .fresh) (Exec.modify update) fun _ use _ => use = .fresh :=
    .modify fun _ _ fresh => fresh
  have whole : Exec.Obeys topologyUse (fun use _ => use = .fresh) (main apids services turns)
      fun _ _ _ => True := by
    refine .bind booted fun _ => .bind (assigned _) fun _ => .bind (assigned _) fun _ =>
      .bind .get fun inputs => ?_
    refine .bind ((init_obeys services (downlinkApids apids) inputs).weaken
      (fun _ _ start => start.2) fun _ _ _ reached => reached) fun status => ?_
    refine .ite (fun failed => .perform ?_) fun succeeded => ?_
    · rintro use _ ⟨_, untouched⟩
      rw [untouched failed]
      exact ⟨_, rfl, trivial⟩
    · exact (mainTask_obeys turns inputs).weaken
        (fun _ _ reached => reached.1 (not_not.mp succeeded)) fun _ _ _ _ => trivial
  exact whole.accepts rfl

end Task

/-! ## A task deleted at any point -/

section Record

@[simp] theorem Use.advance_eq_some {use next : Use} {source target : Stage} :
    use.advance source target = some next ↔ use.stage = source ∧ { use with stage := target } = next := by
  simp only [Use.advance, Option.ite_none_right_eq_some, Option.some.injEq]

@[simp] theorem Use.setTimer_eq_some {use next : Use} {stage : Stage} {runs : Bool} :
    use.setTimer stage runs = some next ↔
      (use.stage = stage ∧ use.timerRuns ≠ runs) ∧ { use with timerRuns := runs } = next := by
  simp only [Use.setTimer, Option.ite_none_right_eq_some, Option.some.injEq]

@[simp] theorem Use.setDriver_eq_some {use next : Use} {stage : Stage} {allowed : List Driver}
    {driver : Driver} : use.setDriver stage allowed driver = some next ↔
      (use.stage = stage ∧ use.driver ∈ allowed) ∧ { use with driver := driver } = next := by
  simp only [Use.setDriver, Option.ite_none_right_eq_some, Option.some.injEq]

/-- What is known of the calls made so far and of timer and driver, by stage. -/
def Recorded (calls : List Action) (use : Use) : Prop :=
  match use.stage with
  | .absent | .initialized | .identified | .connected | .configured =>
    calls.any isStart = false ∧ calls.any isStop = false ∧ use.driver ∈ [Driver.idle, .configured, .receiving]
  | .loaded =>
    calls.any isStart = false ∧ calls.any isStop = false ∧ use.timerRuns = true ∧
      use.driver ∈ [Driver.idle, .configured, .receiving]
  | .started => calls.any isStart = true ∧ calls.any isStop = false ∧ Up use
  | .stopped | .freed | .tornDown => calls.any isStop = true
  | .exited => calls.any isStart = false ∨ calls.any isStop = true

/-- Other actions than starting and stopping the tasks change nothing of what calls show. -/
theorem recorded_append {calls : List Action} {action : Action} (use : Use)
    (noStart : isStart action = false) (noStop : isStop action = false) :
    Recorded (calls ++ [action]) use ↔ Recorded calls use := by
  have same : ∀ shows : Action → Bool, shows action = false →
      (calls ++ [action]).any shows = calls.any shows := by
    intro shows hidden
    simp only [List.any_append, List.any_cons, hidden, List.any_nil, Bool.or_false]
  simp only [Recorded, same isStart noStart, same isStop noStop]

/-- One more call in order. Where a stage is entered, the stage it is entered from says what is known. -/
theorem Recorded.step {calls : List Action} {action : Action} {use next : Use}
    (recorded : Recorded calls use) (step : topologyUse use action = some next) :
    Recorded (calls ++ [action]) next := by
  obtain ⟨stage, timerRuns, driver⟩ := use
  cases action with
  | topology call =>
    cases call with
    | startTasks state =>
      obtain ⟨rfl, rfl⟩ := Use.advance_eq_some.mp step
      obtain ⟨_, notStopped, runs, known⟩ := recorded
      refine ⟨?_, ?_, rfl, runs, known⟩
      · rw [List.any_append, List.any_cons, isStart, Bool.true_or, Bool.or_true]
      · rw [List.any_append, notStopped]
        rfl
    | stopTasks state =>
      obtain ⟨rfl, rfl⟩ := Use.advance_eq_some.mp step
      show (calls ++ [_]).any isStop = true
      rw [List.any_append, List.any_cons, isStop, Bool.true_or, Bool.or_true]
    | comDriverStart name priority stackSize =>
      rw [recorded_append _ rfl rfl]
      obtain ⟨⟨rfl, _⟩, rfl⟩ := Use.setDriver_eq_some.mp step
      obtain ⟨tasksStarted, notStopped, _, runs, _⟩ := recorded
      have receiving : Driver.receiving ∈ [Driver.idle, .configured, .receiving] := by decide
      exact ⟨tasksStarted, notStopped, rfl, runs, receiving⟩
    | pollingTimerCycle | loadParameters | tearDownComponents =>
      rw [recorded_append _ rfl rfl]
      simp only [topologyUse, useTopology, Option.ite_none_right_eq_some, Use.advance_eq_some,
        Option.some.injEq] at step
      grind [Recorded]
    | _ =>
      rw [recorded_append _ rfl rfl]
      simp only [topologyUse, useTopology, Use.advance_eq_some, Use.setTimer_eq_some,
        Use.setDriver_eq_some] at step
      grind [Recorded]
  | _ =>
    rw [recorded_append _ rfl rfl]
    simp only [topologyUse, Option.ite_none_left_eq_some, Option.ite_none_right_eq_some,
      Option.some.injEq] at step
    grind [Recorded]

/-- The tasks run exactly if they have been started and not stopped. -/
theorem Recorded.up_iff {calls : List Action} {use : Use} (recorded : Recorded calls use) :
    Up use ↔ calls.any isStart = true ∧ calls.any isStop = false := by
  obtain ⟨stage, timerRuns, driver⟩ := use
  cases stage with
  | started =>
    obtain ⟨tasksStarted, notStopped, up⟩ := recorded
    exact ⟨fun _ => ⟨tasksStarted, notStopped⟩, fun _ => up⟩
  | _ => grind [Recorded, Up]

theorem recorded_of_watch {calls : List Action} {use : Use}
    (read : topologyUse.watch .fresh calls = some use) : Recorded calls use := by
  have initial : Recorded [] .fresh := ⟨rfl, rfl, by decide⟩
  exact Monitor.watch_history Recorded initial (fun _ _ _ _ recorded step => recorded.step step) read

end Record

section Deleted

variable (apids : PacketApids) (services : InitServices) (turns : List Turn)

/-- The callback begins by stopping the tasks. -/
theorem callback_begins : ∃ state rest, callback apids services turns =
    .enter .teardownTopology :: .topology (.stopTasks state) :: rest := ⟨_, _, rfl⟩

/-- From running tasks the callback is in order to its end. -/
theorem callback_accepts {use : Use} (up : Up use) :
    topologyUse.Accepts use (callback apids services turns) := by
  have obeys : Exec.Obeys topologyUse (fun use _ => Up use) deleteCallback fun _ _ _ => True :=
    .bind .get fun inputs => (teardownTopology_obeys inputs).weaken (fun _ _ start => start.2)
      fun _ _ _ _ => trivial
  exact obeys.accepts up

variable {apids services turns} {task : DeletableTask Action}

theorem usedInOrder_of_whileStarted (life : Life apids services turns task)
    (timely : WhileStarted task.deletedAfter) : UsedInOrder task.done := by
  have consistent := DeletableTask.reachable_iff.mp life
  obtain ⟨done, pending, deletedAfter⟩ := task
  cases deletedAfter with
  | none => exact (program_usedInOrder apids services turns).restrict ⟨pending, consistent⟩
  | some before =>
    obtain ⟨⟨skipped, whole⟩, _, ran, rfl, handled⟩ := consistent
    have inOrder := program_usedInOrder apids services turns
    rw [← whole] at inOrder
    obtain ⟨use, read, _⟩ := Monitor.exists_watch_of_accepts_append inOrder
    have up := (recorded_of_watch read).up_iff.mpr (timely before rfl)
    have begun := (callback_accepts apids services turns up).restrict
      ⟨pending, handled⟩
    rw [UsedInOrder, Monitor.Accepts, Monitor.watch_append_of_eq read]
    exact begun

/-- A deletion at another time is out of order as soon as the callback stops the tasks. -/
theorem whileStarted_of_usedInOrder {before : List Action} {state : TopologyState}
    (inOrder : UsedInOrder (before ++ [.enter .teardownTopology, .topology (.stopTasks state)])) :
    WhileStarted (some before) := by
  rintro _ ⟨rfl⟩
  obtain ⟨use, read, next⟩ := Monitor.exists_watch_of_accepts_append inOrder
  have recorded := recorded_of_watch read
  apply recorded.up_iff.mp
  obtain ⟨stage, timerRuns, driver⟩ := use
  cases stage with
  | started =>
    obtain ⟨_, _, up⟩ := recorded
    exact up
  | _ => exact absurd next Bool.false_ne_true

/-- For a task deleted at a given point, or not deleted, every use of the topology in all of its life is
in order if and only if the deletion finds the tasks started and not stopped. -/
theorem usedInOrder_forall_iff (life : Life apids services turns task) :
    (∀ other, Life apids services turns other → other.deletedAfter = task.deletedAfter →
      UsedInOrder other.done) ↔ WhileStarted task.deletedAfter := by
  constructor
  · intro inOrder
    cases deleted : task.deletedAfter with
    | none => exact fun _ member => nomatch member
    | some before =>
      have consistent := DeletableTask.reachable_iff.mp life
      rw [DeletableTask.Consistent, deleted] at consistent
      obtain ⟨inside, installed, -⟩ := consistent
      obtain ⟨state, rest, begins⟩ := callback_begins apids services turns
      have called : Life apids services turns
          ⟨before ++ [.enter .teardownTopology, .topology (.stopTasks state)], rest, some before⟩ :=
        DeletableTask.reachable_of_deleted inside installed begins.symm
      exact whileStarted_of_usedInOrder (inOrder _ called deleted.symm)
  · intro timely other reached same
    exact usedInOrder_of_whileStarted reached (same ▸ timely)

end Deleted

/-- Deleted between the start of the tasks and the start of the socket task, which is before the setup
completes, the application still uses the topology in order whatever follows. -/
theorem usedInOrder_forall_during_setup :
    let apids : PacketApids := ⟨1, 2, 3, 4, 5⟩
    let services : InitServices := ⟨0, 0, fun _ => 0, ""⟩
    let during := (program apids services []).take 18
    during.getLast? = some (.topology (.startTasks ⟨some "0.0.0.0", 15010⟩)) ∧
      ∀ other, Life apids services [] other → other.deletedAfter = some during →
        UsedInOrder other.done := by
  intro apids services during
  have life : Life apids services [] ⟨during ++ [], callback apids services [], some during⟩ :=
    DeletableTask.reachable_of_deleted ⟨_, List.take_append_drop 18 _⟩ (by decide) rfl
  refine ⟨by decide, (usedInOrder_forall_iff life).mpr ?_⟩
  rintro _ ⟨rfl⟩
  exact ⟨by decide, by decide⟩

end FprimeGds.Soundness.TopologyUse
