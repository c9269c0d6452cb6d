import FprimeGds.Proofs.Bridge.Init

/-! # What the entry point of the bridge does, call by call

Of all calls only those that make up the life of the application are kept: entering and leaving the
topology functions, dispatching a message and exiting. Initialization has none of them unless all its
calls succeed. The loop repeats one iteration until a dispatch or cFE ends it, and what it leaves
decides whether and with what status the task tears down and exits.
-/

namespace FprimeGds.Proofs.Bridge

open Machine Model Model.Cfe Model.Bridge

def isLifecycle : Action → Bool
  | .enter _ => true
  | .leave _ => true
  | .process => true
  | .exitApp _ => true
  | _ => false

def lifecycle (calls : List Action) : List Action := calls.filter isLifecycle

/-- A topology function was run from its entry to its return. -/
def called (function : TopologyFunction) : List Action := [.enter function, .leave function]

/-- One turn of the main loop. -/
def iteration : List Action := .process :: called .cycleTopology

/-- The end of the task, if the loop has left a status. -/
def ending : Option RunStatus → List Action
  | none => []
  | some status => called .teardownTopology ++ [.exitApp status]

/-- Nothing of the computation shows. -/
abbrev Quiet {α : Type} (computation : BridgeExec α) : Prop :=
  Exec.Performs (fun action => isLifecycle action = false) computation

section Topology

variable {α β : Type} (state : TopologyState)

theorem lifecycle_bind (first : BridgeExec α) (rest : α → BridgeExec β) :
    lifecycle ((first >>= rest).run state).trace = lifecycle (first.run state).trace ++
      lifecycle ((rest (first.run state).value).run (first.run state).state).trace :=
  List.filter_append ..

theorem lifecycle_of_quiet {computation : BridgeExec α} (quiet : Quiet computation) :
    lifecycle (computation.run state).trace = [] := quiet.filter_trace state

/-- The computation calls generated topology code and components, and does nothing else. -/
abbrev CallsTopology (computation : BridgeExec α) : Prop :=
  Exec.Performs (fun action => ∃ call, action = .topology call) computation

theorem topology_calls (call : TopologyCall) : CallsTopology (topology call) := .perform ⟨call, rfl⟩

theorem ifAddressed_calls (inputs : TopologyState) {use : String → BridgeExec Unit}
    (calls : ∀ hostname, CallsTopology (use hostname)) : CallsTopology (ifAddressed inputs use) := by
  unfold ifAddressed
  cases inputs.hostname with
  | none => exact .pure ()
  | some hostname => exact .ite (calls hostname) (.pure ())

theorem setupTopology_body (inputs : TopologyState) : ∃ body, CallsTopology body ∧
    setupTopology inputs = within .setupTopology body := by
  refine ⟨_, ?_, rfl⟩
  exact .bind (topology_calls _) fun _ => .bind (topology_calls _) fun _ =>
    .bind (topology_calls _) fun _ => .bind (topology_calls _) fun _ =>
    .bind (ifAddressed_calls inputs fun _ => topology_calls _) fun _ =>
    .bind (topology_calls _) fun _ => .bind (topology_calls _) fun _ =>
    .bind (topology_calls _) fun _ => ifAddressed_calls inputs fun _ => topology_calls _

theorem within_lifecycle (function : TopologyFunction) {body : BridgeExec Unit}
    (calls : CallsTopology body) :
    lifecycle ((within function body).run state).trace = called function := by
  have quiet : Quiet body := calls.mono fun action ⟨call, same⟩ => same ▸ rfl
  unfold within
  rw [lifecycle_bind, lifecycle_bind, lifecycle_of_quiet _ quiet]
  rfl

theorem setupTopology_lifecycle (inputs : TopologyState) :
    lifecycle ((setupTopology inputs).run state).trace = called .setupTopology := by
  obtain ⟨body, calls, same⟩ := setupTopology_body inputs
  rw [same]
  exact within_lifecycle state _ calls

theorem cycleTopology_lifecycle :
    lifecycle (cycleTopology.run state).trace = called .cycleTopology :=
  within_lifecycle state _ (topology_calls _)

theorem teardownTopology_lifecycle (inputs : TopologyState) :
    lifecycle ((teardownTopology inputs).run state).trace = called .teardownTopology := by
  apply within_lifecycle
  exact .bind (topology_calls _) fun _ => .bind (topology_calls _) fun _ =>
    .bind (topology_calls _) fun _ => .bind (topology_calls _) fun _ =>
    .bind (topology_calls _) fun _ => .bind (topology_calls _) fun _ => topology_calls _

end Topology

/-! ## Initialization -/

/-- The block returns success exactly if `succeeded`, and shows `shown` then and nothing otherwise. -/
structure Yields (block : BridgeExec Status) (succeeded : Prop) (shown : List Action) : Prop where
  value : ∀ state, (block.run state).value = success ↔ succeeded
  shows : succeeded → ∀ state, lifecycle (block.run state).trace = shown
  silent : ¬ succeeded → ∀ state, lifecycle (block.run state).trace = []

/-- Every call of the initialization succeeds. -/
def Succeeds (services : InitServices) (apids : List Apid) : Prop :=
  (services.evsRegister = success ∧ services.configure = success) ∧
    ∀ i < apids.length, services.subscribeCfs i = success

instance (services : InitServices) (apids : List Apid) : Decidable (Succeeds services apids) :=
  inferInstanceAs (Decidable (_ ∧ _))

section Init

variable (services : InitServices) (apids : List Apid)

/-- The calls that may fail are registration, configuration and one subscription for each APID. -/
theorem allGood_attempts_iff :
    Attempt.AllGood success (attempts services apids) ↔ Succeeds services apids := by
  have downlink : (∀ entry ∈ apids.zipIdx, services.subscribeCfs entry.2 = success) ↔
      ∀ i < apids.length, services.subscribeCfs i = success := by
    constructor
    · intro subscribed i below
      have entry : (apids[i], i) ∈ apids.zipIdx :=
        List.mk_mem_zipIdx_iff_getElem?.mpr (List.getElem?_eq_getElem below)
      exact subscribed _ entry
    · intro subscribed entry member
      exact subscribed entry.2 (List.snd_lt_of_mem_zipIdx member)
  rw [Succeeds, ← downlink]
  simp only [Attempt.AllGood, attempts, registration, configuration, subscription,
    List.forall_mem_append, List.forall_mem_cons, List.forall_mem_map, List.not_mem_nil, false_implies,
    implies_true, and_true]

/-- No attempt shows, nor does what is made of its failure. -/
theorem attempts_hidden : ∀ attempt ∈ attempts services apids,
    isLifecycle attempt.call = false ∧ isLifecycle attempt.report = false :=
  forall_attempts services ⟨rfl, rfl⟩ ⟨rfl, rfl⟩ (fun _ => ⟨rfl, rfl⟩) apids

theorem bringUp_lifecycle (inputs state : TopologyState) :
    lifecycle ((bringUp services inputs).run state).trace = called .setupTopology := by
  unfold bringUp
  rw [lifecycle_bind, lifecycle_bind, setupTopology_lifecycle]
  rfl

/-- Initialization sets up the topology exactly if all its calls succeed, and says so. -/
theorem init_yields (inputs : TopologyState) :
    Yields (init services apids inputs) (Succeeds services apids) (called .setupTopology) := by
  have hidden := attempts_hidden services apids
  rw [← allGood_attempts_iff]
  refine ⟨init_value_iff inputs, fun all state => ?_, fun some state => ?_⟩
  · have silent : lifecycle ((attempts services apids).map Attempt.call) = [] :=
      Attempt.filter_calls fun attempt member => (hidden attempt member).1
    rw [init_run_good inputs state all, lifecycle, List.filter_append, ← lifecycle, ← lifecycle, silent,
      bringUp_lifecycle]
    rfl
  · obtain ⟨before, failed, after, split, all, bad⟩ := Attempt.exists_first_failure some
    rw [split, List.forall_mem_append, List.forall_mem_cons] at hidden
    obtain ⟨earlier, last, -⟩ := hidden
    rw [init_run_bad inputs state split all bad, lifecycle, List.filter_append,
      Attempt.filter_calls fun attempt member => (earlier attempt member).1]
    simp only [List.filter_cons, last.1, last.2, Bool.false_eq_true, if_false, List.filter_nil,
      List.append_nil]

end Init

/-! ## The main loop -/

/-- One of the first `count` dispatches asked to exit. -/
def exitDispatched (turns : List Turn) (count : ℕ) : Bool :=
  (turns.take count).any fun turn => turn.process == .msgDispatchExit

/-- The loop makes `count` iterations and leaves `ended`: before each of them neither cFE nor an
earlier dispatch has asked to exit, and then one of them has or the turns are used up. -/
structure Looped (turns : List Turn) (count : ℕ) (ended : Option RunStatus) : Prop where
  bound : count ≤ turns.length
  goesOn : ∀ i < count, exitDispatched turns i = false ∧ turns[i]?.bind Turn.exitRequest = none
  ends : match ended with
    | none => count = turns.length
    | some status => ∃ turn, turns[count]? = some turn ∧
        if exitDispatched turns count then status = .appExit else turn.exitRequest = some status

section Loop

variable {turn : Turn} {rest : List Turn}

theorem exitDispatched_succ (count : ℕ) : exitDispatched (turn :: rest) (count + 1) =
    (turn.process == .msgDispatchExit || exitDispatched rest count) := rfl

/-- After an iteration nobody asked to exit in, the loop goes on over the other turns. -/
theorem Looped.cons {count : ℕ} {ended : Option RunStatus} (request : turn.exitRequest = none)
    (dispatch : turn.process ≠ .msgDispatchExit) (looped : Looped rest count ended) :
    Looped (turn :: rest) (count + 1) ended := by
  have shift : ∀ i, exitDispatched (turn :: rest) (i + 1) = exitDispatched rest i := by
    intro i
    rw [exitDispatched_succ, beq_false_of_ne dispatch, Bool.false_or]
  refine ⟨Nat.succ_le_succ looped.bound, ?_, ?_⟩
  · intro i below
    cases i with
    | zero => exact ⟨rfl, request⟩
    | succ i =>
      rw [shift]
      exact looped.goesOn i (Nat.lt_of_succ_lt_succ below)
  · have ends := looped.ends
    cases ended with
    | none => exact congrArg Nat.succ ends
    | some status =>
      simp only [shift]
      exact ends

/-- The last iteration, whose dispatch asks to exit, and what `CFE_ES_RunLoop` makes of it. -/
theorem Looped.exit (request : turn.exitRequest = none) (dispatch : turn.process = .msgDispatchExit) :
    Looped (turn :: rest) 1 (rest.head?.map fun _ => .appExit) := by
  have once : ∀ i < 1, exitDispatched (turn :: rest) i = false ∧
      (turn :: rest)[i]?.bind Turn.exitRequest = none := by
    intro i below
    obtain rfl := Nat.lt_one_iff.mp below
    exact ⟨rfl, request⟩
  have asked : exitDispatched (turn :: rest) 1 = true := by
    rw [exitDispatched_succ, dispatch]
    rfl
  cases rest with
  | nil => exact ⟨Nat.le_refl _, once, rfl⟩
  | cons next rest =>
    refine ⟨Nat.le_add_left 1 _, once, next, rfl, ?_⟩
    rw [if_pos asked]

/-- Once a dispatch has asked to exit the loop makes no further iteration. -/
theorem mainLoop_appExit (turns : List Turn) :
    mainLoop turns .appExit = return turns.head?.map fun _ => .appExit := by
  cases turns with
  | nil => rfl
  | cons turn rest =>
    cases request : turn.exitRequest with
    | none =>
      unfold mainLoop
      rw [request]
      rfl
    | some requested =>
      unfold mainLoop
      rw [request]
      rfl

theorem processMessage_run (dispatched : MsgDispatchStatus) (runStatus : RunStatus)
    (state : TopologyState) :
    ((processMessage dispatched runStatus).run state).value =
        (if dispatched = .msgDispatchExit then .appExit else runStatus) ∧
      lifecycle ((processMessage dispatched runStatus).run state).trace = [.process] := by
  cases dispatched with
  | msgDispatchOk => exact ⟨rfl, rfl⟩
  | msgDispatchEmpty => exact ⟨rfl, rfl⟩
  | msgDispatchExit => exact ⟨rfl, rfl⟩
  | other code => exact ⟨rfl, rfl⟩

/-- cFE requests an exit: the loop ends before its next iteration. -/
theorem mainLoop_requested {requested : RunStatus} (request : turn.exitRequest = some requested) :
    mainLoop (turn :: rest) .appRun = return some requested := by
  unfold mainLoop
  rw [request]
  rfl

/-- cFE requests nothing: one iteration, and the other turns from the run status it leaves. -/
theorem mainLoop_continues (request : turn.exitRequest = none) :
    mainLoop (turn :: rest) .appRun = (do
      let runStatus ← processMessage turn.process .appRun
      cycleTopology
      Exec.perform (.delay 0 100)
      mainLoop rest runStatus) := by
  rw [mainLoop, request]
  rfl

/-- The loop makes the iterations its turns say, and nothing else shows. -/
theorem mainLoop_run (turns : List Turn) (state : TopologyState) : ∃ count,
    Looped turns count ((mainLoop turns .appRun).run state).value ∧
      lifecycle ((mainLoop turns .appRun).run state).trace =
        (List.replicate count iteration).flatten := by
  have none_before : ∀ i < 0, exitDispatched turns i = false ∧ turns[i]?.bind Turn.exitRequest = none :=
    fun _ below => absurd below (Nat.not_lt_zero _)
  induction turns generalizing state with
  | nil => exact ⟨0, ⟨Nat.le_refl _, none_before, rfl⟩, rfl⟩
  | cons turn rest ih =>
    cases request : turn.exitRequest with
    | some requested =>
      rw [mainLoop_requested request]
      exact ⟨0, ⟨Nat.zero_le _, none_before, turn, rfl, request⟩, rfl⟩
    | none =>
      obtain ⟨value, shown⟩ := processMessage_run turn.process .appRun state
      rw [mainLoop_continues request, lifecycle_bind, shown, lifecycle_bind, cycleTopology_lifecycle,
        Exec.run_bind, value]
      by_cases dispatch : turn.process = .msgDispatchExit
      · rw [if_pos dispatch, mainLoop_appExit]
        exact ⟨1, .exit request dispatch, rfl⟩
      · rw [if_neg dispatch]
        obtain ⟨count, looped, trace⟩ := ih
          ((cycleTopology.run ((processMessage turn.process .appRun).run state).state).state)
          (fun _ below => absurd below (Nat.not_lt_zero _))
        refine ⟨count + 1, looped.cons request dispatch, ?_⟩
        rw [List.replicate_succ, List.flatten_cons, ← trace]
        rfl

end Loop

/-- The task from the loop on: the iterations, and the end if the loop left a status. -/
theorem mainTask_run (turns : List Turn) (inputs state : TopologyState) : ∃ count ended,
    Looped turns count ended ∧ lifecycle ((mainTask turns inputs).run state).trace =
      (List.replicate count iteration).flatten ++ ending ended := by
  obtain ⟨count, looped, shown⟩ := mainLoop_run turns state
  refine ⟨count, _, looped, ?_⟩
  unfold mainTask
  rw [lifecycle_bind, shown]
  cases ((mainLoop turns .appRun).run state).value with
  | none => rfl
  | some status =>
    dsimp only [shutdown, stopAndTeardown]
    rw [lifecycle_bind, teardownTopology_lifecycle]
    rfl

/-! ## The whole task -/

section Main

variable {apids : PacketApids} {services : InitServices}

/-- The topology state `FPRIME_GDS_Main` assigns. -/
def assigned : TopologyState := ⟨some "0.0.0.0", 15010⟩

/-- Initialization, and what its status leads to. -/
theorem main_split (turns : List Turn) (state : TopologyState) :
    let initialized := (init services (downlinkApids apids) assigned).run assigned
    lifecycle ((main apids services turns).run state).trace = lifecycle initialized.trace ++
      lifecycle (((if initialized.value ≠ success then Exec.perform (.exitApp .appError)
        else mainTask turns assigned) : BridgeExec Unit).run initialized.state).trace := by
  change lifecycle ((do
    let status ← init services (downlinkApids apids) assigned
    if status ≠ success then Exec.perform (.exitApp .appError) else mainTask turns assigned :
      BridgeExec Unit).run assigned).trace = _
  rw [lifecycle_bind]

theorem main_failed (failed : ¬ Succeeds services (downlinkApids apids)) (turns : List Turn)
    (state : TopologyState) :
    lifecycle ((main apids services turns).run state).trace = [.exitApp .appError] := by
  have initialized := init_yields services (downlinkApids apids) assigned
  have value := (not_congr (initialized.value assigned)).mpr failed
  rw [main_split, initialized.silent failed, if_pos value]
  rfl

theorem main_succeeded (succeeds : Succeeds services (downlinkApids apids)) (turns : List Turn)
    (state : TopologyState) : ∃ count ended, Looped turns count ended ∧
      lifecycle ((main apids services turns).run state).trace =
        called .setupTopology ++ (List.replicate count iteration).flatten ++ ending ended := by
  have initialized := init_yields services (downlinkApids apids) assigned
  have value := (initialized.value assigned).mpr succeeds
  obtain ⟨count, ended, looped, shown⟩ := mainTask_run turns assigned
    ((init services (downlinkApids apids) assigned).run assigned).state
  refine ⟨count, ended, looped, ?_⟩
  rw [main_split, initialized.shows succeeds, if_neg (not_not.mpr value), shown, List.append_assoc]

end Main

end FprimeGds.Proofs.Bridge
