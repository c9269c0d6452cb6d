import FprimeGds.Proofs.App.Init
import FprimeGds.Proofs.App.Routine

/-! # What one run of the C application's main loop does

A dispatcher that leaves the run status and the command pipe alone does not decide how the loop goes, so
a run is initialization, the turns that deliver a message served one after another, and an ending: a
request of cFE, a failed receive, or nothing yet. This holds of the run as a whole, in either build. What
the handlers do is left out only where the run is looked at through a filter that hides it.
-/

namespace FprimeGds.Proofs.App

open Machine Model Model.Cfe Model.App

/-! ## The loop -/

section Shape

variable {config : Config}

/-- cFE lets the turn happen and a message is received. -/
def delivers (turn : Turn config) : Bool := turn.exitRequest.isNone && turn.receiveBuffer == success

/-- Receiving in one turn, from the end of the last one to the answer of the software bus. -/
def received (commandPipe : UInt32) : List (MainAction config) :=
  [.perfLogExit perfId, .receiveBuffer commandPipe, .perfLogEntry perfId]

/-- What the application does itself in a turn that delivers a message. -/
def served (commandPipe : UInt32) (turn : Turn config) : List (MainAction config) :=
  received commandPipe ++ [.taskPipe turn.input.message]

/-- `FPRIME_GDS_PIPE_ERR_EID`. -/
def pipeError : MainAction config :=
  .app (.sendEvent ⟨pipeErrEid, .error, "FPRIME APP: SB Pipe Read Error, App Will Exit", []⟩)

def leaving (status : RunStatus) : List (MainAction config) := [.perfLogExit perfId, .exitApp status]

/-- From the first turn that delivers nothing: cFE requests to exit, or the receive fails and the loop
is left when its guard is evaluated next. -/
def ending (commandPipe : UInt32) : List (Turn config) → List (MainAction config)
  | [] => []
  | turn :: rest => match turn.exitRequest with
    | some requested => leaving requested
    | none => received commandPipe ++ [pipeError] ++ if rest = [] then [] else leaving .appError

/-- A receive the loop comes to fails. -/
def receiveFails (turns : List (Turn config)) : Bool :=
  (turns.dropWhile delivers).head?.any fun turn => turn.exitRequest.isNone

/-- A call `FPRIME_GDS_Main` makes itself, other than to initialize or to report. -/
def isOwn : MainAction config → Bool
  | .app _ => false
  | _ => true

end Shape

section Loop

variable {config : Config} {σ : Type} (build : Build config σ)

/-- A turn that delivers a message: the message is received and handed to the dispatcher. -/
def serve (commandPipe : UInt32) (turn : Turn config) : Exec σ (MainAction config) Unit := do
  Exec.perform (.perfLogExit perfId)
  Exec.perform (.receiveBuffer commandPipe)
  Exec.perform (.perfLogEntry perfId)
  Exec.perform (.taskPipe turn.input.message)
  Exec.relabel .app (build.taskPipe turn.input.services turn.input.message)

variable {build} {state : σ} {commandPipe : UInt32}

theorem steady_setData {runStatus : RunStatus} {data : Data} (state : σ)
    (steady : Steady runStatus commandPipe data) :
    Steady runStatus commandPipe (build.data (build.setData data state)) := by
  rw [build.data_setData]
  exact steady

/-- A run status other than APP_RUN ends the loop at its next guard. -/
theorem mainTask_stopped (turns : List (Turn config)) {runStatus : RunStatus} (stopped : runStatus ≠ .appRun)
    (steady : Steady runStatus commandPipe (build.data state)) :
    ((build.mainTask turns).run state).trace = if turns = [] then [] else leaving runStatus := by
  obtain ⟨rfl, _⟩ := steady
  cases turns with
  | nil => rfl
  | cons turn rest =>
    have ended := runLoop_stopped stopped turn.exitRequest
    rw [if_neg (List.cons_ne_nil turn rest), Build.mainTask, Build.mainLoop]
    simp only [Exec.run_bind, Exec.run_get, ended, Build.setRunStatus, Exec.run_modify]
    simp [build.data_setData, leaving]

variable {turn : Turn config} (rest : List (Turn config))

/-- cFE requests to exit: the loop ends before receiving anything. -/
theorem mainTask_requested {requested : RunStatus} (request : turn.exitRequest = some requested)
    (steady : Steady .appRun commandPipe (build.data state)) :
    ((build.mainTask (turn :: rest)).run state).trace = leaving requested := by
  have ended : runLoop turn.exitRequest (build.data state).runStatus = (false, requested) := by
    rw [request, steady.1]
    rfl
  rw [Build.mainTask, Build.mainLoop]
  simp only [Exec.run_bind, Exec.run_get, ended, Build.setRunStatus, Exec.run_modify]
  simp [build.data_setData, leaving]

/-- cFE requests nothing: the body, and the other turns from the state it leaves. -/
theorem mainTask_continues (request : turn.exitRequest = none)
    (steady : Steady .appRun commandPipe (build.data state)) :
    let body := (build.receiveAndDispatch turn).run state
    ((build.mainTask (turn :: rest)).run state).trace =
      body.trace ++ ((build.mainTask rest).run body.state).trace := by
  have again : runLoop turn.exitRequest (build.data state).runStatus =
      (true, (build.data state).runStatus) := by
    rw [request, steady.1]
    rfl
  have unchanged : ((build.setRunStatus (build.data state).runStatus).run state).state = state :=
    build.setData_data state
  rw [Build.mainTask, Build.mainLoop]
  simp only [Exec.run_bind, Exec.run_get, again, unchanged, if_true]
  simp only [Build.mainTask, Exec.run_bind, List.append_assoc]
  rfl

theorem receiveAndDispatch_delivered (delivered : turn.receiveBuffer = success)
    (steady : Steady .appRun commandPipe (build.data state)) :
    (build.receiveAndDispatch turn).run state = (serve build commandPipe turn).run state := by
  rw [← steady.2, Build.receiveAndDispatch, if_pos delivered]
  rfl

/-- The receive fails: the event is sent, and the next guard will find APP_ERROR. -/
theorem receiveAndDispatch_failed (failed : turn.receiveBuffer ≠ success)
    (steady : Steady .appRun commandPipe (build.data state)) :
    ((build.receiveAndDispatch turn).run state).trace = received commandPipe ++ [pipeError] ∧
      Steady .appError commandPipe (build.data ((build.receiveAndDispatch turn).run state).state) := by
  rw [← steady.2, Build.receiveAndDispatch, if_neg failed]
  refine ⟨rfl, ?_⟩
  apply steady_setData
  refine ⟨rfl, ?_⟩
  show (build.data (build.setData (build.data state) state)).commandPipe = (build.data state).commandPipe
  rw [build.data_setData]

/-- Every run of the loop and what follows it. -/
theorem mainTask_run (neutral : Neutral build) (turns : List (Turn config))
    (steady : Steady .appRun commandPipe (build.data state)) :
    ((build.mainTask turns).run state).trace =
      ((Exec.forEach (serve build commandPipe) (turns.takeWhile delivers)).run state).trace ++
        ending commandPipe (turns.dropWhile delivers) := by
  induction turns generalizing state with
  | nil => rfl
  | cons turn rest ih =>
    cases request : turn.exitRequest with
    | some requested =>
      have stops : ¬ delivers turn = true := by
        rw [delivers, request]
        exact Bool.false_ne_true
      rw [mainTask_requested rest request steady, List.takeWhile_cons_of_neg stops,
        List.dropWhile_cons_of_neg stops, ending, request]
      rfl
    | none =>
      rw [mainTask_continues rest request steady]
      by_cases delivered : turn.receiveBuffer = success
      · have goesOn : delivers turn = true := by
          rw [delivers, request, delivered]
          rfl
        have kept : Steady .appRun commandPipe
            (build.data ((serve build commandPipe turn).run state).state) :=
          (neutral .appRun commandPipe turn.input.services turn.input.message).preserves state steady
        rw [receiveAndDispatch_delivered delivered steady, List.takeWhile_cons_of_pos goesOn,
          List.dropWhile_cons_of_pos goesOn, Exec.forEach_cons, Exec.run_bind]
        dsimp only
        rw [ih kept, List.append_assoc]
      · have stops : ¬ delivers turn = true := by
          rw [delivers, beq_false_of_ne delivered, Bool.and_false]
          exact Bool.false_ne_true
        obtain ⟨shown, stopped⟩ := receiveAndDispatch_failed delivered steady
        rw [shown, List.takeWhile_cons_of_neg stops, List.dropWhile_cons_of_neg stops, ending, request,
          mainTask_stopped rest (by decide) stopped]
        rfl

end Loop

/-! ## The whole task -/

section Initialized

variable (config : Config) (services : InitServices)

theorem createCommandPipe_steady : Exec.Ensures (fun data => data.runStatus = .appRun)
    (createCommandPipe config services) fun _ => Steady .appRun services.commandPipe := by
  have piped : Exec.Ensures (fun data => data.runStatus = .appRun)
      (Exec.modify fun data => { data with commandPipe := services.commandPipe } : AppExec Unit)
      fun _ => Steady .appRun services.commandPipe := fun _ running => ⟨running, rfl⟩
  exact .bind (Exec.Preserves.perform _) fun _ =>
    .bind (Exec.Preserves.modify fun _ running => running) fun _ =>
    .bind (Exec.Preserves.perform _) fun _ => .bind piped fun _ =>
    .bind (reportFailure_preserves _ _ _) fun _ => Exec.Preserves.pure _

/-- Where it succeeds, initialization leaves the application running on the pipe it has created. -/
theorem init_steady : Exec.Ensures (fun _ => True) (init config services) fun status data =>
    status = success → Steady .appRun services.commandPipe data := by
  have started : Exec.Ensures (fun _ => True) zeroData fun _ data => data.runStatus = .appRun :=
    fun _ _ => rfl
  have registered : Exec.Ensures (fun data => data.runStatus = .appRun) (registerEvents config services)
      fun status data => status = success → Steady .appRun services.commandPipe data := by
    refine .bind (Exec.Preserves.perform _) fun _ => ?_
    intro data running
    by_cases ok : services.evsRegister = success
    · rw [if_neg (not_not.mpr ok)]
      exact fun _ => createCommandPipe_steady config services data running
    · rw [if_pos ok]
      exact fun succeeded => absurd succeeded ok
  have later {block : AppExec Status} (status : Status)
      (kept : Exec.Preserves (Steady .appRun services.commandPipe) block) :
      Exec.Ensures (fun data => status = success → Steady .appRun services.commandPipe data)
        (ifSuccess status block)
        fun status data => status = success → Steady .appRun services.commandPipe data := by
    intro data steady
    by_cases ok : status = success
    · rw [ifSuccess, if_pos ok]
      exact fun _ => kept data (steady ok)
    · rw [ifSuccess, if_neg ok]
      exact fun succeeded => absurd succeeded ok
  have load : Exec.Preserves (Steady .appRun services.commandPipe) (loadTable services) :=
    .ite (.bind (.perform _) fun _ => .pure _)
      (.bind .get fun _ => .bind (.perform _) fun _ => .pure _)
  have tables : Exec.Preserves (Steady .appRun services.commandPipe) (registerTables services) :=
    .bind (.perform _) fun _ => .bind (.modify fun _ steady => steady) fun _ =>
      .bind load fun _ => .bind (.perform _) fun _ => .pure _
  exact .bind started fun _ => .bind registered fun status =>
    .bind (later status (subscribe_preserves _ _ _ _)) fun status =>
    .bind (later status (subscribe_preserves _ _ _ _)) fun status => later status tables

end Initialized

section Main

variable {config : Config} {σ : Type} {build : Build config σ} {services : InitServices}

theorem afterInit_run (neutral : Neutral build) {status : Status} (turns : List (Turn config))
    {state : σ} {commandPipe : UInt32}
    (steady : status = success → Steady .appRun commandPipe (build.data state)) :
    ((build.afterInit status turns).run state).trace =
      if status = success then
        ((Exec.forEach (serve build commandPipe) (turns.takeWhile delivers)).run state).trace ++
          ending commandPipe (turns.dropWhile delivers)
      else if turns = [] then [] else leaving .appError := by
  rw [Build.afterInit]
  by_cases succeeded : status = success
  · rw [if_neg (not_not.mpr succeeded), if_pos succeeded]
    exact mainTask_run neutral turns (steady succeeded)
  · have stopped : Steady .appError (build.data state).commandPipe
        { build.data state with runStatus := .appError } := ⟨rfl, rfl⟩
    rw [if_pos succeeded, if_neg succeeded, Exec.run_bind]
    exact mainTask_stopped turns (by decide) (steady_setData state stopped)

/-- A whole run: initialization, and if it succeeds the turns that deliver a message and the ending. -/
theorem main_run (neutral : Neutral build) (services : InitServices) (turns : List (Turn config))
    (state : σ) :
    let initialized := (init config services).run (build.data state)
    ((build.main services turns).run state).trace =
      .perfLogEntry perfId :: (initialized.trace.map .app ++
        if initialized.value = success then
          ((Exec.forEach (serve build services.commandPipe) (turns.takeWhile delivers)).run
            (build.setData initialized.state state)).trace ++
              ending services.commandPipe (turns.dropWhile delivers)
        else if turns = [] then [] else leaving .appError) := by
  intro initialized
  have steady : initialized.value = success → Steady .appRun services.commandPipe initialized.state :=
    init_steady config services (build.data state) trivial
  rw [Build.main, Exec.perform_bind_trace, Build.call_bind_trace,
    afterInit_run neutral turns fun succeeded => steady_setData state (steady succeeded)]

/-- A run whose initialization fails. -/
theorem main_failed (neutral : Neutral build) (turns : List (Turn config)) (state : σ)
    (failed : ((init config services).run (build.data state)).value ≠ success) :
    ((build.main services turns).run state).trace =
      .perfLogEntry perfId :: (((init config services).run (build.data state)).trace.map .app ++
        if turns = [] then [] else leaving .appError) := by
  have run := main_run neutral services turns state
  dsimp only at run
  rwa [if_neg failed] at run

end Main

/-! ## Looking away from the handlers -/

section Filters

variable {config : Config} {σ : Type} {build : Build config σ} {kept : MainAction config → Bool}

/-- What the application does itself, and reports of itself, once it is initialized. -/
def running (commandPipe : UInt32) (turns : List (Turn config)) : List (MainAction config) :=
  (turns.takeWhile delivers).flatMap (served commandPipe) ++ ending commandPipe (turns.dropWhile delivers)

/-- Of the turns served only the calls of the loop are left. -/
theorem serve_filter (neutral : Neutral build)
    (hidden : ∀ action, isStartupEvent action = false → kept (.app action) = false)
    (commandPipe : UInt32) (turns : List (Turn config)) (state : σ) :
    ((Exec.forEach (serve build commandPipe) turns).run state).trace.filter kept =
      (turns.flatMap (served commandPipe)).filter kept := by
  induction turns generalizing state with
  | nil => rfl
  | cons turn rest ih =>
    have handled : ((serve build commandPipe turn).run state).trace = served commandPipe turn ++
        ((build.taskPipe turn.input.services turn.input.message).run state).trace.map .app := rfl
    have confined := neutral .appRun commandPipe turn.input.services turn.input.message
    have silent : (((build.taskPipe turn.input.services turn.input.message).run
        state).trace.map MainAction.app).filter kept = [] :=
      (Exec.Performs.relabel _ (confined.performs.mono hidden)).filter_trace state
    rw [Exec.forEach_cons, Exec.run_bind, List.flatMap_cons]
    dsimp only
    rw [List.filter_append, List.filter_append, ih, handled, List.filter_append, silent, List.append_nil]

theorem afterInit_filter (neutral : Neutral build)
    (hidden : ∀ action, isStartupEvent action = false → kept (.app action) = false)
    {status : Status} (turns : List (Turn config)) {state : σ} {commandPipe : UInt32}
    (steady : status = success → Steady .appRun commandPipe (build.data state)) :
    ((build.afterInit status turns).run state).trace.filter kept =
      (if status = success then running commandPipe turns
        else if turns = [] then [] else leaving .appError).filter kept := by
  rw [afterInit_run neutral turns steady]
  split_ifs
  · rw [running, List.filter_append, List.filter_append, serve_filter neutral hidden]
  · rfl
  · rfl

/-- A whole run, except for what the handlers do. -/
theorem main_filter (neutral : Neutral build)
    (hidden : ∀ action, isStartupEvent action = false → kept (.app action) = false)
    (services : InitServices) (turns : List (Turn config)) (state : σ) :
    let initialized := (init config services).run (build.data state)
    ((build.main services turns).run state).trace.filter kept =
      (.perfLogEntry perfId :: initialized.trace.map .app).filter kept ++
        (if initialized.value = success then running services.commandPipe turns
          else if turns = [] then [] else leaving .appError).filter kept := by
  intro initialized
  have steady : initialized.value = success → Steady .appRun services.commandPipe initialized.state :=
    init_steady config services (build.data state) trivial
  rw [Build.main, Exec.perform_bind_trace, Build.call_bind_trace, ← List.cons_append, List.filter_append,
    afterInit_filter neutral hidden turns fun succeeded => steady_setData state (steady succeeded)]

end Filters

/-! ## Calls and reports -/

section Calls

variable {config : Config} {σ : Type} {build : Build config σ}

theorem filter_app (trace : List Action) :
    (trace.map (.app : Action → MainAction config)).filter isOwn = [] := by
  rw [List.filter_eq_nil_iff]
  intro action member
  obtain ⟨original, _, rfl⟩ := List.mem_map.mp member
  exact Bool.false_ne_true

/-- All calls `FPRIME_GDS_Main` makes itself. -/
theorem main_own (neutral : Neutral build) (services : InitServices) (turns : List (Turn config))
    (state : σ) :
    ((build.main services turns).run state).trace.filter isOwn = .perfLogEntry perfId ::
      (if Initializes services then running services.commandPipe turns
        else if turns = [] then [] else leaving .appError).filter isOwn := by
  have whole : ((build.main services turns).run state).trace.filter isOwn = _ :=
    main_filter neutral (fun _ _ => rfl) services turns state
  rw [whole, List.filter_cons_of_pos rfl, filter_app]
  simp only [initializes_iff, List.singleton_append]

variable {kept : MainAction config → Bool}

theorem served_filter (notOwn : ∀ action, isOwn action = true → kept action = false)
    (commandPipe : UInt32) (turns : List (Turn config)) :
    (turns.flatMap (served commandPipe)).filter kept = [] := by
  rw [List.filter_eq_nil_iff]
  intro action member
  obtain ⟨turn, _, inside⟩ := List.mem_flatMap.mp member
  have isCall : isOwn action = true := by
    simp only [served, received, List.cons_append, List.nil_append, List.mem_cons, List.not_mem_nil,
      or_false] at inside
    rcases inside with rfl | rfl | rfl | rfl
    all_goals rfl
  exact Bool.eq_false_iff.mp (notOwn action isCall)

/-- Leaving the loop has nothing to report. -/
theorem leaving_filter (notOwn : ∀ action, isOwn action = true → kept action = false)
    (status : RunStatus) : (leaving status : List (MainAction config)).filter kept = [] := by
  simp only [leaving, List.filter_cons, notOwn _ (rfl : isOwn (.perfLogExit perfId) = true),
    notOwn _ (rfl : isOwn (.exitApp status) = true), Bool.false_eq_true, if_false, List.filter_nil]

/-- So has a loop that leaves at its next guard, if there is one. -/
theorem stopped_filter (notOwn : ∀ action, isOwn action = true → kept action = false)
    (turns : List (Turn config)) (status : RunStatus) :
    (if turns = [] then [] else leaving status : List (MainAction config)).filter kept = [] := by
  split_ifs
  · rfl
  · exact leaving_filter notOwn status

/-- The one report of the loop is about the receive that fails. -/
theorem running_filter (notOwn : ∀ action, isOwn action = true → kept action = false)
    (commandPipe : UInt32) (turns : List (Turn config)) : (running commandPipe turns).filter kept =
      if receiveFails turns then [pipeError].filter kept else [] := by
  have receivedFilter : (received commandPipe : List (MainAction config)).filter kept = [] := by
    simp only [received, List.filter_cons, notOwn _ (rfl : isOwn (.perfLogExit perfId) = true),
      notOwn _ (rfl : isOwn (.receiveBuffer commandPipe) = true),
      notOwn _ (rfl : isOwn (.perfLogEntry perfId) = true), Bool.false_eq_true, if_false, List.filter_nil]
  rw [running, List.filter_append, served_filter notOwn, List.nil_append, receiveFails]
  cases turns.dropWhile delivers with
  | nil => rfl
  | cons turn rest =>
    rw [ending, List.head?_cons, Option.any_some]
    cases turn.exitRequest with
    | some requested => exact leaving_filter notOwn requested
    | none =>
      have last := stopped_filter notOwn rest .appError
      rw [if_pos (show (none : Option RunStatus).isNone = true from rfl)]
      simp only [List.filter_append, receivedFilter, last, List.nil_append, List.append_nil]

end Calls

end FprimeGds.Proofs.App
