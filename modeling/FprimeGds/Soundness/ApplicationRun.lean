import FprimeGds.Proofs.App.Main

/-! # The application is its dispatcher, run over what it receives

What the application does, apart from receiving and its run loop, is initialization, then the dispatcher
over the messages delivered one after another, then a complaint if a receive has failed. It holds for
either dispatcher, and to cFE the two builds look the same. What is proved about runs of a dispatcher
alone therefore holds of `FPRIME_GDS_Main`.
-/

namespace FprimeGds.Soundness.ApplicationRun

open Machine Model Model.Cfe Model.App Proofs.App

section Calls

variable {config : Config}

/-- What initialization and the handlers do, and the complaint of the loop. -/
def appActions (calls : List (MainAction config)) : List Action :=
  calls.filterMap fun | .app action => some action | _ => none

/-- The messages received, with what the table services answer while they are handled. -/
def delivered (turns : List (Turn config)) : List (Input config) :=
  (turns.takeWhile delivers).map Turn.input

/-- What the loop says of a failed receive. -/
def receiveReport (turns : List (Turn config)) : List Action :=
  if receiveFails turns then
    [.sendEvent ⟨pipeErrEid, .error, "FPRIME APP: SB Pipe Read Error, App Will Exit", []⟩]
  else []

/-- Initialization, and if it succeeds what has been done since. -/
def outcome (services : InitServices) (turns : List (Turn config)) (initialized dispatched : List Action) :
    List Action :=
  initialized ++ if Initializes services then dispatched ++ receiveReport turns else []

theorem appActions_append (first second : List (MainAction config)) :
    appActions (first ++ second) = appActions first ++ appActions second := List.filterMap_append ..

theorem appActions_map (trace : List Action) :
    appActions (trace.map (.app : Action → MainAction config)) = trace := by
  rw [appActions, List.filterMap_map]
  exact List.filterMap_some

theorem appActions_perfLogEntry (id : ℕ) (calls : List (MainAction config)) :
    appActions (.perfLogEntry id :: calls) = appActions calls := rfl

theorem appActions_ending (commandPipe : UInt32) (turns : List (Turn config)) :
    appActions (ending commandPipe (turns.dropWhile delivers)) = receiveReport turns := by
  rw [receiveReport, receiveFails]
  cases turns.dropWhile delivers with
  | nil => rfl
  | cons turn rest =>
    rw [ending, List.head?_cons, Option.any_some]
    cases turn.exitRequest with
    | some requested => rfl
    | none =>
      rw [if_pos (show (none : Option RunStatus).isNone = true from rfl)]
      dsimp only
      split_ifs
      · rfl
      · rfl

end Calls

section Serve

variable {config : Config} {σ : Type} {build : Build config σ} (commandPipe : UInt32)

/-- Of the turns served, the actions are those of the dispatcher over their messages. -/
theorem appActions_serve (turns : List (Turn config)) (state : σ) :
    appActions ((Exec.forEach (serve build commandPipe) turns).run state).trace =
      ((Exec.forEach (fun input => build.taskPipe input.services input.message)
        (turns.map Turn.input)).run state).trace := by
  induction turns generalizing state with
  | nil => rfl
  | cons turn rest ih =>
    rw [Exec.forEach_cons, Exec.run_bind, List.map_cons, Exec.forEach_cons, Exec.run_bind]
    dsimp only
    rw [appActions_append, ih]
    exact congrArg (· ++ _) (appActions_map _)

end Serve

section Run

variable {config : Config} {σ : Type} {build : Build config σ}

theorem appActions_main (neutral : Neutral build) (services : InitServices) (turns : List (Turn config))
    (state : σ) :
    appActions ((build.main services turns).run state).trace =
      outcome services turns ((init config services).run (build.data state)).trace
        ((Exec.forEach (fun input => build.taskPipe input.services input.message) (delivered turns)).run
          (build.setData ((init config services).run (build.data state)).state state)).trace := by
  have whole : appActions ((build.main services turns).run state).trace = _ :=
    congrArg appActions (main_run neutral services turns state)
  rw [whole, appActions_perfLogEntry, appActions_append, appActions_map, outcome]
  simp only [initializes_iff]
  refine congrArg (_ ++ ·) ?_
  split_ifs with initializes
  · rw [appActions_append, appActions_serve, appActions_ending]
    rfl
  · rfl
  · rfl

section Builds

variable (config : Config) (services : InitServices) (turns : List (Turn config))

theorem appActions_plain (bus : SoftwareBus) (state : PlainState) :
    appActions (((Build.plain bus config).main services turns).run state).trace =
      outcome services turns ((init config services).run state.data).trace
        ((runPlain bus (delivered turns)).run
          { state with data := ((init config services).run state.data).state }).trace :=
  appActions_main (plain_neutral bus config) services turns state

theorem appActions_eds (codes : StatusCodes) (verdict : Message config.stringValLen → Verdict) (data : Data) :
    appActions (((Build.eds codes config verdict).main services turns).run data).trace =
      outcome services turns ((init config services).run data).trace
        ((runEds codes verdict (delivered turns)).run ((init config services).run data).state).trace := by
  rw [appActions_main (eds_neutral codes verdict), Build.setData_eds]
  rfl

end Builds

/-- In either build a run is initialization, the dispatcher over the messages delivered and a report
of a failed receive, and the calls the entry point makes itself are the same in both. -/
theorem application_refines (bus : SoftwareBus) (codes : StatusCodes) (config : Config)
    (verdict : Message config.stringValLen → Verdict) (services : InitServices)
    (turns : List (Turn config)) (state : PlainState) :
    let initialized := (init config services).run state.data
    let plain := (((Build.plain bus config).main services turns).run state).trace
    let eds := (((Build.eds codes config verdict).main services turns).run state.data).trace
    appActions plain = outcome services turns initialized.trace
        ((runPlain bus (delivered turns)).run { state with data := initialized.state }).trace ∧
      appActions eds = outcome services turns initialized.trace
        ((runEds codes verdict (delivered turns)).run initialized.state).trace ∧
      plain.filter isOwn = eds.filter isOwn ∧
      eds.filter isOwn = .perfLogEntry perfId ::
        (if Initializes services then running services.commandPipe turns
          else if turns = [] then [] else leaving .appError).filter isOwn := by
  have plainOwn := main_own (plain_neutral bus config) services turns state
  have edsOwn := main_own (eds_neutral codes verdict) services turns state.data
  exact ⟨appActions_plain config services turns bus state,
    appActions_eds config services turns codes verdict state.data, plainOwn.trans edsOwn.symm, edsOwn⟩

end Run

end FprimeGds.Soundness.ApplicationRun
