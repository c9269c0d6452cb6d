import FprimeGds.Proofs.App.Main

/-! # The main loop of the C application dispatches what it receives

Which messages reach the dispatcher, and with what status the application exits, is read off the
answers of initialization and the turns, for all of them. No handler has a say in it.
-/

namespace FprimeGds.Soundness.MainLoop

open Machine Model Model.Cfe Model.App Proofs.App

section Calls

variable {config : Config}

/-- The messages handed to `FPRIME_GDS_TaskPipe`, in order. -/
def dispatched (calls : List (MainAction config)) : List (Message config.stringValLen) :=
  calls.filterMap fun | .taskPipe message => some message | _ => none

end Calls

section Run

variable {config : Config} {services : InitServices}

theorem dispatched_filter (calls : List (MainAction config)) :
    dispatched (calls.filter isOwn) = dispatched calls := by
  rw [dispatched, List.filterMap_filter]
  apply List.filterMap_congr
  rintro (action | id | id | pipe | message | status) _ <;> rfl

theorem dispatched_append (first second : List (MainAction config)) :
    dispatched (first ++ second) = dispatched first ++ dispatched second := List.filterMap_append ..

theorem dispatched_served (commandPipe : UInt32) (turns : List (Turn config)) :
    dispatched (turns.flatMap (served commandPipe)) = turns.map fun turn => turn.input.message := by
  induction turns with
  | nil => rfl
  | cons turn rest ih =>
    rw [List.flatMap_cons, dispatched_append, ih]
    rfl

/-- The turn that ends the loop dispatches nothing, whatever the buffer pointer is left at. -/
theorem dispatched_ending (commandPipe : UInt32) (turns : List (Turn config)) :
    dispatched (ending commandPipe turns) = [] := by
  cases turns with
  | nil => rfl
  | cons turn rest =>
    rw [ending]
    cases turn.exitRequest with
    | some requested => rfl
    | none =>
      dsimp only
      split_ifs
      · rfl
      · rfl

theorem mem_of_exitApp_mem_cons {status : RunStatus} {id : ℕ} {calls : List (MainAction config)}
    (member : .exitApp status ∈ .perfLogEntry id :: calls) : .exitApp status ∈ calls := by
  simpa only [List.mem_cons, reduceCtorEq, false_or] using member

theorem exitApp_not_mem_served (commandPipe : UInt32) (turns : List (Turn config)) (status : RunStatus) :
    .exitApp status ∉ turns.flatMap (served commandPipe) := by
  simp only [List.mem_flatMap, served, received, List.cons_append, List.nil_append, List.mem_cons,
    reduceCtorEq, List.not_mem_nil, or_self, and_false, exists_false, not_false_eq_true]

theorem eq_of_exitApp_mem_leaving {status left : RunStatus}
    (member : (.exitApp status : MainAction config) ∈ leaving left) : status = left := by
  simpa only [leaving, List.mem_cons, reduceCtorEq, List.not_mem_nil, or_false, false_or,
    MainAction.exitApp.injEq] using member

/-- After a failed receive the application can only exit with APP_ERROR. -/
theorem eq_appError_of_mem_ending {commandPipe : UInt32} {turns : List (Turn config)} {status : RunStatus}
    (fails : (turns.head?.any fun turn => turn.exitRequest.isNone) = true)
    (member : .exitApp status ∈ ending commandPipe turns) : status = .appError := by
  cases turns with
  | nil => exact absurd member List.not_mem_nil
  | cons turn rest =>
    have noRequest : turn.exitRequest = none := Option.isNone_iff_eq_none.mp fails
    rw [ending, noRequest] at member
    rcases List.mem_append.mp member with receiving | last
    · simp only [received, pipeError, List.cons_append, List.nil_append, List.mem_cons, reduceCtorEq,
        List.not_mem_nil, or_self] at receiving
    · split_ifs at last
      · exact absurd last List.not_mem_nil
      · exact eq_of_exitApp_mem_leaving last

end Run

/-- Messages are dispatched each once and in the order they are received, up to the first receive that
fails or the exit cFE requests, and not at all where initialization fails. Where a dispatch is on record
the dispatcher runs on that message, and the record of the run holds nothing else. Either failure leads
to APP_ERROR, and no handler changes the run status. -/
theorem main_dispatches (bus : SoftwareBus) (config : Config) (services : InitServices)
    (turns : List (Turn config)) (state : PlainState) :
    let initialized := (init config services).run state.data
    let calls := ((main bus services turns).run state).trace
    dispatched calls = (if Initializes services then
        (turns.takeWhile delivers).map fun turn => turn.input.message else []) ∧
      calls = .perfLogEntry perfId :: (initialized.trace.map .app ++
        if Initializes services then
          ((Exec.forEach (serve (.plain bus config) services.commandPipe) (turns.takeWhile delivers)).run
            { state with data := initialized.state }).trace ++
              ending services.commandPipe (turns.dropWhile delivers)
        else if turns = [] then [] else leaving .appError) ∧
      calls.filter isOwn = .perfLogEntry perfId ::
        (if Initializes services then running services.commandPipe turns
          else if turns = [] then [] else leaving .appError).filter isOwn ∧
      (∀ status, .exitApp status ∈ calls →
        ¬ Initializes services ∨ receiveFails turns = true → status = .appError) ∧
      ∀ (input : Input config) (before : PlainState),
        ((taskPipe bus config input.services input.message).run before).state.data.runStatus =
          before.data.runStatus := by
  intro initialized calls
  have neutral := plain_neutral bus config
  have own : calls.filter isOwn = _ := main_own neutral services turns state
  have whole : calls = _ := main_run neutral services turns state
  simp only [initializes_iff] at whole
  refine ⟨?_, whole, own, ?_, ?_⟩
  · rw [← dispatched_filter, own]
    split_ifs with initializes
    · change dispatched (List.filter isOwn _) = _
      rw [dispatched_filter, running, dispatched_append, dispatched_served, dispatched_ending,
        List.append_nil]
    · rfl
    · rfl
  · intro status member failure
    have inOwn : .exitApp status ∈ calls.filter isOwn := List.mem_filter.mpr ⟨member, rfl⟩
    rw [own] at inOwn
    have later := (List.mem_filter.mp (mem_of_exitApp_mem_cons inOwn)).1
    split_ifs at later with initializes waiting
    · have fails := failure.resolve_left (not_not.mpr initializes)
      rcases List.mem_append.mp later with serving | last
      · exact absurd serving (exitApp_not_mem_served _ _ _)
      · exact eq_appError_of_mem_ending fails last
    · exact absurd later List.not_mem_nil
    · exact eq_of_exitApp_mem_leaving later
  · intro input before
    exact ((taskPipe_routine config input.message bus input.services).preserves before ⟨rfl, rfl⟩).1

end FprimeGds.Soundness.MainLoop
