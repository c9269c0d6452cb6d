import FprimeGds.ToMathlib.ListPrefix
import FprimeGds.Proofs.Bridge.Main

/-! # Teardown of the bridge under deletion

The task tears the topology down when its loop ends, and the delete callback does whenever cFE deletes
the task. Neither knows of the other. A deletion is harmless exactly between the end of the setup and
the beginning of the teardown, and the callback is installed before the one and never removed.
-/

namespace FprimeGds.Soundness.BridgeTeardown

open Machine Model Model.Cfe Model.Bridge Proofs.Bridge

/-- Teardown was entered at most once and only after a completed setup. -/
def TornDownOnce (calls : List Action) : Prop :=
  calls.count (.enter .teardownTopology) ≤ 1 ∧
    List.OnlyAfter (.leave .setupTopology) (.enter .teardownTopology) calls

/-- The task is not deleted, or it is after the setup has completed and before it has begun to tear
down. -/
def Timely (deletedAfter : Option (List Action)) : Prop :=
  ∀ before ∈ deletedAfter,
    .leave .setupTopology ∈ before ∧ .enter .teardownTopology ∉ before

theorem count_lifecycle (calls : List Action) :
    (lifecycle calls).count (.enter .teardownTopology) = calls.count (.enter .teardownTopology) :=
  List.count_filter rfl

namespace TornDownOnce

variable {calls front back : List Action}

theorem restrict (once : TornDownOnce calls) (inside : front <+: calls) : TornDownOnce front :=
  ⟨(inside.sublist.count_le _).trans once.1, once.2.restrict inside⟩

theorem append (up : .leave .setupTopology ∈ front) (notYet : .enter .teardownTopology ∉ front)
    (single : back.count (.enter .teardownTopology) ≤ 1) : TornDownOnce (front ++ back) := by
  refine ⟨?_, List.onlyAfter_append back up notYet⟩
  rw [List.count_append, List.count_eq_zero_of_not_mem notYet, Nat.zero_add]
  exact single

theorem of_lifecycle (once : TornDownOnce (lifecycle calls)) : TornDownOnce calls := by
  refine ⟨?_, once.2.of_filter rfl⟩
  rw [← count_lifecycle]
  exact once.1

end TornDownOnce

section Life

variable (apids : PacketApids) (services : InitServices) (turns : List Turn)

/-- No iteration tears the topology down. -/
theorem not_mem_iterations (count : ℕ) :
    .enter .teardownTopology ∉ (List.replicate count iteration).flatten := by
  intro member
  obtain ⟨calls, repeated, member⟩ := List.mem_flatten.mp member
  rw [(List.mem_replicate.mp repeated).2] at member
  exact absurd member (by decide)

/-- A task nobody deletes tears down once and in order. -/
theorem program_tornDownOnce : TornDownOnce (program apids services turns) := by
  apply TornDownOnce.of_lifecycle
  by_cases succeeds : Succeeds services (downlinkApids apids)
  · obtain ⟨count, ended, _, shown⟩ := main_succeeded succeeds turns .zero
    rw [program, shown]
    apply TornDownOnce.append
    · exact List.mem_append_left _ (by decide)
    · rw [List.mem_append, not_or]
      exact ⟨by decide, not_mem_iterations count⟩
    · cases ended with
      | none => exact Nat.zero_le 1
      | some status => exact Nat.le_refl 1
  · rw [program, main_failed succeeds]
    exact ⟨Nat.zero_le 1, List.onlyAfter_of_not_mem (by decide)⟩

/-- The callback is one teardown, and begins with it. -/
theorem callback_eq : ∃ rest, callback apids services turns = .enter .teardownTopology :: rest ∧
    (callback apids services turns).count (.enter .teardownTopology) = 1 := by
  have called_once : ∀ state, ∃ rest,
      (deleteCallback.run state).trace = .enter .teardownTopology :: rest ∧
        (deleteCallback.run state).trace.count (.enter .teardownTopology) = 1 := by
    intro state
    refine ⟨_, rfl, ?_⟩
    rw [← count_lifecycle]
    exact congrArg (List.count _) (teardownTopology_lifecycle state state)
  exact called_once _

variable {apids services turns} {task : DeletableTask Action}

/-- A timely deletion keeps the teardown single and in order. -/
theorem tornDownOnce_of_timely (life : Life apids services turns task)
    (timely : Timely task.deletedAfter) : TornDownOnce task.done := by
  have consistent := DeletableTask.reachable_iff.mp life
  obtain ⟨done, pending, deletedAfter⟩ := task
  cases deletedAfter with
  | none => exact (program_tornDownOnce apids services turns).restrict ⟨pending, consistent⟩
  | some before =>
    obtain ⟨_, _, ran, rfl, whole⟩ := consistent
    obtain ⟨up, notYet⟩ := timely before rfl
    obtain ⟨_, _, single⟩ := callback_eq apids services turns
    have inside : ran <+: callback apids services turns := ⟨pending, whole⟩
    exact .append up notYet ((inside.sublist.count_le _).trans single.le)

/-- The first call of the callback already shows a deletion that is not timely. -/
theorem timely_of_tornDownOnce {before : List Action}
    (once : TornDownOnce (before ++ [.enter .teardownTopology])) : Timely (some before) := by
  rintro _ ⟨rfl⟩
  obtain ⟨single, ordered⟩ := once
  refine ⟨ordered before List.prefix_rfl, ?_⟩
  rw [List.count_append, List.count_singleton_self] at single
  exact List.count_eq_zero.mp (Nat.le_zero.mp (Nat.le_of_succ_le_succ single))

/-- For a task deleted at a given point, or not deleted, the teardown is single and in order in all of
its life if and only if the deletion is timely. -/
theorem tornDownOnce_forall_iff (life : Life apids services turns task) :
    (∀ other, Life apids services turns other → other.deletedAfter = task.deletedAfter →
      TornDownOnce other.done) ↔ Timely task.deletedAfter := by
  constructor
  · intro once
    cases deleted : task.deletedAfter with
    | none => exact fun _ member => nomatch member
    | some before =>
      have consistent := DeletableTask.reachable_iff.mp life
      rw [DeletableTask.Consistent, deleted] at consistent
      obtain ⟨inside, installed, -⟩ := consistent
      obtain ⟨rest, first, -⟩ := callback_eq apids services turns
      have called : Life apids services turns
          ⟨before ++ [.enter .teardownTopology], rest, some before⟩ :=
        DeletableTask.reachable_of_deleted inside installed first.symm
      exact timely_of_tornDownOnce (once _ called deleted.symm)
  · intro timely other reached same
    exact tornDownOnce_of_timely reached (same ▸ timely)

end Life

/-- Deleted in the main loop, the application tears down once and in order whatever follows. -/
theorem tornDownOnce_forall_in_loop :
    let apids : PacketApids := ⟨1, 2, 3, 4, 5⟩
    let services : InitServices := ⟨0, 0, fun _ => 0, ""⟩
    let turns : List Turn := [⟨none, .msgDispatchOk⟩]
    ∀ other, Life apids services turns other →
      other.deletedAfter = some (program apids services turns) → TornDownOnce other.done := by
  intro apids services turns
  have life : Life apids services turns
      ⟨program apids services turns ++ [], callback apids services turns,
        some (program apids services turns)⟩ :=
    DeletableTask.reachable_of_deleted List.prefix_rfl (by decide) rfl
  apply (tornDownOnce_forall_iff life).mpr
  rintro _ ⟨rfl⟩
  exact ⟨by decide, by decide⟩

/-- cFE requests an exit before the first turn. Deleted when the callback has just been installed, the
application tears down what it has not set up; deleted after `CFE_ES_ExitApp`, it tears down again. -/
theorem deletion_breaks_teardown :
    let apids : PacketApids := ⟨1, 2, 3, 4, 5⟩
    let services : InitServices := ⟨0, 0, fun _ => 0, ""⟩
    let turns : List Turn := [⟨some .appExit, .msgDispatchOk⟩]
    let installed := (program apids services turns).take 9
    let exited := program apids services turns
    (∃ task, Life apids services turns task ∧ task.deletedAfter = some installed ∧
      .enter .teardownTopology ∈ task.done ∧ .enter .setupTopology ∉ task.done ∧
      ¬ TornDownOnce task.done) ∧
    ∃ task, Life apids services turns task ∧ task.deletedAfter = some exited ∧
      task.done.count (.enter .teardownTopology) = 2 ∧ ¬ TornDownOnce task.done := by
  intro apids services turns installed exited
  obtain ⟨rest, first, -⟩ := callback_eq apids services turns
  refine ⟨⟨⟨installed ++ [.enter .teardownTopology], rest, some installed⟩, ?_, rfl, ?_, ?_, ?_⟩,
    ⟨exited ++ [.enter .teardownTopology], rest, some exited⟩, ?_, rfl, ?_, ?_⟩
  · exact DeletableTask.reachable_of_deleted ⟨_, List.take_append_drop 9 exited⟩ (by decide) first.symm
  · exact List.mem_append_right _ (List.mem_singleton_self _)
  · show .enter .setupTopology ∉ installed ++ [.enter .teardownTopology]
    decide
  · intro once
    exact absurd (timely_of_tornDownOnce once installed rfl).1 (by decide)
  · exact DeletableTask.reachable_of_deleted List.prefix_rfl (by decide) first.symm
  · show List.count (.enter .teardownTopology) (exited ++ [Action.enter .teardownTopology]) = 2
    decide
  · intro once
    exact (timely_of_tornDownOnce once exited rfl).2 (by decide)

end FprimeGds.Soundness.BridgeTeardown
