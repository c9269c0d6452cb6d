import Mathlib.Data.List.Infix
import Mathlib.Logic.Relation

/-! # A task that can be deleted once

A task makes the calls of its program one after the other. From some point on it may be deleted: the
calls it has not made are dropped and those of its delete handler are made in their place. The task
keeps what it had done when it was deleted, so a property of a deletion is a property of that list.
-/

namespace FprimeGds.Machine

/-- The calls made, the calls still to make, and for a deleted task the calls made before that. -/
structure DeletableTask (ε : Type) where
  done : List ε
  pending : List ε
  deletedAfter : Option (List ε)
deriving DecidableEq, Repr

namespace DeletableTask

variable {ε : Type}

def start (program : List ε) : DeletableTask ε := ⟨[], program, none⟩

/-- One call, or the deletion. `armed` says after which calls the delete handler is installed. -/
inductive Step (armed : List ε → Prop) (handler : List ε) : DeletableTask ε → DeletableTask ε → Prop
  | call {done pending : List ε} {deletedAfter : Option (List ε)} (next : ε) :
      Step armed handler ⟨done, next :: pending, deletedAfter⟩ ⟨done ++ [next], pending, deletedAfter⟩
  | delete {done pending : List ε} : armed done →
      Step armed handler ⟨done, pending, none⟩ ⟨done, handler, some done⟩

/-- The tasks of all runs of a program. -/
def Reachable (armed : List ε → Prop) (handler program : List ε) (task : DeletableTask ε) : Prop :=
  Relation.ReflTransGen (Step armed handler) (start program) task

/-- A task between calls: it is in its program, or it was deleted while the handler was installed and
is in the handler. -/
def Consistent (armed : List ε → Prop) (handler program : List ε) (task : DeletableTask ε) : Prop :=
  match task.deletedAfter with
  | none => task.done ++ task.pending = program
  | some before => before <+: program ∧ armed before ∧
      ∃ ran, task.done = before ++ ran ∧ ran ++ task.pending = handler

section Runs

variable {armed : List ε → Prop} {handler program : List ε} {task next : DeletableTask ε}

theorem Consistent.step (consistent : Consistent armed handler program task)
    (step : Step armed handler task next) : Consistent armed handler program next := by
  cases step with
  | @call done pending deletedAfter call =>
    cases deletedAfter with
    | none => exact (List.append_assoc done [call] pending).trans consistent
    | some before =>
      obtain ⟨inside, installed, ran, rfl, whole⟩ := consistent
      refine ⟨inside, installed, ran ++ [call], List.append_assoc .., ?_⟩
      exact (List.append_assoc ran [call] pending).trans whole
  | @delete done pending installed =>
    exact ⟨⟨pending, consistent⟩, installed, [], (List.append_nil done).symm, rfl⟩

theorem Reachable.consistent (reachable : Reachable armed handler program task) :
    Consistent armed handler program task := by
  induction reachable with
  | refl => rfl
  | tail _ step ih => exact ih.step step

/-- Any number of the pending calls may be made. -/
theorem steps_calls (done ran pending : List ε) (deletedAfter : Option (List ε)) :
    Relation.ReflTransGen (Step armed handler) ⟨done, ran ++ pending, deletedAfter⟩
      ⟨done ++ ran, pending, deletedAfter⟩ := by
  induction ran generalizing done with
  | nil =>
    rw [List.append_nil]
    exact .refl
  | cons call rest ih =>
    have later := ih (done ++ [call])
    rw [List.append_assoc] at later
    exact .head (.call call) later

/-- Every prefix of the program is done in some run. -/
theorem reachable_of_append {done pending : List ε} (whole : done ++ pending = program) :
    Reachable armed handler program ⟨done, pending, none⟩ := by
  subst whole
  exact steps_calls [] done pending none

/-- The task may be deleted at every such point once the handler is installed, and every prefix of
the handler is then done in some run. -/
theorem reachable_of_deleted {before ran pending : List ε} (inside : before <+: program)
    (installed : armed before) (whole : ran ++ pending = handler) :
    Reachable armed handler program ⟨before ++ ran, pending, some before⟩ := by
  obtain ⟨rest, entire⟩ := inside
  subst whole
  exact ((reachable_of_append entire).tail (.delete installed)).trans
    (steps_calls before ran pending (some before))

/-- The consistent tasks are exactly those some run reaches. -/
theorem reachable_iff :
    Reachable armed handler program task ↔ Consistent armed handler program task := by
  constructor
  · exact Reachable.consistent
  · intro consistent
    obtain ⟨done, pending, deletedAfter⟩ := task
    cases deletedAfter with
    | none => exact reachable_of_append consistent
    | some before =>
      obtain ⟨inside, installed, ran, rfl, whole⟩ := consistent
      exact reachable_of_deleted inside installed whole

end Runs

end DeletableTask

end FprimeGds.Machine
