import FprimeGds.Machine.Exec

/-! # Refinement, as far as an observer can see

A computation refines another, on a state of its own, if it leaves the same value and the same actions
of those an observer keeps, from any state. Steps the observer does not see may be left out of the
abstract computation.
-/

namespace FprimeGds.Machine.Exec

variable {σ τ ε α β : Type} {kept : ε → Bool}

def Refines (kept : ε → Bool) (concrete : Exec σ ε α) (abstract : Exec τ ε α) : Prop :=
  ∀ state other, (concrete.run state).value = (abstract.run other).value ∧
    (concrete.run state).trace.filter kept = (abstract.run other).trace.filter kept

theorem Refines.pure (value : α) :
    Refines kept (Pure.pure value : Exec σ ε α) (Pure.pure value : Exec τ ε α) :=
  fun _ _ => ⟨rfl, rfl⟩

theorem Refines.bind {first : Exec σ ε α} {rest : α → Exec σ ε β} {abstractFirst : Exec τ ε α}
    {abstractRest : α → Exec τ ε β} (left : Refines kept first abstractFirst)
    (right : ∀ value, Refines kept (rest value) (abstractRest value)) :
    Refines kept (first >>= rest) (abstractFirst >>= abstractRest) := by
  intro state other
  obtain ⟨values, traces⟩ := left state other
  obtain ⟨results, later⟩ := right (first.run state).value (first.run state).state
    (abstractFirst.run other).state
  rw [values] at results later
  simp only [run_bind, List.filter_append, values, traces, results, later, and_self]

/-- A first step that cannot be seen. -/
theorem Refines.skip {first : Exec σ ε α} {rest : α → Exec σ ε β} {abstract : Exec τ ε β}
    (quiet : Performs (fun action => kept action = false) first)
    (right : ∀ value, Refines kept (rest value) abstract) : Refines kept (first >>= rest) abstract := by
  intro state other
  obtain ⟨results, later⟩ := right (first.run state).value (first.run state).state other
  simp only [run_bind, List.filter_append, quiet.filter_trace, List.nil_append, results, later, and_self]

end FprimeGds.Machine.Exec
