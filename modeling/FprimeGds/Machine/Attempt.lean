import FprimeGds.Machine.Exec

/-! # Calls that may fail, tried in order

Start-up code calls one service after another as long as they answer well. It stops at the first that
does not, reports that one, and passes its answer on. What such code does is then decided by where the
first failure stands in the list of its calls.
-/

namespace FprimeGds.Machine

/-- A call, what it answers, and the report made if that is not the answer wanted. -/
structure Attempt (ε Answer : Type) where
  call : ε
  answer : Answer
  report : ε

namespace Attempt

variable {σ ε Answer : Type}

/-- No call of a list of attempts passes a filter that keeps none of them. -/
theorem filter_calls {kept : ε → Bool} {made : List (Attempt ε Answer)}
    (none : ∀ attempt ∈ made, kept attempt.call = false) : (made.map call).filter kept = [] := by
  rw [List.filter_eq_nil_iff]
  intro action member
  obtain ⟨attempt, inside, rfl⟩ := List.mem_map.mp member
  exact Bool.eq_false_iff.mp (none attempt inside)

variable [DecidableEq Answer] (good : Answer)

/-- Every call gets the answer wanted. -/
def AllGood (attempts : List (Attempt ε Answer)) : Prop := ∀ attempt ∈ attempts, attempt.answer = good

instance (attempts : List (Attempt ε Answer)) : Decidable (AllGood good attempts) :=
  inferInstanceAs (Decidable (∀ attempt ∈ attempts, _))

/-- Make the calls up to the first that fails, and report that one. -/
def performAll : List (Attempt ε Answer) → Exec σ ε Answer
  | [] => return good
  | attempt :: rest => do
    Exec.perform attempt.call
    if attempt.answer = good then performAll rest
    else do
      Exec.perform attempt.report
      return attempt.answer

variable {good}

theorem performAll_cons_good {attempt : Attempt ε Answer} (answered : attempt.answer = good)
    (rest : List (Attempt ε Answer)) : (performAll good (attempt :: rest) : Exec σ ε Answer) =
      (do Exec.perform attempt.call; performAll good rest) := by
  rw [performAll, if_pos answered]

theorem performAll_cons_bad {attempt : Attempt ε Answer} (failed : attempt.answer ≠ good)
    (rest : List (Attempt ε Answer)) : (performAll good (attempt :: rest) : Exec σ ε Answer) =
      (do Exec.perform attempt.call; Exec.perform attempt.report; return attempt.answer) := by
  rw [performAll, if_neg failed]

/-- More calls are made exactly if the ones before succeed. -/
theorem performAll_append (first second : List (Attempt ε Answer)) :
    (performAll good (first ++ second) : Exec σ ε Answer) = (do
      let answer ← performAll good first
      if answer = good then performAll good second else return answer) := by
  induction first with
  | nil => rw [performAll, Exec.pure_bind, if_pos rfl, List.nil_append]
  | cons attempt rest ih =>
    rw [List.cons_append]
    by_cases answered : attempt.answer = good
    · rw [performAll_cons_good answered, performAll_cons_good answered, ih, Exec.bind_assoc]
    · rw [performAll_cons_bad answered, performAll_cons_bad answered, Exec.bind_assoc]
      simp only [Exec.bind_assoc, Exec.pure_bind, if_neg answered]

section Run

variable {attempts before : List (Attempt ε Answer)} (state : σ)

theorem run_performAll_good (all : AllGood good attempts) :
    (performAll good attempts).run state = ⟨good, state, attempts.map call⟩ := by
  induction attempts with
  | nil => rfl
  | cons attempt rest ih =>
    obtain ⟨answered, others⟩ := List.forall_mem_cons.mp all
    rw [performAll_cons_good answered, Exec.run_bind, Exec.run_perform, ih others]
    rfl

/-- The first failure is the last call, the only report, and the answer. -/
theorem run_performAll_bad (all : AllGood good before) {failed : Attempt ε Answer}
    (bad : failed.answer ≠ good) (after : List (Attempt ε Answer)) :
    (performAll good (before ++ failed :: after)).run state =
      ⟨failed.answer, state, before.map call ++ [failed.call, failed.report]⟩ := by
  rw [performAll_append, performAll_cons_bad bad, Exec.run_bind, run_performAll_good state all,
    if_pos rfl]
  rfl

omit state in
theorem exists_first_failure (some : ¬ AllGood good attempts) : ∃ before failed after,
    attempts = before ++ failed :: after ∧ AllGood good before ∧ failed.answer ≠ good := by
  have found : (attempts.find? fun attempt => attempt.answer ≠ good).isSome := by
    simpa only [AllGood, not_forall, List.find?_isSome, decide_eq_true_eq, exists_prop] using some
  obtain ⟨failed, first⟩ := Option.isSome_iff_exists.mp found
  obtain ⟨bad, before, after, split, all⟩ := List.find?_eq_some_iff_append.mp first
  refine ⟨before, failed, after, split, ?_, of_decide_eq_true bad⟩
  intro attempt member
  simpa only [Bool.not_eq_true', decide_eq_false_iff_not, not_not] using all attempt member

end Run

end Attempt

end FprimeGds.Machine
