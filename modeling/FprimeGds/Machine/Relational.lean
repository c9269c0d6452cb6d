import FprimeGds.Machine.Exec

/-! # Two runs side by side

Computations are alike if from related states they leave the same value and related states, and an
observer cannot tell their records apart. Taken of one computation twice this says that what relates the
states is all it depends on. A loop of such steps answers each input as it would answer it alone.
-/

namespace FprimeGds.Machine.Exec

variable {σ τ ε ι κ α β : Type} {view : ε → κ} {related : σ → τ → Prop}

/-- The observer sees `view` of every action. -/
def Alike (view : ε → κ) (related : σ → τ → Prop) (left : Exec σ ε α) (right : Exec τ ε α) : Prop :=
  ∀ first second, related first second →
    (left.run first).value = (right.run second).value ∧
    related (left.run first).state (right.run second).state ∧
    (left.run first).trace.map view = (right.run second).trace.map view

theorem Alike.pure (value : α) :
    Alike view related (Pure.pure value : Exec σ ε α) (Pure.pure value : Exec τ ε α) :=
  fun _ _ start => ⟨rfl, start, rfl⟩

theorem Alike.perform {left right : ε} (same : view left = view right) :
    Alike view related (Exec.perform left) (Exec.perform right) :=
  fun _ _ start => ⟨rfl, start, congrArg (fun seen => [seen]) same⟩

theorem Alike.modify {left : σ → σ} {right : τ → τ}
    (kept : ∀ first second, related first second → related (left first) (right second)) :
    Alike view related (Exec.modify left) (Exec.modify right) :=
  fun first second start => ⟨rfl, kept first second start, rfl⟩

theorem Alike.bind {left : Exec σ ε α} {right : Exec τ ε α} {leftRest : α → Exec σ ε β}
    {rightRest : α → Exec τ ε β} (front : Alike view related left right)
    (rest : ∀ value, Alike view related (leftRest value) (rightRest value)) :
    Alike view related (left >>= leftRest) (right >>= rightRest) := by
  intro first second start
  obtain ⟨values, states, traces⟩ := front first second start
  obtain ⟨results, ends, later⟩ := rest (left.run first).value _ _ states
  rw [run_bind, run_bind, ← values]
  refine ⟨results, ends, ?_⟩
  rw [List.map_append, List.map_append, traces, later]

/-- What is read may differ, as the states do. -/
theorem Alike.get_bind {leftRest : σ → Exec σ ε α} {rightRest : τ → Exec τ ε α}
    (rest : ∀ first second, related first second → Alike view related (leftRest first) (rightRest second)) :
    Alike view related (Exec.get >>= leftRest) (Exec.get >>= rightRest) :=
  fun first second start => rest first second start first second start

theorem Alike.ite {condition : Prop} [Decidable condition] {leftYes leftNo : Exec σ ε α}
    {rightYes rightNo : Exec τ ε α} (yes : condition → Alike view related leftYes rightYes)
    (no : ¬ condition → Alike view related leftNo rightNo) :
    Alike view related (if condition then leftYes else leftNo) (if condition then rightYes else rightNo) := by
  by_cases holds : condition
  · rw [if_pos holds, if_pos holds]
    exact yes holds
  · rw [if_neg holds, if_neg holds]
    exact no holds

theorem Alike.forEach {left : ι → Exec σ ε Unit} {right : ι → Exec τ ε Unit}
    (step : ∀ input, Alike view related (left input) (right input)) (inputs : List ι) :
    Alike view related (Exec.forEach left inputs) (Exec.forEach right inputs) := by
  induction inputs with
  | nil => exact .pure ()
  | cons input rest ih => exact .bind (step input) fun _ => ih

section Equal

/-- A computation is like itself. -/
theorem Alike.refl (computation : Exec σ ε α) : Alike view Eq computation computation := by
  rintro state _ rfl
  exact ⟨rfl, rfl, rfl⟩

theorem Alike.read {leftRest rightRest : σ → Exec σ ε α}
    (rest : ∀ state, Alike view Eq (leftRest state) (rightRest state)) :
    Alike view Eq (Exec.get >>= leftRest) (Exec.get >>= rightRest) := by
  refine .get_bind ?_
  rintro state _ rfl
  exact rest state

theorem Alike.within {get : σ → τ} {put : τ → σ → σ} {left right : Exec τ ε α}
    (alike : Alike view Eq left right) :
    Alike view Eq (Exec.within get put left) (Exec.within get put right) := by
  rintro state _ rfl
  obtain ⟨values, states, traces⟩ := alike (get state) (get state) rfl
  exact ⟨values, congrArg (put · state) states, traces⟩

end Equal

/-- What is seen of a relabelled action depends on what is seen of the action. -/
theorem Alike.relabel {label : ι → ε} {inner : ι → β} {outer : β → κ}
    (factors : ∀ action, view (label action) = outer (inner action)) {left : Exec σ ι α} {right : Exec τ ι α}
    (alike : Alike inner related left right) :
    Alike view related (Exec.relabel label left) (Exec.relabel label right) := by
  intro first second start
  obtain ⟨values, states, traces⟩ := alike first second start
  have seen (trace : List ι) : (trace.map label).map view = (trace.map inner).map outer := by
    rw [List.map_map, List.map_map]
    exact List.map_congr_left fun action _ => factors action
  refine ⟨values, states, ?_⟩
  rw [run_relabel, run_relabel, seen, seen, traces]

section Memoryless

variable {kept : σ → Prop}

/-- The computation depends on nothing but `kept`, as far as can be seen. -/
abbrev Memoryless (view : ε → κ) (kept : σ → Prop) (computation : Exec σ ε α) : Prop :=
  Alike view (fun first second => kept first ∧ kept second) computation computation

/-- Every input is answered as from a state of rest, whatever has come before it. -/
theorem forEach_memoryless {step : ι → Exec σ ε Unit}
    (memoryless : ∀ input, Memoryless view kept (step input)) {rest start : σ} (atRest : kept rest)
    (begun : kept start) (inputs : List ι) :
    ((Exec.forEach step inputs).run start).trace.map view =
      inputs.flatMap fun input => ((step input).run rest).trace.map view := by
  induction inputs generalizing start with
  | nil => rfl
  | cons input others ih =>
    obtain ⟨_, ⟨goesOn, _⟩, same⟩ := memoryless input start rest ⟨begun, atRest⟩
    rw [forEach_cons, run_bind, List.flatMap_cons, ← same, ← ih goesOn]
    exact List.map_append

end Memoryless

end FprimeGds.Machine.Exec
