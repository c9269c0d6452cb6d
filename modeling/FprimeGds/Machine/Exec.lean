import Mathlib.Data.List.Induction

/-! # Computations that update a state and record what they do

A step of a reactive program reads and updates its own state and performs actions on the world around
it. What the world answers is an argument of the step, so a step is a function of the state, and a
whole run is a fold over the inputs with one common record of actions. Properties of runs are proved
about the inputs seen so far, one input at a time.
-/

namespace FprimeGds.Machine

/-- What a computation leaves: its value, the state, and the actions performed with the oldest
first. -/
structure Ran (σ ε α : Type) where
  value : α
  state : σ
  trace : List ε

/-- A computation from a state of type `σ` that performs actions of type `ε`. -/
def Exec (σ ε α : Type) : Type := σ → Ran σ ε α

namespace Exec

variable {σ τ ε ι α β : Type}

def run (computation : Exec σ ε α) (state : σ) : Ran σ ε α := computation state

instance : Monad (Exec σ ε) where
  pure value state := ⟨value, state, []⟩
  bind first rest state :=
    let middle := first.run state
    let last := (rest middle.value).run middle.state
    ⟨last.value, last.state, middle.trace ++ last.trace⟩

/-- Perform one action. -/
def perform (action : ε) : Exec σ ε Unit := fun state => ⟨(), state, [action]⟩

def get : Exec σ ε σ := fun state => ⟨state, state, []⟩

def modify (update : σ → σ) : Exec σ ε Unit := fun state => ⟨(), update state, []⟩

/-- Work on one component of a larger state. -/
def within (view : σ → τ) (put : τ → σ → σ) (computation : Exec τ ε α) : Exec σ ε α := fun state =>
  let inner := computation.run (view state)
  ⟨inner.value, put inner.state state, inner.trace⟩

/-- Take every action for an action of a larger kind. -/
def relabel (label : ε → ι) (computation : Exec σ ε α) : Exec σ ι α := fun state =>
  let ran := computation.run state
  ⟨ran.value, ran.state, ran.trace.map label⟩

/-- The same step for every input, in order. -/
def forEach (step : ι → Exec σ ε Unit) : List ι → Exec σ ε Unit
  | [] => pure ()
  | input :: rest => do
      step input
      forEach step rest

section Equations

variable (state : σ)

@[simp] theorem run_pure (value : α) : (pure value : Exec σ ε α).run state = ⟨value, state, []⟩ := rfl

@[simp] theorem run_bind (first : Exec σ ε α) (rest : α → Exec σ ε β) :
    (first >>= rest).run state =
      ⟨((rest (first.run state).value).run (first.run state).state).value,
        ((rest (first.run state).value).run (first.run state).state).state,
        (first.run state).trace ++ ((rest (first.run state).value).run (first.run state).state).trace⟩ :=
  rfl

@[simp] theorem run_perform (action : ε) : (perform action).run state = ⟨(), state, [action]⟩ := rfl

@[simp] theorem run_get : (get : Exec σ ε σ).run state = ⟨state, state, []⟩ := rfl

@[simp] theorem run_modify (update : σ → σ) :
    (modify update : Exec σ ε Unit).run state = ⟨(), update state, []⟩ := rfl

@[simp] theorem run_within (view : σ → τ) (put : τ → σ → σ) (computation : Exec τ ε α) :
    (within view put computation).run state =
      ⟨(computation.run (view state)).value, put (computation.run (view state)).state state,
        (computation.run (view state)).trace⟩ := rfl

@[simp] theorem run_relabel (label : ε → ι) (computation : Exec σ ε α) :
    (relabel label computation).run state =
      ⟨(computation.run state).value, (computation.run state).state,
        (computation.run state).trace.map label⟩ := rfl

theorem pure_bind (value : α) (rest : α → Exec σ ε β) : (pure value >>= rest) = rest value := rfl

theorem bind_assoc {γ : Type} (first : Exec σ ε α) (second : α → Exec σ ε β) (third : β → Exec σ ε γ) :
    (first >>= second >>= third) = first >>= fun value => second value >>= third := by
  funext state
  simp only [Bind.bind, run, List.append_assoc]

/-- Reading the state is substituting it. -/
theorem run_get_bind (rest : σ → Exec σ ε α) : (get >>= rest).run state = (rest state).run state := rfl

theorem perform_bind_trace (action : ε) (rest : Unit → Exec σ ε α) :
    ((perform action >>= rest).run state).trace = action :: ((rest ()).run state).trace := rfl

theorem run_ite (condition : Prop) [Decidable condition] (yes no : Exec σ ε α) :
    (if condition then yes else no).run state = if condition then yes.run state else no.run state :=
  apply_ite (fun computation : Exec σ ε α => computation.run state) ..

@[simp] theorem forEach_nil (step : ι → Exec σ ε Unit) : forEach step [] = pure () := rfl

theorem forEach_cons (step : ι → Exec σ ε Unit) (input : ι) (rest : List ι) :
    forEach step (input :: rest) = (do step input; forEach step rest) := rfl

end Equations

/-- Every value, state and record a computation may leave when it starts from a state that
satisfies `before`. -/
def Ensures (before : σ → Prop) (computation : Exec σ ε α) (after : α → σ → Prop) : Prop :=
  ∀ state, before state → after (computation.run state).value (computation.run state).state

/-- The computation never leads out of `property`. -/
abbrev Preserves (property : σ → Prop) (computation : Exec σ ε α) : Prop :=
  Ensures property computation fun _ => property

section Rules

variable {before : σ → Prop} {property : σ → Prop}

theorem Ensures.bind {first : Exec σ ε α} {rest : α → Exec σ ε β} {middle : α → σ → Prop}
    {after : β → σ → Prop} (left : Ensures before first middle)
    (right : ∀ value, Ensures (middle value) (rest value) after) :
    Ensures before (first >>= rest) after :=
  fun state holds => right _ _ (left state holds)

theorem Preserves.bind {first : Exec σ ε α} {rest : α → Exec σ ε β}
    (left : Preserves property first) (right : ∀ value, Preserves property (rest value)) :
    Preserves property (first >>= rest) := Ensures.bind left right

theorem Preserves.pure (value : α) : Preserves property (Pure.pure value : Exec σ ε α) :=
  fun _ holds => holds

theorem Preserves.perform (action : ε) : Preserves property (Exec.perform action) :=
  fun _ holds => holds

theorem Preserves.get : Preserves property (Exec.get : Exec σ ε σ) := fun _ holds => holds

theorem Preserves.modify {update : σ → σ} (kept : ∀ state, property state → property (update state)) :
    Preserves property (Exec.modify update : Exec σ ε Unit) := kept

theorem Preserves.forEach {step : ι → Exec σ ε Unit} (kept : ∀ input, Preserves property (step input))
    (inputs : List ι) : Preserves property (Exec.forEach step inputs) := by
  induction inputs with
  | nil => exact .pure ()
  | cons input rest ih => exact .bind (kept input) fun _ => ih

theorem Preserves.ite {condition : Prop} [Decidable condition] {yes no : Exec σ ε α}
    (left : Preserves property yes) (right : Preserves property no) :
    Preserves property (if condition then yes else no) := by
  split_ifs
  · exact left
  · exact right

end Rules

/-- The computation performs only actions that satisfy `allowed`, from any state. -/
def Performs (allowed : ε → Prop) (computation : Exec σ ε α) : Prop :=
  ∀ state, ∀ action ∈ (computation.run state).trace, allowed action

section Actions

variable {allowed : ε → Prop}

theorem Performs.pure (value : α) : Performs allowed (Pure.pure value : Exec σ ε α) :=
  fun _ _ member => absurd member List.not_mem_nil

theorem Performs.perform {action : ε} (holds : allowed action) :
    Performs allowed (Exec.perform action : Exec σ ε Unit) := by
  intro state other member
  obtain rfl := List.mem_singleton.mp member
  exact holds

theorem Performs.bind {first : Exec σ ε α} {rest : α → Exec σ ε β} (left : Performs allowed first)
    (right : ∀ value, Performs allowed (rest value)) : Performs allowed (first >>= rest) := by
  intro state action member
  rcases List.mem_append.mp member with earlier | later
  · exact left state action earlier
  · exact right _ _ action later

theorem Performs.get : Performs allowed (Exec.get : Exec σ ε σ) :=
  fun _ _ member => absurd member List.not_mem_nil

theorem Performs.modify (update : σ → σ) : Performs allowed (Exec.modify update : Exec σ ε Unit) :=
  fun _ _ member => absurd member List.not_mem_nil

theorem Performs.within (view : σ → τ) (put : τ → σ → σ) {computation : Exec τ ε α}
    (performs : Performs allowed computation) : Performs allowed (Exec.within view put computation) :=
  fun state => performs (view state)

theorem Performs.forEach {step : ι → Exec σ ε Unit} (performs : ∀ input, Performs allowed (step input))
    (inputs : List ι) : Performs allowed (Exec.forEach step inputs) := by
  induction inputs with
  | nil => exact .pure ()
  | cons input rest ih => exact .bind (performs input) fun _ => ih

/-- A loop whose steps do so for the inputs it is given. -/
theorem Performs.forEach_of_mem {step : ι → Exec σ ε Unit} {inputs : List ι}
    (performs : ∀ input ∈ inputs, Performs allowed (step input)) :
    Performs allowed (Exec.forEach step inputs) := by
  induction inputs with
  | nil => exact .pure ()
  | cons input rest ih =>
    obtain ⟨first, others⟩ := List.forall_mem_cons.mp performs
    exact .bind first fun _ => ih others

theorem Performs.ite {condition : Prop} [Decidable condition] {yes no : Exec σ ε α}
    (left : Performs allowed yes) (right : Performs allowed no) :
    Performs allowed (if condition then yes else no) := by
  split_ifs
  · exact left
  · exact right

theorem Performs.mono {weaker : ε → Prop} {computation : Exec σ ε α}
    (performs : Performs allowed computation) (implies : ∀ action, allowed action → weaker action) :
    Performs weaker computation :=
  fun state action member => implies action (performs state action member)

theorem Performs.relabel (label : ε → ι) {computation : Exec σ ε α} {allowed : ι → Prop}
    (performs : Performs (fun action => allowed (label action)) computation) :
    Performs allowed (Exec.relabel label computation) := by
  intro state action member
  obtain ⟨original, inside, rfl⟩ := List.mem_map.mp member
  exact performs state original inside

/-- Nothing of such a computation passes a filter that keeps only other actions. -/
theorem Performs.filter_trace {kept : ε → Bool} {computation : Exec σ ε α}
    (quiet : Performs (fun action => kept action = false) computation) (state : σ) :
    (computation.run state).trace.filter kept = [] :=
  List.filter_eq_nil_iff.mpr fun action member => ne_true_of_eq_false (quiet state action member)

end Actions

/-- The computation never leads out of `property` and performs only actions that satisfy `allowed`. -/
structure Confined (property : σ → Prop) (allowed : ε → Prop) (computation : Exec σ ε α) : Prop where
  preserves : Preserves property computation
  performs : Performs allowed computation

section Both

variable {property : σ → Prop} {allowed : ε → Prop}

theorem Confined.pure (value : α) :
    Confined property allowed (Pure.pure value : Exec σ ε α) := ⟨.pure value, .pure value⟩

theorem Confined.perform {action : ε} (holds : allowed action) :
    Confined property allowed (Exec.perform action) := ⟨.perform action, .perform holds⟩

theorem Confined.get : Confined property allowed (Exec.get : Exec σ ε σ) := ⟨.get, .get⟩

theorem Confined.modify {update : σ → σ} (kept : ∀ state, property state → property (update state)) :
    Confined property allowed (Exec.modify update) := ⟨.modify kept, .modify update⟩

theorem Confined.bind {first : Exec σ ε α} {rest : α → Exec σ ε β}
    (left : Confined property allowed first) (right : ∀ value, Confined property allowed (rest value)) :
    Confined property allowed (first >>= rest) :=
  ⟨.bind left.preserves fun value => (right value).preserves,
    .bind left.performs fun value => (right value).performs⟩

theorem Confined.ite {condition : Prop} [Decidable condition] {yes no : Exec σ ε α}
    (left : Confined property allowed yes) (right : Confined property allowed no) :
    Confined property allowed (if condition then yes else no) :=
  ⟨.ite left.preserves right.preserves, .ite left.performs right.performs⟩

theorem Confined.forEach {step : ι → Exec σ ε Unit} (confined : ∀ input, Confined property allowed (step input))
    (inputs : List ι) : Confined property allowed (Exec.forEach step inputs) :=
  ⟨.forEach (fun input => (confined input).preserves) inputs,
    .forEach (fun input => (confined input).performs) inputs⟩

/-- Work on one component that can be read back leaves the rest to the larger state. -/
theorem Confined.within {view : σ → τ} {put : τ → σ → σ} {property : τ → Prop}
    (readBack : ∀ part state, view (put part state) = part) {computation : Exec τ ε α}
    (confined : Confined property allowed computation) :
    Confined (fun state => property (view state)) allowed (Exec.within view put computation) := by
  refine ⟨?_, .within view put confined.performs⟩
  intro state holds
  change property (view (put _ state))
  rw [readBack]
  exact confined.preserves (view state) holds

end Both

section Loop

variable (step : ι → Exec σ ε Unit)

theorem forEach_append (first second : List ι) (state : σ) :
    ((forEach step (first ++ second)).run state).state =
        ((forEach step second).run ((forEach step first).run state).state).state ∧
      ((forEach step (first ++ second)).run state).trace =
        ((forEach step first).run state).trace ++
          ((forEach step second).run ((forEach step first).run state).state).trace := by
  induction first generalizing state with
  | nil => exact ⟨rfl, rfl⟩
  | cons input rest ih =>
    obtain ⟨states, traces⟩ := ih ((step input).run state).state
    refine ⟨states, ?_⟩
    simp only [List.cons_append, forEach_cons, run_bind, traces, List.append_assoc]

/-- One more input: the step is taken from where the run so far ended. -/
theorem forEach_snoc (inputs : List ι) (input : ι) (state : σ) :
    ((forEach step (inputs ++ [input])).run state).state =
        ((step input).run ((forEach step inputs).run state).state).state ∧
      ((forEach step (inputs ++ [input])).run state).trace =
        ((forEach step inputs).run state).trace ++
          ((step input).run ((forEach step inputs).run state).state).trace := by
  obtain ⟨states, traces⟩ := forEach_append step inputs [input] state
  refine ⟨states, traces.trans ?_⟩
  simp only [forEach_cons, forEach_nil, run_bind, run_pure, List.append_nil]

/-- A property of the inputs seen, the state and the actions holds of a whole run if each further
input preserves it. -/
theorem forEach_history (property : List ι → σ → List ε → Prop) {start : σ}
    (initial : property [] start [])
    (next : ∀ seen input state trace, property seen state trace →
      property (seen ++ [input]) ((step input).run state).state (trace ++ ((step input).run state).trace))
    (inputs : List ι) :
    property inputs ((forEach step inputs).run start).state ((forEach step inputs).run start).trace := by
  induction inputs using List.reverseRecOn with
  | nil => exact initial
  | append_singleton seen input ih =>
    obtain ⟨states, traces⟩ := forEach_snoc step seen input start
    rw [states, traces]
    exact next _ _ _ _ ih

end Loop

/-- Two loops perform the same actions if their steps do from related states and keep them related. -/
theorem forEach_simulates {left : ι → Exec σ ε Unit} {right : ι → Exec τ ε Unit}
    (related : σ → τ → Prop)
    (step : ∀ input first second, related first second →
      related ((left input).run first).state ((right input).run second).state ∧
        ((left input).run first).trace = ((right input).run second).trace)
    (inputs : List ι) {first : σ} {second : τ} (start : related first second) :
    related ((forEach left inputs).run first).state ((forEach right inputs).run second).state ∧
      ((forEach left inputs).run first).trace = ((forEach right inputs).run second).trace := by
  induction inputs generalizing first second with
  | nil => exact ⟨start, rfl⟩
  | cons input rest ih =>
    obtain ⟨next, now⟩ := step input first second start
    obtain ⟨last, later⟩ := ih next
    refine ⟨last, ?_⟩
    simp only [forEach_cons, run_bind, now, later]

end Exec

end FprimeGds.Machine
