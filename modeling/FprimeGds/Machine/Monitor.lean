import Mathlib.Data.List.Induction
import Mathlib.Data.List.Infix
import Mathlib.Data.Option.Basic
import FprimeGds.Machine.Exec

/-! # Watching a record of actions

A monitor knows in which order an interface may be used. It reads actions one by one, remembers what it
needs, and objects to an action it has no place for. What it accepts is closed under prefixes, so a
computation whose whole record is accepted has never misused the interface at any point. Triples say
what a computation finds the monitor and its own state in, and what it leaves.
-/

namespace FprimeGds.Machine

/-- What a monitor remembers after one more action; none is an objection. -/
abbrev Monitor (ρ ε : Type) := ρ → ε → Option ρ

namespace Monitor

variable {ρ ε : Type} (monitor : Monitor ρ ε)

/-- Read a whole record. -/
def watch : ρ → List ε → Option ρ
  | seen, [] => some seen
  | seen, action :: rest => (monitor seen action).bind fun next => watch next rest

/-- The monitor objects to nothing. -/
def Accepts (seen : ρ) (trace : List ε) : Prop := (monitor.watch seen trace).isSome = true

instance (seen : ρ) (trace : List ε) : Decidable (monitor.Accepts seen trace) :=
  inferInstanceAs (Decidable (_ = true))

variable {monitor}

theorem watch_append (seen : ρ) (first second : List ε) :
    monitor.watch seen (first ++ second) =
      (monitor.watch seen first).bind fun middle => monitor.watch middle second := by
  induction first generalizing seen with
  | nil => rfl
  | cons action rest ih => simp only [List.cons_append, watch, ih, Option.bind_assoc]

theorem watch_singleton (seen : ρ) (action : ε) : monitor.watch seen [action] = monitor seen action := by
  simp only [watch, Option.bind_fun_some]

theorem watch_append_of_eq {seen middle : ρ} {first : List ε} (read : monitor.watch seen first = some middle)
    (second : List ε) : monitor.watch seen (first ++ second) = monitor.watch middle second := by
  rw [watch_append, read, Option.bind_some]

/-- Actions that change nothing the monitor remembers. -/
theorem watch_of_fixed {seen : ρ} {trace : List ε} (fixed : ∀ action ∈ trace, monitor seen action = some seen) :
    monitor.watch seen trace = some seen := by
  induction trace with
  | nil => rfl
  | cons action rest ih =>
    obtain ⟨first, others⟩ := List.forall_mem_cons.mp fixed
    rw [watch, first, Option.bind_some, ih others]

theorem accepts_of_watch {seen next : ρ} {trace : List ε} (read : monitor.watch seen trace = some next) :
    monitor.Accepts seen trace := by
  rw [Accepts, read, Option.isSome_some]

/-- The monitor has objected to no earlier action either. -/
theorem exists_watch_of_accepts_append {seen : ρ} {first second : List ε}
    (accepts : monitor.Accepts seen (first ++ second)) :
    ∃ middle, monitor.watch seen first = some middle ∧ monitor.Accepts middle second := by
  rw [Accepts, watch_append] at accepts
  cases read : monitor.watch seen first with
  | none =>
    rw [read] at accepts
    exact absurd accepts Bool.false_ne_true
  | some middle =>
    rw [read] at accepts
    exact ⟨middle, rfl, accepts⟩

theorem Accepts.restrict {seen : ρ} {front trace : List ε} (accepts : monitor.Accepts seen trace)
    (inside : front <+: trace) : monitor.Accepts seen front := by
  obtain ⟨back, rfl⟩ := inside
  obtain ⟨middle, read, _⟩ := exists_watch_of_accepts_append accepts
  exact accepts_of_watch read

/-- A record of relabelled actions is read by watching through the label. -/
theorem watch_map {ι : Type} (label : ι → ε) (seen : ρ) (trace : List ι) :
    monitor.watch seen (trace.map label) =
      Monitor.watch (fun seen action => monitor seen (label action)) seen trace := by
  induction trace generalizing seen with
  | nil => rfl
  | cons action rest ih => simp only [List.map_cons, watch, ih]

/-- A property of what has been read and what the monitor remembers of it. -/
theorem watch_history (property : List ε → ρ → Prop) {start : ρ} (initial : property [] start)
    (next : ∀ trace action seen after, property trace seen → monitor seen action = some after →
      property (trace ++ [action]) after)
    {trace : List ε} {seen : ρ} (read : monitor.watch start trace = some seen) : property trace seen := by
  induction trace using List.reverseRecOn generalizing seen with
  | nil =>
    obtain rfl := Option.some.inj read
    exact initial
  | append_singleton earlier action ih =>
    rw [watch_append] at read
    obtain ⟨middle, before, last⟩ := Option.bind_eq_some_iff.mp read
    rw [watch_singleton] at last
    exact next earlier action middle seen (ih before) last

end Monitor

namespace Exec

variable {ρ σ τ ε ι α β : Type} {monitor : Monitor ρ ε} {before : ρ → σ → Prop}

/-- From a monitor and a state in `before` the monitor accepts the record of the computation, and both
are left in `after`. -/
def Obeys (monitor : Monitor ρ ε) (before : ρ → σ → Prop) (computation : Exec σ ε α)
    (after : α → ρ → σ → Prop) : Prop :=
  ∀ seen state, before seen state →
    ∃ next, monitor.watch seen (computation.run state).trace = some next ∧
      after (computation.run state).value next (computation.run state).state

theorem Obeys.pure {after : α → ρ → σ → Prop} {value : α}
    (holds : ∀ seen state, before seen state → after value seen state) :
    Obeys monitor before (Pure.pure value : Exec σ ε α) after :=
  fun seen state start => ⟨seen, rfl, holds seen state start⟩

theorem Obeys.perform {action : ε} {after : Unit → ρ → σ → Prop}
    (allowed : ∀ seen state, before seen state →
      ∃ next, monitor seen action = some next ∧ after () next state) :
    Obeys monitor before (Exec.perform action) after := by
  intro seen state start
  obtain ⟨next, read, holds⟩ := allowed seen state start
  exact ⟨next, (Monitor.watch_singleton seen action).trans read, holds⟩

theorem Obeys.get : Obeys monitor before (Exec.get : Exec σ ε σ)
    fun value seen state => value = state ∧ before seen state :=
  fun seen _ start => ⟨seen, rfl, rfl, start⟩

theorem Obeys.modify {update : σ → σ} {after : Unit → ρ → σ → Prop}
    (holds : ∀ seen state, before seen state → after () seen (update state)) :
    Obeys monitor before (Exec.modify update) after :=
  fun seen state start => ⟨seen, rfl, holds seen state start⟩

theorem Obeys.bind {first : Exec σ ε α} {rest : α → Exec σ ε β} {middle : α → ρ → σ → Prop}
    {after : β → ρ → σ → Prop} (left : Obeys monitor before first middle)
    (right : ∀ value, Obeys monitor (middle value) (rest value) after) :
    Obeys monitor before (first >>= rest) after := by
  intro seen state start
  obtain ⟨between, earlier, reached⟩ := left seen state start
  obtain ⟨next, later, holds⟩ := right _ between _ reached
  refine ⟨next, ?_, holds⟩
  rw [run_bind, Monitor.watch_append_of_eq earlier]
  exact later

/-- What is read does not matter. -/
theorem Obeys.read {rest : σ → Exec σ ε α} {after : α → ρ → σ → Prop}
    (obeys : ∀ value, Obeys monitor before (rest value) after) :
    Obeys monitor before (Exec.get >>= rest) after :=
  fun seen state start => obeys state seen state start

theorem Obeys.ite {condition : Prop} [Decidable condition] {yes no : Exec σ ε α}
    {after : α → ρ → σ → Prop} (left : condition → Obeys monitor before yes after)
    (right : ¬ condition → Obeys monitor before no after) :
    Obeys monitor before (if condition then yes else no) after := by
  split_ifs with holds
  · exact left holds
  · exact right holds

theorem Obeys.weaken {computation : Exec σ ε α} {stronger : ρ → σ → Prop} {after weaker : α → ρ → σ → Prop}
    (obeys : Obeys monitor before computation after)
    (start : ∀ seen state, stronger seen state → before seen state)
    (finish : ∀ value seen state, after value seen state → weaker value seen state) :
    Obeys monitor stronger computation weaker := by
  intro seen state holds
  obtain ⟨next, read, reached⟩ := obeys seen state (start seen state holds)
  exact ⟨next, read, finish _ next _ reached⟩

/-- What the monitor remembers is known, and so is something of the state. -/
def At (here : ρ) (kept : σ → Prop) (seen : ρ) (state : σ) : Prop := seen = here ∧ kept state

theorem Obeys.perform_at {here : ρ} {kept : σ → Prop} {action : ε} (next : ρ)
    (allowed : monitor here action = some next) :
    Obeys monitor (At here kept) (Exec.perform action) fun _ => At next kept := by
  apply Obeys.perform
  rintro _ state ⟨rfl, holds⟩
  exact ⟨next, allowed, rfl, holds⟩

theorem Obeys.modify_at {here : ρ} {kept : σ → Prop} {update : σ → σ} (after : σ → Prop)
    (holds : ∀ state, kept state → after (update state)) :
    Obeys monitor (At here kept) (Exec.modify update) fun _ => At here after :=
  .modify fun _ state start => ⟨start.1, holds state start.2⟩

/-- A loop that keeps what its step keeps. -/
theorem Obeys.forEach {step : ι → Exec σ ε Unit}
    (kept : ∀ input, Obeys monitor before (step input) fun _ => before) (inputs : List ι) :
    Obeys monitor before (Exec.forEach step inputs) fun _ => before := by
  induction inputs with
  | nil => exact .pure fun _ _ start => start
  | cons input rest ih => exact .bind (kept input) fun _ => ih

theorem Obeys.relabel {label : ι → ε} {computation : Exec σ ι α} {after : α → ρ → σ → Prop}
    (obeys : Obeys (fun seen action => monitor seen (label action)) before computation after) :
    Obeys monitor before (Exec.relabel label computation) after := by
  intro seen state start
  obtain ⟨next, read, reached⟩ := obeys seen state start
  exact ⟨next, (Monitor.watch_map label seen _).trans read, reached⟩

/-- Work on one component that can be read back. -/
theorem Obeys.within {view : σ → τ} {put : τ → σ → σ} (readBack : ∀ part state, view (put part state) = part)
    {before : ρ → τ → Prop} {computation : Exec τ ε α} {after : α → ρ → τ → Prop}
    (obeys : Obeys monitor before computation after) :
    Obeys monitor (fun seen state => before seen (view state)) (Exec.within view put computation)
      fun value seen state => after value seen (view state) := by
  intro seen state start
  obtain ⟨next, read, reached⟩ := obeys seen (view state) start
  refine ⟨next, read, ?_⟩
  change after _ next (view (put _ state))
  rw [readBack]
  exact reached

theorem Obeys.accepts {computation : Exec σ ε α} {after : α → ρ → σ → Prop}
    (obeys : Obeys monitor before computation after) {seen : ρ} {state : σ} (start : before seen state) :
    monitor.Accepts seen (computation.run state).trace := by
  obtain ⟨next, read, _⟩ := obeys seen state start
  exact Monitor.accepts_of_watch read

end Exec

end FprimeGds.Machine
