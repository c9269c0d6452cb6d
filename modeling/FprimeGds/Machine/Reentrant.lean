import Mathlib.Data.Option.Basic
import Mathlib.Logic.Relation
import FprimeGds.Machine.Code

/-! # Components whose port calls may be called back into

A component without state of its own is a handler for each input. The environment calls it, and while
an output call of such a handler is under way it may call the component again, to any depth: the
handlers still waiting form a stack. Between port calls the environment may also change the storage.
What it may do at each point is decided by `Environment`, from the storage and the history of calls.

Where every handler makes its last port call as its last act there is nothing left to run on the
stack, so a property of storage and history survives every step once it survives whole handler calls.
-/

namespace FprimeGds.Machine

/-- A handler for each input, and the output calls during which the environment may act. -/
structure Component (In Out : Type) where
  handler : In → Code Out Unit
  yields : Out → Bool

namespace Component

variable {In Out : Type} (component : Component In Out)

/-- One handler call up to its first pause. -/
def Runs (store : Store) (input : In) (progress : Progress Out) : Prop :=
  (component.handler input).advance component.yields store = some progress

/-- No handler does anything after a port call that may be called back into. -/
def TailCalls : Prop :=
  ∀ store input progress, component.Runs store input progress →
    ∀ code ∈ progress.waiting, code = .done ()

end Component

/-- The calls the environment may make and the changes of storage it may cause. -/
structure Environment (In Out : Type) where
  admits : Store → List (In ⊕ Out) → In → Prop
  rewrites : List (In ⊕ Out) → Store → Store → Prop

/-- The storage, the handlers waiting for a port call to return with the innermost first, and all
calls so far with the oldest first. -/
structure Configuration (In Out : Type) where
  store : Store
  waiting : List (Code Out Unit)
  trace : List (In ⊕ Out)

namespace Configuration

variable {In Out : Type}

def start (store : Store) : Configuration In Out := ⟨store, [], []⟩

/-- The environment has called `input`, and the handler has come to rest. -/
def called (state : Configuration In Out) (input : In) (progress : Progress Out) :
    Configuration In Out :=
  ⟨progress.store, progress.waiting.toList ++ state.waiting,
    state.trace ++ .inl input :: progress.outs.map .inr⟩

end Configuration

section Runs

variable {In Out : Type}

/-- The environment calls the component, lets the innermost waiting handler go on, or changes the
storage. -/
inductive Step (component : Component In Out) (environment : Environment In Out) :
    Configuration In Out → Configuration In Out → Prop
  | call {state : Configuration In Out} {input : In} {progress : Progress Out} :
      environment.admits state.store state.trace input →
      component.Runs state.store input progress →
      Step component environment state (state.called input progress)
  | resume {store : Store} {code : Code Out Unit} {rest : List (Code Out Unit)}
      {trace : List (In ⊕ Out)} {progress : Progress Out} :
      code.advance component.yields store = some progress →
      Step component environment ⟨store, code :: rest, trace⟩
        ⟨progress.store, progress.waiting.toList ++ rest, trace ++ progress.outs.map .inr⟩
  | rewrite {state : Configuration In Out} {store : Store} :
      environment.rewrites state.trace state.store store →
      Step component environment state { state with store := store }

/-- Any number of steps. -/
abbrev Steps (component : Component In Out) (environment : Environment In Out) :=
  Relation.ReflTransGen (Step component environment)

/-- Reachable from rest, whatever the storage held at the start. -/
def Reachable (component : Component In Out) (environment : Environment In Out)
    (state : Configuration In Out) : Prop :=
  ∃ store, Steps component environment (.start store) state

theorem Reachable.start {component : Component In Out} {environment : Environment In Out} (store : Store) :
    Reachable component environment (.start store) := ⟨store, .refl⟩

/-- One more call of the environment. -/
theorem Reachable.call {component : Component In Out} {environment : Environment In Out}
    {state : Configuration In Out} {input : In} {progress : Progress Out}
    (reached : Reachable component environment state)
    (admitted : environment.admits state.store state.trace input)
    (ran : component.Runs state.store input progress) :
    Reachable component environment (state.called input progress) := by
  obtain ⟨store, steps⟩ := reached
  exact ⟨store, steps.tail (.call admitted ran)⟩

/-- Every waiting handler only has to return. -/
def Configuration.Settled (state : Configuration In Out) : Prop :=
  ∀ code ∈ state.waiting, code = .done ()

variable {component : Component In Out} {environment : Environment In Out}
  {state next : Configuration In Out}

/-- One step of a component that tail-calls, for a property of storage and history. -/
theorem Step.invariant (property : Store → List (In ⊕ Out) → Prop) (tail : component.TailCalls)
    (onCall : ∀ store trace input progress, property store trace →
      environment.admits store trace input → component.Runs store input progress →
      property progress.store (trace ++ .inl input :: progress.outs.map .inr))
    (onRewrite : ∀ before after trace, property before trace →
      environment.rewrites trace before after → property after trace)
    (step : Step component environment state next) (settled : state.Settled)
    (holds : property state.store state.trace) :
    next.Settled ∧ property next.store next.trace := by
  cases step with
  | call admitted ran =>
    refine ⟨?_, onCall _ _ _ _ holds admitted ran⟩
    intro code member
    rcases List.mem_append.mp member with inner | outer
    · exact tail _ _ _ ran code (Option.mem_toList.mp inner)
    · exact settled code outer
  | @resume _ code rest trace _ ran =>
    -- what is resumed has nothing left to do
    obtain rfl : code = .done () := settled code (List.mem_cons_self ..)
    rw [Code.advance_done] at ran
    cases ran
    refine ⟨fun code member => settled code (List.mem_cons_of_mem _ member), ?_⟩
    simpa only [List.map_nil, List.append_nil] using holds
  | rewrite changed => exact ⟨settled, onRewrite _ _ _ holds changed⟩

/-- A property of storage and history that whole handler calls preserve holds after any steps. -/
theorem Steps.invariant (property : Store → List (In ⊕ Out) → Prop) (tail : component.TailCalls)
    (onCall : ∀ store trace input progress, property store trace →
      environment.admits store trace input → component.Runs store input progress →
      property progress.store (trace ++ .inl input :: progress.outs.map .inr))
    (onRewrite : ∀ before after trace, property before trace →
      environment.rewrites trace before after → property after trace)
    (steps : Steps component environment state next) (settled : state.Settled)
    (holds : property state.store state.trace) :
    next.Settled ∧ property next.store next.trace := by
  induction steps with
  | refl => exact ⟨settled, holds⟩
  | tail _ step ih => exact step.invariant property tail onCall onRewrite ih.1 ih.2

theorem Reachable.settled (tail : component.TailCalls)
    (reached : Reachable component environment state) : state.Settled := by
  obtain ⟨store, steps⟩ := reached
  have kept := Steps.invariant (fun _ _ => True) tail (fun _ _ _ _ _ _ _ => trivial)
    (fun _ _ _ _ _ => trivial) steps (fun _ member => absurd member List.not_mem_nil) trivial
  exact kept.1

/-- A property of the history alone, from its two ends: it holds of no calls at all and survives
each handler call. -/
theorem Reachable.of_history (property : List (In ⊕ Out) → Prop) (tail : component.TailCalls)
    (empty : property [])
    (onCall : ∀ store trace input progress, property trace →
      environment.admits store trace input → component.Runs store input progress →
      property (trace ++ .inl input :: progress.outs.map .inr))
    (reached : Reachable component environment state) : property state.trace := by
  obtain ⟨store, steps⟩ := reached
  have kept := Steps.invariant (fun _ trace => property trace) tail onCall
    (fun _ _ _ holds _ => holds) steps (fun _ member => absurd member List.not_mem_nil) empty
  exact kept.2

end Runs

end FprimeGds.Machine
