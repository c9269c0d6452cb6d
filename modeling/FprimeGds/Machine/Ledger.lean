import FprimeGds.Machine.Reentrant

/-! # Runs as records of whole calls

A component that tail-calls never has anything left to do for a waiting handler, so however deeply its
calls are nested a run is a sequence of whole handler calls with changes of the storage between them.
A ledger keeps of every call the storage it found and where it came to rest.
-/

namespace FprimeGds.Machine

variable {In Out : Type}

/-- One handler call. -/
structure Call (In Out : Type) where
  store : Store
  input : In
  progress : Progress Out

namespace Call

/-- The port calls it adds to the history. -/
def events (call : Call In Out) : List (In ⊕ Out) := .inl call.input :: call.progress.outs.map .inr

end Call

/-- The history some calls make, one after another. -/
def events (log : List (Call In Out)) : List (In ⊕ Out) := log.flatMap Call.events

theorem events_snoc (log : List (Call In Out)) (call : Call In Out) :
    events (log ++ [call]) = events log ++ call.events := by
  rw [events, List.flatMap_append, List.flatMap_singleton, events]

/-- A record of calls, and the storage after them. -/
inductive Ledger (component : Component In Out) (environment : Environment In Out) :
    List (Call In Out) → Store → Prop
  | start (store : Store) : Ledger component environment [] store
  | call {log : List (Call In Out)} {store : Store} {input : In} {progress : Progress Out} :
      Ledger component environment log store → environment.admits store (events log) input →
      component.Runs store input progress →
      Ledger component environment (log ++ [⟨store, input, progress⟩]) progress.store
  | rewrite {log : List (Call In Out)} {store after : Store} :
      Ledger component environment log store → environment.rewrites (events log) store after →
      Ledger component environment log after

variable {component : Component In Out} {environment : Environment In Out}

/-- Every run of a component that tail-calls has a ledger. -/
theorem Reachable.exists_ledger {state : Configuration In Out} (tail : component.TailCalls)
    (reached : Reachable component environment state) :
    ∃ log, Ledger component environment log state.store ∧ events log = state.trace := by
  obtain ⟨store, steps⟩ := reached
  have kept := Steps.invariant
    (fun store trace => ∃ log, Ledger component environment log store ∧ events log = trace) tail
    (by
      rintro store _ input progress ⟨log, ledger, rfl⟩ admitted ran
      exact ⟨_, ledger.call admitted ran, events_snoc log ⟨store, input, progress⟩⟩)
    (by
      rintro before after _ ⟨log, ledger, rfl⟩ changed
      exact ⟨log, ledger.rewrite changed, rfl⟩)
    steps (fun _ member => absurd member List.not_mem_nil) ⟨[], .start store, rfl⟩
  exact kept.2

namespace Ledger

variable {log : List (Call In Out)} {store : Store}

/-- What a ledger records did happen. -/
theorem runs (ledger : Ledger component environment log store) :
    ∀ call ∈ log, component.Runs call.store call.input call.progress := by
  induction ledger with
  | start store => exact fun _ member => absurd member List.not_mem_nil
  | call _ _ ran ih => exact List.forall_mem_append.mpr ⟨ih, List.forall_mem_singleton.mpr ran⟩
  | rewrite _ _ ih => exact ih

/-- And it is a run: a ledger is reached by making its calls, however its handlers are left waiting. -/
theorem reachable (ledger : Ledger component environment log store) :
    ∃ state, Reachable component environment state ∧ state.store = store ∧ state.trace = events log := by
  induction ledger with
  | start store => exact ⟨.start store, .start store, rfl, rfl⟩
  | @call log store input progress _ admitted ran ih =>
    obtain ⟨state, reached, rfl, history⟩ := ih
    rw [← history] at admitted
    refine ⟨state.called input progress, reached.call admitted ran, rfl, ?_⟩
    rw [events_snoc, ← history]
    rfl
  | rewrite _ changed ih =>
    obtain ⟨state, ⟨origin, steps⟩, rfl, history⟩ := ih
    rw [← history] at changed
    exact ⟨_, ⟨origin, steps.tail (.rewrite changed)⟩, rfl, history⟩

end Ledger

end FprimeGds.Machine
