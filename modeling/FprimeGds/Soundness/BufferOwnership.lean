import Mathlib.Algebra.Order.Group.Multiset
import FprimeGds.Proofs.CfsTlmStripper

/-! # No buffer is lost on the way through CfsTlmStripper

Buffers are told apart by their context word. In any run of the handlers, nested or not, the buffers
received and not yet released are those forwarded and not yet returned, each of them once: a handler
call passes on exactly the buffer it was called with. The component writes only inside a buffer it is
just being handed, so whatever it forwarded keeps its bytes until it comes back.
-/

namespace FprimeGds.Soundness.BufferOwnership

open Machine Model Model.CfsTlmStripper Proofs.CfsTlmStripper

variable {Rest : Type}

/-- Every port call so far, into the component and out of it. -/
abbrev History (Rest : Type) := List (Input Rest ⊕ Output Rest)

/-! ## What a history says about ownership -/

/-- The context words of the buffers that went through one port. -/
def idsThrough (port : Input Rest ⊕ Output Rest → Option UInt32) (history : History Rest) :
    Multiset UInt32 := history.filterMap port

def received : History Rest → Multiset UInt32 := idsThrough fun
  | .inl (.dataIn data _) => some data.context
  | _ => none

def returned : History Rest → Multiset UInt32 := idsThrough fun
  | .inl (.dataReturnIn frameBuffer _) => some frameBuffer.context
  | _ => none

def forwarded : History Rest → Multiset UInt32 := idsThrough fun
  | .inr (.dataOut data _) => some data.context
  | _ => none

def released : History Rest → Multiset UInt32 := idsThrough fun
  | .inr (.dataReturnOut data _) => some data.context
  | _ => none

/-- Take the effect of one port call on the buffers downstream holds. -/
def handOver (held : List Buffer) : Input Rest ⊕ Output Rest → List Buffer
  | .inr (.dataOut data _) => data :: held
  | .inl (.dataReturnIn frameBuffer _) => held.eraseP fun buffer => buffer.context == frameBuffer.context
  | _ => held

/-- The buffers forwarded and not yet returned, as `dataOut` handed them over. -/
def outstanding (history : History Rest) : List Buffer := history.foldl handOver []

def heldIds (history : History Rest) : Multiset UInt32 := (outstanding history).map Buffer.context

/-- What the neighbours promise. A buffer is sent by its owner and its storage is not in use
downstream; a buffer comes back from the one it was forwarded to, perhaps pointing elsewhere. The
storage may change in any way between port calls. -/
def ownership : Environment (Input Rest) (Output Rest) where
  admits _ history
    | .dataIn data _ => data.context ∉ received history - released history ∧
        ∀ buffer ∈ outstanding history, data.extent.Apart buffer.extent
    | .dataReturnIn frameBuffer _ => frameBuffer.context ∈ forwarded history - returned history
    | .comStatusIn _ _ => True
  rewrites _ _ _ := True

/-- The neighbours while `buffer` stays downstream: its holder neither returns it nor writes it. -/
def holding (buffer : Buffer) : Environment (Input Rest) (Output Rest) where
  admits store history input := ownership.admits store history input ∧
    ∀ frameBuffer context, input = .dataReturnIn frameBuffer context →
      frameBuffer.context ≠ buffer.context
  rewrites _ before after := after.bytes buffer.extent = before.bytes buffer.extent

/-- Which buffer a call hands to the component. -/
def handedIn : Input Rest → Option UInt32
  | .dataIn data _ => some data.context
  | .dataReturnIn frameBuffer _ => some frameBuffer.context
  | .comStatusIn _ _ => none

/-- Which buffer the component hands on. -/
def handedOut : Output Rest → Option UInt32
  | .dataOut data _ => some data.context
  | .dataReturnOut data _ => some data.context
  | _ => none

theorem idsThrough_append (port : Input Rest ⊕ Output Rest → Option UInt32)
    (history more : History Rest) :
    idsThrough port (history ++ more) = idsThrough port history + idsThrough port more := by
  rw [idsThrough, List.filterMap_append, ← Multiset.coe_add]
  rfl

theorem outstanding_append (history more : History Rest) :
    outstanding (history ++ more) = more.foldl handOver (outstanding history) :=
  List.foldl_append ..

/-! ## The balance of ownership -/

/-- Downstream holds what it was given and has not returned, the sender is owed the same buffers, and
no two of them are the same. -/
structure Balanced (history : History Rest) : Prop where
  lent : forwarded history = returned history + heldIds history
  owed : received history = released history + heldIds history
  distinct : (heldIds history).Nodup

section Balance

variable {history : History Rest} {data out frameBuffer : Buffer}
  {context outContext : FrameContext Rest}

theorem Balanced.nil : Balanced ([] : History Rest) := ⟨rfl, rfl, Multiset.nodup_zero⟩

theorem Balanced.received_sub (balanced : Balanced history) :
    received history - released history = heldIds history := by
  rw [balanced.owed, add_tsub_cancel_left]

theorem Balanced.forwarded_sub (balanced : Balanced history) :
    forwarded history - returned history = heldIds history := by
  rw [balanced.lent, add_tsub_cancel_left]

/-- The buffer goes downstream. -/
theorem Balanced.forward (balanced : Balanced history) (fresh : data.context ∉ heldIds history)
    (same : out.context = data.context) :
    Balanced (history ++ [.inl (.dataIn data context), .inr (.dataOut out outContext)]) := by
  have held : heldIds (history ++ [.inl (.dataIn data context), .inr (.dataOut out outContext)]) =
      heldIds history + {data.context} := by
    rw [heldIds, outstanding_append, ← same, add_comm]
    rfl
  refine ⟨?_, ?_, ?_⟩
  · rw [held, forwarded, returned, idsThrough_append, idsThrough_append]
    change forwarded history + {out.context} = returned history + 0 + (heldIds history + {data.context})
    rw [balanced.lent, same, add_zero, add_assoc]
  · rw [held, received, released, idsThrough_append, idsThrough_append]
    change received history + {data.context} = released history + 0 + (heldIds history + {data.context})
    rw [balanced.owed, add_zero, add_assoc]
  · rw [held, add_comm, Multiset.singleton_add]
    exact Multiset.nodup_cons.mpr ⟨fresh, balanced.distinct⟩

/-- The buffer goes straight back to its sender. -/
theorem Balanced.drop (balanced : Balanced history) (size : UInt32) :
    Balanced (history ++
      [.inl (.dataIn data context), .inr (.malformedPacket size), .inr (.dataReturnOut data context)]) := by
  have held : heldIds (history ++
      [.inl (.dataIn data context), .inr (.malformedPacket size), .inr (.dataReturnOut data context)]) =
        heldIds history := by
    rw [heldIds, outstanding_append]
    rfl
  refine ⟨?_, ?_, ?_⟩
  · rw [held, forwarded, returned, idsThrough_append, idsThrough_append]
    change forwarded history + 0 = returned history + 0 + heldIds history
    rw [balanced.lent, add_zero, add_zero]
  · rw [held, received, released, idsThrough_append, idsThrough_append]
    change received history + {data.context} = released history + {data.context} + heldIds history
    rw [balanced.owed, add_right_comm]
  · rw [held]
    exact balanced.distinct

private theorem map_eraseP_context (held : List Buffer) (word : UInt32) :
    (held.eraseP fun buffer => buffer.context == word).map Buffer.context =
      (held.map Buffer.context).erase word := by
  induction held with
  | nil => rfl
  | cons first rest ih =>
    rw [List.map_cons, List.erase_cons, List.eraseP_cons]
    cases first.context == word with
    | true => rfl
    | false => rw [cond_false, if_neg Bool.false_ne_true, List.map_cons, ih]

/-- A buffer comes back and goes on to its sender. -/
theorem Balanced.giveBack (balanced : Balanced history)
    (lent : frameBuffer.context ∈ heldIds history) :
    Balanced (history ++
      [.inl (.dataReturnIn frameBuffer context), .inr (.dataReturnOut frameBuffer context)]) := by
  have held : heldIds (history ++
      [.inl (.dataReturnIn frameBuffer context), .inr (.dataReturnOut frameBuffer context)]) =
        (heldIds history).erase frameBuffer.context := by
    rw [heldIds, outstanding_append, heldIds, Multiset.coe_erase, ← map_eraseP_context]
    rfl
  have split : {frameBuffer.context} + (heldIds history).erase frameBuffer.context = heldIds history := by
    rw [Multiset.singleton_add, Multiset.cons_erase lent]
  refine ⟨?_, ?_, ?_⟩
  · rw [held, forwarded, returned, idsThrough_append, idsThrough_append]
    change forwarded history + 0 = returned history + {frameBuffer.context} + _
    rw [add_zero, add_assoc, split, balanced.lent]
  · rw [held, received, released, idsThrough_append, idsThrough_append]
    change received history + 0 = released history + {frameBuffer.context} + _
    rw [add_zero, add_assoc, split, balanced.owed]
  · rw [held]
    exact balanced.distinct.erase _

/-- Status calls move no buffer. -/
theorem Balanced.status (balanced : Balanced history) (portNum : ℕ) (condition : Success)
    {outs : List (Output Rest)} (quiet : outs = [.comStatusOut portNum condition] ∨ outs = []) :
    Balanced (history ++ .inl (.comStatusIn portNum condition) :: outs.map .inr) := by
  have unmoved (port : Input Rest ⊕ Output Rest → Option UInt32)
      (silent : port (.inl (.comStatusIn portNum condition)) = none ∧
        port (.inr (.comStatusOut portNum condition)) = none) :
      idsThrough port (history ++ .inl (.comStatusIn portNum condition) :: outs.map .inr) =
        idsThrough port history := by
    have nothing : idsThrough port (.inl (.comStatusIn portNum condition) :: outs.map .inr) = 0 := by
      rw [idsThrough, List.filterMap_cons_none silent.1]
      rcases quiet with rfl | rfl
      · rw [List.map_singleton, List.filterMap_cons_none silent.2]
        rfl
      · rfl
    rw [idsThrough_append, nothing, add_zero]
  have held : heldIds (history ++ .inl (.comStatusIn portNum condition) :: outs.map .inr) =
      heldIds history := by
    rw [heldIds, outstanding_append]
    rcases quiet with rfl | rfl <;> rfl
  refine ⟨?_, ?_, ?_⟩
  · rw [held, forwarded, returned, unmoved _ ⟨rfl, rfl⟩, unmoved _ ⟨rfl, rfl⟩]
    exact balanced.lent
  · rw [held, received, released, unmoved _ ⟨rfl, rfl⟩, unmoved _ ⟨rfl, rfl⟩]
    exact balanced.owed
  · rw [held]
    exact balanced.distinct

end Balance

section Calls

variable {isConnected : ℕ → Bool} {store : Store} {history : History Rest} {input : Input Rest}
  {progress : Progress (Output Rest)}

/-- What one admitted handler call does to the balance. -/
theorem Balanced.call (balanced : Balanced history) (admitted : ownership.admits store history input)
    (ran : (component isConnected).Runs store input progress) :
    Balanced (history ++ .inl input :: progress.outs.map .inr) := by
  have outcome := outcome_of_runs ran
  generalize progress.store = after, progress.outs = outs at outcome
  cases outcome with
  | forward _ same _ =>
    exact balanced.forward (balanced.received_sub ▸ admitted.1) same
  | drop _ => exact balanced.drop _
  | giveBack => exact balanced.giveBack (balanced.forwarded_sub ▸ admitted)
  | passStatus _ => exact balanced.status _ _ (.inl rfl)
  | ignoreStatus _ => exact balanced.status _ _ (.inr rfl)

/-- One buffer in is one buffer out, the same. -/
theorem handedOut_of_runs (ran : (component isConnected).Runs store input progress) :
    progress.outs.filterMap handedOut = (handedIn input).toList := by
  have outcome := outcome_of_runs ran
  generalize progress.store = after, progress.outs = outs at outcome
  cases outcome with
  | forward _ same _ => exact congrArg (fun word => [word]) same
  | drop _ | giveBack | passStatus _ | ignoreStatus _ => rfl

/-- What comes back goes on to its sender and nowhere else. -/
theorem outs_of_return {frameBuffer : Buffer} {context : FrameContext Rest}
    (ran : (component isConnected).Runs store (.dataReturnIn frameBuffer context) progress) :
    progress.outs = [.dataReturnOut frameBuffer context] := by
  have outcome := outcome_of_runs ran
  generalize progress.store = after, progress.outs = outs at outcome ⊢
  cases outcome with
  | giveBack => rfl

/-- A buffer downstream keeps its place and its bytes in a call that does not return it. -/
theorem kept_of_call {buffer : Buffer} (held : buffer ∈ outstanding history)
    (admitted : (holding buffer).admits store history input)
    (ran : (component isConnected).Runs store input progress) :
    buffer ∈ outstanding (history ++ .inl input :: progress.outs.map .inr) ∧
      progress.store.bytes buffer.extent = store.bytes buffer.extent := by
  obtain ⟨owned, stays⟩ := admitted
  have outcome := outcome_of_runs ran
  rw [outstanding_append]
  generalize progress.store = after, progress.outs = outs at outcome ⊢
  cases outcome with
  | forward _ _ frame =>
    refine ⟨List.mem_cons_of_mem _ held, ?_⟩
    rw [Store.bytes_eq_bytes_iff]
    exact fun address inside => frame address fun other => owned.2 buffer held address other inside
  | drop _ => exact ⟨held, rfl⟩
  | giveBack =>
    refine ⟨(List.mem_eraseP_of_neg ?_).mpr held, rfl⟩
    simpa only [beq_iff_eq] using (stays _ _ rfl).symm
  | passStatus _ => exact ⟨held, rfl⟩
  | ignoreStatus _ => exact ⟨held, rfl⟩

end Calls

section Reached

variable {isConnected : ℕ → Bool} {state : Configuration (Input Rest) (Output Rest)}

theorem balanced_of_reachable (reached : Reachable (component isConnected) ownership state) :
    Balanced state.trace :=
  reached.of_history Balanced component_tailCalls .nil fun _ _ _ _ balanced admitted ran =>
    balanced.call admitted ran

/-- As long as its holder leaves a buffer alone, so does the component. -/
theorem kept_of_steps {next : Configuration (Input Rest) (Output Rest)} {buffer : Buffer}
    (settled : state.Settled) (held : buffer ∈ outstanding state.trace)
    (steps : Steps (component isConnected) (holding buffer) state next) :
    buffer ∈ outstanding next.trace ∧
      next.store.bytes buffer.extent = state.store.bytes buffer.extent := by
  have kept := Steps.invariant
    (fun store history => buffer ∈ outstanding history ∧
      store.bytes buffer.extent = state.store.bytes buffer.extent)
    component_tailCalls
    (by
      rintro store history input progress ⟨member, same⟩ admitted ran
      obtain ⟨stillHeld, unchanged⟩ := kept_of_call member admitted ran
      exact ⟨stillHeld, unchanged.trans same⟩)
    (by
      rintro before after history ⟨member, same⟩ unchanged
      exact ⟨member, unchanged.trans same⟩)
    steps settled ⟨held, rfl⟩
  exact kept.2

/-- Ownership over whole runs: at every point the buffers the sender is owed are those downstream
holds, each once; every call goes through and hands on just the buffer it brought, to its sender if it
came back, with nothing left to do afterwards; and a buffer downstream stays as it was handed over until
it is returned. -/
theorem buffers_conserved (reached : Reachable (component isConnected) ownership state) :
    (received state.trace - released state.trace = forwarded state.trace - returned state.trace ∧
      released state.trace ≤ received state.trace ∧ returned state.trace ≤ forwarded state.trace ∧
      forwarded state.trace - returned state.trace = heldIds state.trace ∧
      (heldIds state.trace).Nodup) ∧
    (∀ input, ownership.admits state.store state.trace input →
      ∃ progress, (component isConnected).Runs state.store input progress ∧
        progress.outs.filterMap handedOut = (handedIn input).toList ∧
        (∀ frameBuffer context, input = .dataReturnIn frameBuffer context →
          progress.outs = [.dataReturnOut frameBuffer context]) ∧
        (state.called input progress).Settled) ∧
    ∀ buffer ∈ outstanding state.trace, ∀ next,
      Steps (component isConnected) (holding buffer) state next →
        buffer ∈ outstanding next.trace ∧
          next.store.bytes buffer.extent = state.store.bytes buffer.extent := by
  have balanced := balanced_of_reachable reached
  have settled := reached.settled component_tailCalls
  refine ⟨⟨?_, ?_, ?_, balanced.forwarded_sub, balanced.distinct⟩, ?_, ?_⟩
  · rw [balanced.received_sub, balanced.forwarded_sub]
  · exact balanced.owed ▸ Multiset.le_add_right ..
  · exact balanced.lent ▸ Multiset.le_add_right ..
  · intro input _
    obtain ⟨progress, ran, _, finished⟩ := exists_outcome isConnected state.store input
    refine ⟨progress, ran, handedOut_of_runs ran, ?_, ?_⟩
    · rintro frameBuffer context rfl
      exact outs_of_return ran
    intro code member
    rcases List.mem_append.mp member with inner | outer
    · exact finished code (Option.mem_toList.mp inner)
    · exact settled code outer
  · exact fun buffer held next steps => kept_of_steps settled held steps

end Reached

/-- A second packet comes while the first is still being handed on, and then the first is returned:
downstream is left with the second. -/
theorem buffers_conserved_one_returned :
    ∃ state : Configuration (Input Unit) (Output Unit),
      Reachable (component fun _ => false) ownership state ∧ outstanding state.trace = [⟨8, 40, 8⟩] ∧
        received state.trace = {7, 8} ∧ released state.trace = {7} ∧
        received state.trace - released state.trace = forwarded state.trace - returned state.trace := by
  let store := Store.ofBytes 3 [0x08, 0x23, 0xC0, 0x2A, 0, 10, 0, 0, 0x10, 0, 0x80, 0, 0, 0, 0, 0, 0x5A]
  let first : Buffer := ⟨7, 3, 17⟩
  let second : Buffer := ⟨8, 40, 8⟩
  have lending : ownership.admits store [] (.dataIn first ⟨true, ()⟩) :=
    ⟨Multiset.notMem_zero _, fun _ member => absurd member List.not_mem_nil⟩
  have strip : strips (store first.data) first.size = true := by decide
  have stripped : (component fun _ => false).Runs store (.dataIn first ⟨true, ()⟩) _ :=
    dataIn_stripped ⟨true, ()⟩ store strip
  have one := (Reachable.start store).call lending stripped
  have lendingMore : ownership.admits (strippedStore store first)
      [.inl (.dataIn first ⟨true, ()⟩), .inr (.dataOut ⟨7, 13, 7⟩ ⟨false, ()⟩)]
      (.dataIn second ⟨false, ()⟩) := by
    refine ⟨by decide, ?_⟩
    intro buffer member
    obtain rfl := List.mem_singleton.mp member
    intro address inSecond inFirst
    have above := inSecond.1
    have below := inFirst.2
    simp only [Buffer.extent, second] at above below
    omega
  have keep : strips (strippedStore store first second.data) second.size = false := by decide
  have passed : (component fun _ => false).Runs (strippedStore store first)
      (.dataIn second ⟨false, ()⟩) _ := dataIn_forwarded ⟨false, ()⟩ _ (by decide) keep
  have two := one.call lendingMore passed
  have returning : ownership.admits (strippedStore store first)
      [.inl (.dataIn first ⟨true, ()⟩), .inr (.dataOut ⟨7, 13, 7⟩ ⟨false, ()⟩),
        .inl (.dataIn second ⟨false, ()⟩), .inr (.dataOut second ⟨false, ()⟩)]
      (.dataReturnIn ⟨7, 13, 7⟩ ⟨false, ()⟩) := by
    change (7 : UInt32) ∈ (_ : Multiset UInt32)
    decide
  obtain ⟨⟨after, outs, waiting⟩, returned, _, back, _⟩ := (buffers_conserved two).2.1 _ returning
  obtain rfl : outs = [.dataReturnOut ⟨7, 13, 7⟩ ⟨false, ()⟩] := back _ _ rfl
  have three := two.call returning returned
  exact ⟨_, three, rfl, rfl, rfl, (buffers_conserved three).1.1⟩

end FprimeGds.Soundness.BufferOwnership
