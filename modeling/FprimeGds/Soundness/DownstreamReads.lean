import FprimeGds.Machine.Ledger
import FprimeGds.Machine.Lending
import FprimeGds.Model.Downlink
import FprimeGds.Soundness.BufferOwnership
import FprimeGds.Soundness.StripRefinement

/-! # What downstream reads, for as long as it reads

The component rewrites packets in the storage they arrive in and hands on references, so what the
receiver finds depends on what everybody does to that storage until the buffer comes back. Over whole
runs, nested or not, the storage behind the buffers downstream holds is that of a filter that is given
byte strings and lends byte strings: no packet is changed by those handled after it.
-/

namespace FprimeGds.Soundness.DownstreamReads

open Machine Model Model.CfsTlmStripper Model.Downlink Proofs.CfsTlmStripper
open BufferOwnership StripRefinement TelemetryStrip

variable {Rest : Type}

/-! ## The filter -/

/-- What becomes of a packet: too short for a primary header and it is refused. -/
def passes (packet : List UInt8) : Option (List UInt8) :=
  if 6 ≤ packet.length then some (if Strippable packet then strippedBytes packet else packet) else none

/-- A call as the filter sees it: packets by their bytes, and buffers by their context words. -/
def dealing (call : Call (Input Rest) (Output Rest)) : Dealing UInt32 (List UInt8) :=
  match call.input with
  | .dataIn data _ => .offered data.context (call.store.bytes data.extent)
  | .dataReturnIn frameBuffer _ => .returned frameBuffer.context
  | .comStatusIn _ _ => .other

/-- What the holder of a buffer finds. -/
def reads (store : Store) (buffer : Buffer) : UInt32 × List UInt8 :=
  (buffer.context, store.bytes buffer.extent)

/-- What downstream finds at the moment a call hands it a buffer. -/
def handedDownstream (call : Call (Input Rest) (Output Rest)) : List (List UInt8) :=
  (forwards call.progress.outs).map fun out => call.progress.store.bytes out.extent

/-- Nobody else writes what downstream holds: a packet arrives in storage that is not in use there, and
between port calls only other storage changes. -/
def custody : Environment (Input Rest) (Output Rest) where
  admits _ history
    | .dataIn data _ => ∀ buffer ∈ outstanding history, data.extent.Apart buffer.extent
    | .dataReturnIn _ _ => True
    | .comStatusIn _ _ => True
  rewrites history before after :=
    ∀ buffer ∈ outstanding history, after.bytes buffer.extent = before.bytes buffer.extent

/-! ## One call -/

/-- What the handler of `dataIn` does, in terms of the filter. -/
inductive Handled (store : Store) (data : Buffer) : Option (List UInt8) → Progress (Output Rest) → Prop
  | passed {out : Buffer} {outContext : FrameContext Rest} {packet : List UInt8}
      {progress : Progress (Output Rest)} :
      progress.outs = [.dataOut out outContext] → out.context = data.context →
      progress.store.bytes out.extent = packet → Handled store data (some packet) progress
  | refused {size : UInt32} {context : FrameContext Rest} {progress : Progress (Output Rest)} :
      progress.outs = [.malformedPacket size, .dataReturnOut data context] → Handled store data none progress

section Calls

variable {isConnected : ℕ → Bool} {store : Store} {data : Buffer} {context : FrameContext Rest}
  {progress : Progress (Output Rest)}

theorem passes_of_strips (strip : strips (store data.data) data.size = true) :
    passes (store.bytes data.extent) = some (strippedBytes (store.bytes data.extent)) := by
  have large := Nat.le_of_succ_le (large_of_strips strip)
  have room : 6 ≤ (store.bytes data.extent).length := by
    rw [Store.bytes_length]
    exact le_trans (by decide) large
  rw [passes, if_pos room, if_pos ((strippable_iff store data).mpr strip)]

theorem passes_of_keeps (keep : strips (store data.data) data.size = false) :
    passes (store.bytes data.extent) = if 6 ≤ data.size then some (store.bytes data.extent) else none := by
  have unstripped : ¬ Strippable (store.bytes data.extent) := by
    rw [strippable_iff, keep]
    exact Bool.false_ne_true
  rw [passes, if_neg unstripped, Store.bytes_length]
  rfl

theorem handled_of_runs (ran : (component isConnected).Runs store (.dataIn data context) progress) :
    Handled store data (passes (store.bytes data.extent)) progress := by
  change (dataInHandler data context).advance Output.yields store = some progress at ran
  cases strip : strips (store data.data) data.size with
  | true =>
    rw [dataIn_stripped context store strip] at ran
    cases ran
    have stripped := stripped_of_strips context strip
    rw [passes_of_strips strip]
    exact .passed stripped.emitted stripped.same stripped.reads
  | false =>
    obtain ⟨only, same, _, unchanged, outs⟩ := exists_kept context strip
    obtain rfl := Option.some.inj (same.symm.trans ran)
    rw [passes_of_keeps strip]
    split_ifs at outs ⊢ with room
    · exact .passed outs rfl (by rw [unchanged])
    · obtain ⟨size, _, reported⟩ := outs
      exact .refused reported

/-- The bytes downstream is handed are those the filter makes of the packet. -/
theorem handedDownstream_of_runs {input : Input Rest}
    (ran : (component isConnected).Runs store input progress) :
    handedDownstream ⟨store, input, progress⟩ =
      (made passes (dealing ⟨store, input, progress⟩)).toList := by
  cases input with
  | dataIn data context =>
    have handled := handled_of_runs ran
    change handedDownstream _ = (passes (store.bytes data.extent)).toList
    rw [handedDownstream]
    generalize passes (store.bytes data.extent) = result at handled ⊢
    cases handled with
    | passed outs _ packet =>
      rw [outs, ← packet]
      rfl
    | refused outs =>
      rw [outs]
      rfl
  | dataReturnIn frameBuffer context =>
    have outcome := outcome_of_runs ran
    generalize progress.store = after, outputs : progress.outs = outs at outcome
    rw [handedDownstream, outputs]
    cases outcome with
    | giveBack => rfl
  | comStatusIn portNum condition =>
    have outcome := outcome_of_runs ran
    generalize progress.store = after, outputs : progress.outs = outs at outcome
    rw [handedDownstream, outputs]
    cases outcome with
    | passStatus _ | ignoreStatus _ => rfl

/-- Only the storage of a packet handed in changes. -/
theorem frame_of_runs {input : Input Rest} (ran : (component isConnected).Runs store input progress)
    {buffer : Buffer} (apart : ∀ data context, input = .dataIn data context →
      data.extent.Apart buffer.extent) :
    progress.store.bytes buffer.extent = store.bytes buffer.extent := by
  have outcome := outcome_of_runs ran
  generalize progress.store = after, progress.outs = outs at outcome ⊢
  cases outcome with
  | forward _ _ frame =>
    rw [Store.bytes_eq_bytes_iff]
    exact fun address inside => frame address fun other => apart _ _ rfl address other inside
  | drop _ | giveBack | passStatus _ | ignoreStatus _ => rfl

end Calls

/-! ## Whole runs -/

section Runs

variable {isConnected : ℕ → Bool} {log : List (Call (Input Rest) (Output Rest))} {store : Store}

/-- A call does to the buffers downstream holds, and to what is found behind them, what the filter does
to what it has lent. -/
theorem reads_call {history : History Rest} {input : Input Rest} {progress : Progress (Output Rest)}
    (admitted : custody.admits store history input)
    (ran : (component isConnected).Runs store input progress) :
    (outstanding (history ++ Call.events ⟨store, input, progress⟩)).map (reads progress.store) =
      deal passes ((outstanding history).map (reads store)) (dealing ⟨store, input, progress⟩) := by
  have unchanged (buffer : Buffer) (held : buffer ∈ outstanding history) :
      reads progress.store buffer = reads store buffer := by
    refine congrArg (Prod.mk buffer.context) (frame_of_runs ran ?_)
    rintro data context rfl
    exact admitted buffer held
  rw [outstanding_append, Call.events, List.foldl_cons]
  cases input with
  | dataIn data context =>
    have handled := handled_of_runs ran
    rw [dealing, deal]
    dsimp only
    generalize passes (store.bytes data.extent) = result at handled ⊢
    cases handled with
    | @passed out _ packet _ outs same found =>
      rw [outs]
      change reads progress.store out :: (outstanding history).map (reads progress.store) = _
      rw [List.map_congr_left unchanged, reads, same, found]
    | refused outs =>
      rw [outs]
      exact List.map_congr_left unchanged
  | dataReturnIn frameBuffer context =>
    have outcome := outcome_of_runs ran
    generalize progress.store = after, progress.outs = outs at outcome unchanged ⊢
    cases outcome with
    | giveBack =>
      change ((outstanding history).eraseP fun buffer => buffer.context == frameBuffer.context).map
          (reads store) = ((outstanding history).map (reads store)).eraseP fun entry => entry.1 == frameBuffer.context
      rw [List.eraseP_map]
      rfl
  | comStatusIn portNum condition =>
    have outcome := outcome_of_runs ran
    generalize progress.store = after, progress.outs = outs at outcome unchanged ⊢
    cases outcome with
    | passStatus _ | ignoreStatus _ => rfl

/-- The storage behind the buffers downstream holds is what the filter has lent. -/
theorem reads_of_ledger (ledger : Ledger (component isConnected) custody log store) :
    (outstanding (events log)).map (reads store) = lent passes (log.map dealing) := by
  induction ledger with
  | start store => rfl
  | @call log store input progress _ admitted ran ih =>
    rw [events_snoc, List.map_append, List.map_singleton, lent_snoc, ← ih]
    exact reads_call admitted ran
  | rewrite _ changed ih =>
    rw [← ih]
    exact List.map_congr_left fun buffer held => congrArg (Prod.mk buffer.context) (changed buffer held)

/-- Downstream was handed what the filter passed on, in the order of the packets. -/
theorem handedDownstream_of_calls
    (calls : ∀ call ∈ log, (component isConnected).Runs call.store call.input call.progress) :
    log.flatMap handedDownstream = passedOn passes (log.map dealing) := by
  induction log with
  | nil => rfl
  | cons call rest ih =>
    obtain ⟨ran, others⟩ := List.forall_mem_cons.mp calls
    rw [List.flatMap_cons, handedDownstream_of_runs ran, ih others, List.map_cons, passedOn_cons]

/-- In any run, nested or not, in which nobody else writes what downstream holds: the buffers it holds
read as the loans of the filter, what it was handed is what the filter passed on, and a packet reads as
the filter made it from its acceptance until its buffer comes back. -/
theorem downstream_reads_loans {state : Configuration (Input Rest) (Output Rest)}
    (reached : Reachable (component isConnected) custody state) :
    (∃ log, Ledger (component isConnected) custody log state.store ∧ events log = state.trace) ∧
    ∀ log, Ledger (component isConnected) custody log state.store → events log = state.trace →
      (outstanding state.trace).map (reads state.store) = lent passes (log.map dealing) ∧
      log.flatMap handedDownstream = passedOn passes (log.map dealing) ∧
      ∀ before call after data context packet, log = before ++ call :: after →
        call.input = .dataIn data context → passes (call.store.bytes data.extent) = some packet →
        .returned data.context ∉ after.map dealing →
        ∃ out ∈ outstanding state.trace, out.context = data.context ∧
          state.store.bytes out.extent = packet := by
  refine ⟨reached.exists_ledger component_tailCalls, ?_⟩
  rintro log ledger history
  have loans := reads_of_ledger ledger
  rw [history] at loans
  refine ⟨loans, handedDownstream_of_calls ledger.runs, ?_⟩
  rintro before ⟨store, input, progress⟩ after data context packet rfl rfl passed kept
  have held : (data.context, packet) ∈ (outstanding state.trace).map (reads state.store) := by
    rw [loans, List.map_append, List.map_cons]
    exact mem_lent_of_offered passed kept
  obtain ⟨out, member, found⟩ := List.mem_map.mp held
  obtain ⟨same, bytes⟩ := Prod.mk.inj found
  exact ⟨out, member, same, bytes⟩

end Runs

/-- The sender clears the front of its storage while downstream still reads the packet behind it. -/
theorem downstream_reads_loans_front_cleared :
    ∃ state : Configuration (Input Unit) (Output Unit), state.store 3 = 0 ∧
      ∃ out ∈ outstanding state.trace,
        state.store.bytes out.extent = [0x00, 0x23, 0xC0, 0x2A, 0x00, 0x00, 0x5A] := by
  let store := Store.ofBytes 3 [0x08, 0x23, 0xC0, 0x2A, 0, 10, 0, 0, 0x10, 0, 0x80, 0, 0, 0, 0, 0, 0x5A]
  let data : Buffer := ⟨7, 3, 17⟩
  have strip : strips (store data.data) data.size = true := by decide
  have ran : (component fun _ => false).Runs store (.dataIn data ⟨true, ()⟩) _ :=
    dataIn_stripped ⟨true, ()⟩ store strip
  have admitted : custody.admits store [] (.dataIn data (⟨true, ()⟩ : FrameContext Unit)) :=
    fun _ member => absurd member List.not_mem_nil
  let cleared := (strippedStore store data).write 3 0
  have changed : cleared.bytes (strippedBuffer data).extent =
      (strippedStore store data).bytes (strippedBuffer data).extent := by
    rw [Store.bytes_eq_bytes_iff]
    intro address inside
    refine Store.write_of_ne _ _ ?_
    rintro rfl
    exact absurd inside.1 (by decide)
  have rewrites : custody.rewrites [.inl (.dataIn data (⟨true, ()⟩ : FrameContext Unit)),
      .inr (.dataOut (strippedBuffer data) ⟨false, ()⟩)] (strippedStore store data) cleared := by
    intro buffer member
    obtain rfl := List.mem_singleton.mp member
    exact changed
  have called : Step _ _ (.start store) _ := .call admitted ran
  have reached : Reachable _ custody _ :=
    ⟨store, (Relation.ReflTransGen.single called).tail (.rewrite rewrites)⟩
  have ledger : Ledger (component fun _ => false) custody _ cleared :=
    ((Ledger.start store).call admitted ran).rewrite rewrites
  obtain ⟨out, member, _, bytes⟩ := ((downstream_reads_loans reached).2 _ ledger rfl).2.2 [] _ [] data _ _
    rfl rfl (passes_of_strips strip) List.not_mem_nil
  exact ⟨_, rfl, out, member, bytes.trans (by decide)⟩

end FprimeGds.Soundness.DownstreamReads
