import Mathlib.Data.List.Induction
import FprimeGds.Ccsds.PacketStream
import FprimeGds.Soundness.DownstreamReads

/-! # What goes down the link

The packets handed downstream are packed one after another, so the other end has only their length fields
to tell them apart. Stripping changes a packet and its length field together, and all other packets go on
as they came, secondary headers included. Over whole runs the stream can be cut into the packets as
CfsTlmStripper passes them on exactly if these were complete when they came in, and what is handed
downstream at all is what the component would not strip again.
-/

namespace FprimeGds.Soundness.DownlinkStream

open Machine Ccsds Model Model.CfsTlmStripper Model.Downlink Proofs.CfsTlmStripper
open BufferOwnership StripRefinement TelemetryStrip DownstreamReads

variable {Rest : Type}

/-! ## One packet -/

section Packets

/-- A packet as it goes on. -/
def downlinked (packet : SpacePacket) : SpacePacket :=
  if Strippable packet.bytes then packet.removeSecHdr secHdrSize else packet

theorem passes_bytes (packet : SpacePacket) : passes packet.bytes = some (downlinked packet).bytes := by
  have room : 6 ≤ packet.bytes.length := by
    rw [SpacePacket.bytes_length, SpacePacket.size]
    exact Nat.le_add_right ..
  rw [passes, if_pos room, downlinked]
  split_ifs
  · rw [strippedBytes_bytes]
  · rfl

/-- The length field goes down by what is removed, and it does not wrap for a packet that is complete
before or after. -/
theorem removeSecHdr_complete_iff {packet : SpacePacket} (payload : secHdrSize < packet.dataField.length)
    (fits : packet.dataField.length ≤ 65536) :
    (packet.removeSecHdr secHdrSize).Complete ↔ packet.Complete := by
  have bound := packet.header.length_lt
  unfold SpacePacket.Complete
  rw [SpacePacket.removeSecHdr, PrimaryHeader.length_clearSecHdr, PrimaryHeader.length_setLength,
    List.length_drop]
  unfold secHdrSize at payload ⊢
  omega

theorem downlinked_complete_iff {packet : SpacePacket} (fits : packet.dataField.length ≤ 65536) :
    (downlinked packet).Complete ↔ packet.Complete := by
  rw [downlinked]
  split_ifs with strippable
  · obtain ⟨_, _, large⟩ := strippable
    rw [SpacePacket.bytes_length, SpacePacket.size] at large
    refine removeSecHdr_complete_iff ?_ fits
    unfold primaryHeaderSize at large
    unfold secHdrSize
    omega
  · rfl

/-- What goes on would go on unchanged. -/
theorem passes_of_passes {packet made : List UInt8} (passed : passes packet = some made) :
    6 ≤ made.length ∧ ¬ Strippable made := by
  unfold passes at passed
  split_ifs at passed with room strippable
  · obtain rfl := Option.some.inj passed
    refine ⟨?_, fun again => ?_⟩
    · rw [strippedBytes, List.length_append]
      exact Nat.le_add_right ..
    · have cleared := flagged_strippedBytes packet
      exact Bool.false_ne_true (cleared.symm.trans again.2.1)
  · obtain rfl := Option.some.inj passed
    exact ⟨room, strippable⟩

theorem passes_eq_self {packet : List UInt8} (room : 6 ≤ packet.length) (unstrippable : ¬ Strippable packet) :
    passes packet = some packet := by
  rw [passes, if_pos room, if_neg unstrippable]

end Packets

/-! ## Whole runs -/

section Runs

variable {isConnected : ℕ → Bool} {log : List (Call (Input Rest) (Output Rest))} {store : Store}

/-- The packet a call accepts, if it has room for a primary header. -/
def acceptedPacket (call : Call (Input Rest) (Output Rest)) : Option SpacePacket :=
  match call.input with
  | .dataIn data _ => if priHdrSize ≤ data.size then some (packetAt call.store data) else none
  | .dataReturnIn _ _ | .comStatusIn _ _ => none

/-- The packets accepted, in order. -/
def accepted (log : List (Call (Input Rest) (Output Rest))) : List SpacePacket :=
  log.filterMap acceptedPacket

theorem made_dealing (call : Call (Input Rest) (Output Rest)) :
    made passes (dealing call) = (acceptedPacket call).map fun packet => (downlinked packet).bytes := by
  obtain ⟨store, input, progress⟩ := call
  cases input with
  | dataIn data context =>
    change passes (store.bytes data.extent) =
      Option.map _ (if priHdrSize ≤ data.size then some (packetAt store data) else none)
    split_ifs with room
    · rw [← packetAt_bytes store room, passes_bytes]
      rfl
    · rw [passes, Store.bytes_length]
      exact if_neg room
  | dataReturnIn frameBuffer context => rfl
  | comStatusIn portNum condition => rfl

/-- What downstream is handed are the packets accepted, as they go on. -/
theorem handedDownstream_eq
    (calls : ∀ call ∈ log, (component isConnected).Runs call.store call.input call.progress) :
    log.flatMap handedDownstream = ((accepted log).map downlinked).map SpacePacket.bytes := by
  rw [handedDownstream_of_calls calls, passedOn, List.filterMap_map, accepted, List.map_map,
    List.map_filterMap]
  exact List.filterMap_congr fun call _ => made_dealing call

theorem flatMap_downlinked
    (calls : ∀ call ∈ log, (component isConnected).Runs call.store call.input call.progress) :
    ((accepted log).map downlinked).flatMap SpacePacket.bytes = (log.flatMap handedDownstream).flatten := by
  rw [handedDownstream_eq calls, List.flatMap_def]

/-- Complete packets can be told apart downstream. -/
theorem splits_of_complete
    (calls : ∀ call ∈ log, (component isConnected).Runs call.store call.input call.progress)
    (complete : ∀ packet ∈ accepted log, packet.Complete) :
    SpacePacket.stream.split (log.flatMap handedDownstream).flatten = some ((accepted log).map downlinked) := by
  refine SelfDelimiting.split_iff.mpr ⟨?_, flatMap_downlinked calls⟩
  intro sent member
  obtain ⟨packet, inside, rfl⟩ := List.mem_map.mp member
  have whole := complete packet inside
  have fits : packet.dataField.length ≤ 65536 := by
    rw [whole]
    exact packet.header.length_lt
  exact (downlinked_complete_iff fits).mpr whole

/-- In any run, nested or not and whatever anybody does to the storage, whose packets are no longer than
a length field can say: the bytes handed downstream, put together, are cut by their length fields into
the packets accepted, as CfsTlmStripper passes them on, if and only if each was complete when accepted. -/
theorem downlink_splits_iff {environment : Environment (Input Rest) (Output Rest)}
    {state : Configuration (Input Rest) (Output Rest)}
    (reached : Reachable (component isConnected) environment state) :
    (∃ log, Ledger (component isConnected) environment log state.store ∧ events log = state.trace) ∧
    ∀ log, Ledger (component isConnected) environment log state.store → events log = state.trace →
      (∀ packet ∈ accepted log, packet.dataField.length ≤ 65536) →
      (SpacePacket.stream.split (log.flatMap handedDownstream).flatten =
          some ((accepted log).map downlinked) ↔
        ∀ packet ∈ accepted log, packet.Complete) := by
  refine ⟨reached.exists_ledger component_tailCalls, ?_⟩
  intro log ledger _ fits
  refine ⟨fun splits packet member => ?_, splits_of_complete ledger.runs⟩
  have complete := (SelfDelimiting.split_iff.mp splits).1
  exact (downlinked_complete_iff (fits packet member)).mp (complete _ (List.mem_map_of_mem member))

/-- A telemetry packet with a secondary header and a command, handed on back to back. -/
theorem downlink_splits_two_packets :
    ∃ (state : Configuration (Input Unit) (Output Unit)) (log : List (Call (Input Unit) (Output Unit))),
      Reachable (component fun _ => false) custody state ∧ events log = state.trace ∧
        SpacePacket.stream.split (log.flatMap handedDownstream).flatten =
          some [⟨⟨0x00, 0x23, 0xC0, 0x2A, 0, 0⟩, [0x5A]⟩, ⟨⟨0x18, 0x23, 0xC0, 0x2B, 0, 1⟩, [0xAA, 0xBB]⟩] := by
  let store := Store.ofBytes 3 [0x08, 0x23, 0xC0, 0x2A, 0, 10, 0, 0, 0x10, 0, 0x80, 0, 0, 0, 0, 0, 0x5A,
    0x18, 0x23, 0xC0, 0x2B, 0, 1, 0xAA, 0xBB]
  let telemetry : Buffer := ⟨7, 3, 17⟩
  let command : Buffer := ⟨8, 20, 8⟩
  let context : FrameContext Unit := ⟨true, ()⟩
  have strip : strips (store telemetry.data) telemetry.size = true := by decide
  have keep : strips (strippedStore store telemetry command.data) command.size = false := by decide
  have stripped : (component fun _ => false).Runs store (.dataIn telemetry context) _ :=
    dataIn_stripped context store strip
  have forwarded : (component fun _ => false).Runs (strippedStore store telemetry) (.dataIn command context) _ :=
    dataIn_forwarded context _ (by decide) keep
  have free : custody.admits store [] (.dataIn telemetry context) :=
    fun _ member => absurd member List.not_mem_nil
  have apart : custody.admits (strippedStore store telemetry) [.inl (.dataIn telemetry context),
      .inr (.dataOut (strippedBuffer telemetry) ⟨false, ()⟩)] (.dataIn command context) := by
    intro buffer member
    obtain rfl := List.mem_singleton.mp member
    rintro address ⟨lower, _⟩ ⟨_, upper⟩
    exact absurd (lt_of_le_of_lt lower upper) (by decide)
  obtain ⟨log, ledger, packets⟩ : ∃ log, Ledger (component fun _ => false) custody log
      (strippedStore store telemetry) ∧ accepted log = [⟨⟨0x08, 0x23, 0xC0, 0x2A, 0, 10⟩,
        [0, 0, 0x10, 0, 0x80, 0, 0, 0, 0, 0, 0x5A]⟩, ⟨⟨0x18, 0x23, 0xC0, 0x2B, 0, 1⟩, [0xAA, 0xBB]⟩] :=
    ⟨_, ((Ledger.start store).call free stripped).call apart forwarded, by decide⟩
  obtain ⟨state, reached, same, history⟩ := ledger.reachable
  rw [← same] at ledger
  have splits := (downlink_splits_iff reached).2 log ledger history.symm
  rw [packets] at splits
  exact ⟨state, log, reached, history.symm, (splits (by decide)).mpr (by decide)⟩

end Runs

/-! ## All runs -/

section Range

variable (isConnected : ℕ → Bool)

theorem exists_call (store : Store) (input : Input Rest) :
    ∃ progress, (component isConnected).Runs store input progress := by
  obtain ⟨progress, ran, _⟩ := exists_outcome isConnected store input
  exact ⟨progress, ran⟩

variable (Rest)

/-- Some run hands these byte strings downstream and gets every buffer back. -/
def HandsDownstream (handed : List (List UInt8)) : Prop :=
  ∃ (log : List (Call (Input Rest) (Output Rest))) (store : Store),
    Ledger (component isConnected) custody log store ∧ lent passes (log.map dealing) = [] ∧
      passedOn passes (log.map dealing) = handed

variable {isConnected} {Rest}

/-- A packet that is not stripped can be sent next, and its buffer given back. -/
theorem HandsDownstream.snoc [Inhabited Rest] {handed : List (List UInt8)}
    (hands : HandsDownstream Rest isConnected handed) {packet : List UInt8}
    (passed : passes packet = some packet) : HandsDownstream Rest isConnected (handed ++ [packet]) := by
  obtain ⟨log, store, ledger, returned, rfl⟩ := hands
  have idle (buffer : Buffer) : buffer ∉ outstanding (events log) := by
    rw [← reads_of_ledger ledger, List.map_eq_nil_iff] at returned
    rw [returned]
    exact List.not_mem_nil
  let data : Buffer := ⟨0, 0, packet.length⟩
  let context : FrameContext Rest := ⟨false, default⟩
  have held : (Store.ofBytes 0 packet).bytes data.extent = packet := Store.bytes_ofBytes 0 packet
  obtain ⟨sent, sends⟩ := exists_call isConnected (Store.ofBytes 0 packet) (.dataIn data context)
  obtain ⟨back, returns⟩ := exists_call isConnected sent.store (.dataReturnIn data context)
  have prepared : Ledger (component isConnected) custody log (Store.ofBytes 0 packet) :=
    ledger.rewrite fun buffer member => absurd member (idle buffer)
  have free : custody.admits (Store.ofBytes 0 packet) (events log) (.dataIn data context) :=
    fun buffer member => absurd member (idle buffer)
  let sending : Call (Input Rest) (Output Rest) := ⟨Store.ofBytes 0 packet, .dataIn data context, sent⟩
  let returning : Call (Input Rest) (Output Rest) := ⟨sent.store, .dataReturnIn data context, back⟩
  have allowed : custody.admits sent.store (events (log ++ [sending])) (.dataReturnIn data context) := trivial
  have whole : Ledger (component isConnected) custody (log ++ [sending] ++ [returning]) back.store :=
    (prepared.call free sends).call allowed returns
  have dealt : (log ++ [sending] ++ [returning]).map dealing =
      log.map dealing ++ [.offered 0 packet] ++ [.returned 0] := by
    have first : dealing sending = .offered 0 packet := congrArg (Dealing.offered 0) held
    rw [List.map_append, List.map_append, List.map_singleton, first]
    rfl
  refine ⟨_, _, whole, ?_, ?_⟩
  · rw [dealt, lent_snoc, lent_snoc, returned, deal, passed]
    rfl
  · rw [dealt, passedOn, List.filterMap_append, List.filterMap_append]
    simp only [List.filterMap_cons, made, passed, List.filterMap_nil, List.append_nil]
    rfl

/-- The byte strings that downstream is handed, over all runs, are the sequences of packets that have
room for a primary header and are not telemetry to be stripped. -/
theorem handed_iff [Inhabited Rest] (isConnected : ℕ → Bool) (handed : List (List UInt8)) :
    (∃ (state : Configuration (Input Rest) (Output Rest)) (log : List (Call (Input Rest) (Output Rest))),
      Reachable (component isConnected) custody state ∧
        Ledger (component isConnected) custody log state.store ∧ events log = state.trace ∧
          log.flatMap handedDownstream = handed) ↔
      ∀ packet ∈ handed, 6 ≤ packet.length ∧ ¬ Strippable packet := by
  constructor
  · rintro ⟨state, log, _, ledger, _, rfl⟩ packet member
    rw [handedDownstream_of_calls ledger.runs, passedOn, List.filterMap_map] at member
    obtain ⟨call, _, passed⟩ := List.mem_filterMap.mp member
    change made passes (dealing call) = some packet at passed
    rw [made_dealing] at passed
    obtain ⟨accepted, _, rfl⟩ := Option.map_eq_some_iff.mp passed
    exact passes_of_passes (passes_bytes accepted)
  · intro unstrippable
    have hands : HandsDownstream Rest isConnected handed := by
      induction handed using List.reverseRecOn with
      | nil => exact ⟨[], Store.ofBytes 0 [], .start _, rfl, rfl⟩
      | append_singleton earlier packet ih =>
        obtain ⟨before, last⟩ := List.forall_mem_append.mp unstrippable
        obtain ⟨room, kept⟩ := List.forall_mem_singleton.mp last
        exact (ih before).snoc (passes_eq_self room kept)
    obtain ⟨log, store, ledger, _, rfl⟩ := hands
    obtain ⟨state, reached, rfl, history⟩ := ledger.reachable
    exact ⟨state, log, reached, ledger, history.symm, handedDownstream_of_calls ledger.runs⟩

end Range

end FprimeGds.Soundness.DownlinkStream
