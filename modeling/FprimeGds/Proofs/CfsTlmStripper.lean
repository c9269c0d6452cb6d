import FprimeGds.Ccsds.SpacePacket
import FprimeGds.Model.CfsTlmStripper

/-! # What one handler call of CfsTlmStripper does

`packetAt` reads the space packet a buffer holds. In these terms stripping in place is
`SpacePacket.removeSecHdr`: the packet at the moved buffer afterwards is the packet at the incoming
buffer before, less its secondary header, and no byte outside the rebuilt header has changed. The
three outcomes of `dataInHandler` are equations, so no later proof opens its code again.
-/

namespace FprimeGds.Proofs.CfsTlmStripper

open Machine Ccsds Model Model.CfsTlmStripper

variable {Rest : Type}

/-- The space packet in a buffer's bytes. -/
def packetAt (store : Store) (buffer : Buffer) : SpacePacket where
  header := ⟨store buffer.data, store (buffer.data + 1), store (buffer.data + 2),
    store (buffer.data + 3), store (buffer.data + 4), store (buffer.data + 5)⟩
  dataField := store.bytes (buffer.extent.advance priHdrSize)

theorem packetAt_bytes (store : Store) {buffer : Buffer} (room : priHdrSize ≤ buffer.size) :
    (packetAt store buffer).bytes = store.bytes buffer.extent := by
  obtain ⟨context, data, size⟩ := buffer
  obtain ⟨rest, rfl⟩ := Nat.exists_eq_add_of_le' room
  simp only [packetAt, SpacePacket.bytes, PrimaryHeader.bytes, Buffer.extent, Extent.advance,
    priHdrSize, Store.bytes_succ, Nat.add_assoc, Nat.reduceAdd, Nat.add_sub_cancel_right,
    List.cons_append, List.nil_append]

theorem packetAt_eq {store : Store} {buffer : Buffer} {packet : SpacePacket}
    (same : store.bytes buffer.extent = packet.bytes) : packetAt store buffer = packet := by
  apply SpacePacket.bytes_injective
  rw [packetAt_bytes, same]
  have size := congrArg List.length same
  rw [Store.bytes_length, SpacePacket.bytes_length] at size
  change primaryHeaderSize ≤ buffer.extent.size
  rw [size]
  exact Nat.le_add_right ..

/-- The length the two bytes of the new header announce, before it is cut into them. -/
private theorem lengthToken_toNat (high low : UInt8) :
    (((high.toUInt64 <<< 8) ||| low.toUInt64) - UInt64.ofNat secHdrSize).toNat =
      (high.toNat * 256 + low.toNat + (2 ^ 64 - 10)) % 2 ^ 64 := by
  have highBound := high.toNat_lt
  have lowBound := low.toNat_lt
  have joined : ((high.toUInt64 <<< 8) ||| low.toUInt64).toNat = high.toNat * 256 + low.toNat := by
    rw [UInt64.toNat_or, UInt64.toNat_shiftLeft, UInt8.toNat_toUInt64, UInt8.toNat_toUInt64]
    have shift : high.toNat <<< (UInt64.toNat 8 % 64) % 2 ^ 64 = 2 ^ 8 * high.toNat := by
      rw [Nat.shiftLeft_eq]
      change high.toNat * 2 ^ 8 % 2 ^ 64 = _
      omega
    rw [shift, ← Nat.two_pow_add_eq_or_of_lt lowBound]
    omega
  rw [UInt64.toNat_sub, joined]
  change (2 ^ 64 - 10 + _) % 2 ^ 64 = _
  rw [Nat.add_comm]

private theorem lengthToken_bytes (header : PrimaryHeader) :
    ((((header.lengthHigh.toUInt64 <<< 8) ||| header.lengthLow.toUInt64) -
      UInt64.ofNat secHdrSize) >>> 8 &&& 0xFF).toUInt8 =
        UInt8.ofNat ((header.length + (65536 - secHdrSize)) / 256) ∧
    ((((header.lengthHigh.toUInt64 <<< 8) ||| header.lengthLow.toUInt64) -
      UInt64.ofNat secHdrSize) &&& 0xFF).toUInt8 =
        UInt8.ofNat (header.length + (65536 - secHdrSize)) := by
  have token := lengthToken_toNat header.lengthHigh header.lengthLow
  have bound := header.length_lt
  rw [show header.lengthHigh.toNat * 256 + header.lengthLow.toNat = header.length from rfl] at token
  generalize ((header.lengthHigh.toUInt64 <<< 8) ||| header.lengthLow.toUInt64) -
    UInt64.ofNat secHdrSize = value at token
  have mask (word : ℕ) : word &&& 255 = word % 256 := Nat.and_two_pow_sub_one_eq_mod word 8
  constructor
  · apply UInt8.toNat_inj.mp
    rw [UInt64.toNat_toUInt8, UInt64.toNat_and, UInt64.toNat_shiftRight, UInt8.toNat_ofNat', token]
    change ((_ >>> 8) &&& 255) % 256 = _
    rw [mask, Nat.shiftRight_eq_div_pow, secHdrSize]
    omega
  · apply UInt8.toNat_inj.mp
    rw [UInt64.toNat_toUInt8, UInt64.toNat_and, UInt8.toNat_ofNat', token]
    change (_ &&& 255) % 256 = _
    rw [mask, secHdrSize]
    omega

/-- The buffer `stripInPlace` leaves: past the removed header bytes and shorter by them. -/
def strippedBuffer (data : Buffer) : Buffer :=
  (data.setData (data.data + secHdrSize)).setSize (data.size - secHdrSize)

/-- The storage `stripInPlace` leaves. -/
def strippedStore (store : Store) (data : Buffer) : Store :=
  let moved := store.move (data.data + secHdrSize) data.data priHdrSize
  let length := (packetAt store data).header.length + (65536 - secHdrSize)
  ((moved.write (data.data + secHdrSize) (store data.data &&& ~~~secHdrFlag)).write
    (data.data + (secHdrSize + lengthOffset)) (UInt8.ofNat (length / 256))).write
      (data.data + (secHdrSize + (lengthOffset + 1))) (UInt8.ofNat length)

/-- Stripping stays inside the buffer, then goes on with the moved buffer and the cleared flag. -/
theorem stripInPlace_advance {data : Buffer} (room : priHdrSize + secHdrSize ≤ data.size)
    (context : FrameContext Rest) (rest : Buffer × FrameContext Rest → Code (Output Rest) Unit)
    (yields : Output Rest → Bool) (store : Store) :
    (stripInPlace data context >>= rest).advance yields store =
      (rest (strippedBuffer data, { context with hasSecHdr := false })).advance yields
        (strippedStore store data) := by
  have inside {offset : ℕ} (bound : offset < priHdrSize + secHdrSize) : offset < data.extent.size :=
    lt_of_lt_of_le bound room
  have bytes := lengthToken_bytes (packetAt store data).header
  have first : store.move (data.data + secHdrSize) data.data priHdrSize (data.data + secHdrSize) =
      store data.data := store.move_inside (by decide : 0 < priHdrSize)
  unfold stripInPlace strippedStore
  rw [Code.readAt_eq (inside (by decide)), Code.readAt_eq (inside (by decide)),
    Code.readAt_eq (inside (by decide)),
    Code.moveWithin_eq (by rw [Nat.add_comm]; exact room) (le_trans (by decide) room)]
  simp only [Code.writeAt_eq (inside (by decide : secHdrSize < _)),
    Code.writeAt_eq (inside (by decide : secHdrSize + lengthOffset < _)),
    Code.writeAt_eq (inside (by decide : secHdrSize + (lengthOffset + 1) < _)),
    Code.read_bind, Code.write_bind, Code.move_bind, Code.done_bind, Code.pure_def,
    Code.advance_read, Code.advance_write, Code.advance_move]
  rw [← bytes.1, ← bytes.2, ← first]
  rfl

/-- The bytes rewritten: the last six before the payload. -/
def rebuiltHeader (data : Buffer) : Extent := ⟨data.data + secHdrSize, priHdrSize⟩

theorem strippedStore_outside (store : Store) (data : Buffer) {address : ℕ}
    (outside : ¬ (rebuiltHeader data).Contains address) :
    strippedStore store data address = store address := by
  have apart : address < data.data + secHdrSize ∨ data.data + secHdrSize + priHdrSize ≤ address := by
    simp only [rebuiltHeader, Extent.Contains] at outside
    omega
  simp only [secHdrSize, priHdrSize] at apart
  unfold strippedStore
  rw [Store.write_of_ne, Store.write_of_ne, Store.write_of_ne, Store.move_outside]
  · simpa only [secHdrSize, priHdrSize] using apart
  all_goals simp only [secHdrSize, lengthOffset]; omega

private theorem strippedStore_header (store : Store) (data : Buffer) :
    (packetAt (strippedStore store data) (strippedBuffer data)).header =
      ((packetAt store data).removeSecHdr secHdrSize).header := by
  have moved (offset : ℕ) (bound : offset < priHdrSize) :
      store.move (data.data + 10) data.data priHdrSize (data.data + 10 + offset) =
        store (data.data + offset) := store.move_inside bound
  simp only [packetAt, strippedBuffer, strippedStore, SpacePacket.removeSecHdr,
    PrimaryHeader.setLength, PrimaryHeader.clearSecHdr, Buffer.setData, Buffer.setSize, secHdrSize,
    lengthOffset, Store.write_apply, PrimaryHeader.mk.injEq]
  refine ⟨?_, ?_, ?_, ?_, ?_, ?_⟩
  · rw [if_neg (by omega), if_neg (by omega), if_pos trivial]
    rfl
  · rw [if_neg (by omega), if_neg (by omega), if_neg (by omega), moved 1 (by decide)]
  · rw [if_neg (by omega), if_neg (by omega), if_neg (by omega), moved 2 (by decide)]
  · rw [if_neg (by omega), if_neg (by omega), if_neg (by omega), moved 3 (by decide)]
  · rw [if_neg (by omega), if_pos trivial]
  · rw [if_pos trivial]

/-- Stripping in place removes the secondary header of the packet the buffer holds. -/
theorem packetAt_strippedStore (store : Store) (data : Buffer) :
    packetAt (strippedStore store data) (strippedBuffer data) =
      (packetAt store data).removeSecHdr secHdrSize := by
  refine SpacePacket.ext (strippedStore_header store data) ?_
  change (strippedStore store data).bytes ((strippedBuffer data).extent.advance priHdrSize) =
    (store.bytes (data.extent.advance priHdrSize)).drop secHdrSize
  rw [← Store.bytes_advance]
  have sameExtent : (data.extent.advance priHdrSize).advance secHdrSize =
      (strippedBuffer data).extent.advance priHdrSize := by
    simp only [Extent.advance, Buffer.extent, strippedBuffer, Buffer.setData, Buffer.setSize,
      Extent.mk.injEq]
    omega
  rw [sameExtent, Store.bytes_eq_bytes_iff]
  intro address inside
  apply strippedStore_outside
  simp only [Extent.Contains, Extent.advance, Buffer.extent, strippedBuffer, Buffer.setData,
    Buffer.setSize, rebuiltHeader] at inside ⊢
  omega

section Outcomes

variable {data : Buffer} (context : FrameContext Rest) {yields : Output Rest → Bool} (store : Store)

/-- Too small for a primary header: one warning, and the buffer goes back as it came. -/
theorem dataIn_malformed (quiet : ∀ size, yields (.malformedPacket size) = false)
    (short : data.size < priHdrSize) :
    (dataInHandler data context).advance yields store =
      some (Progress.lastCall yields store [.malformedPacket (UInt32.ofNat data.size)]
        (.dataReturnOut data context)) := by
  rw [dataInHandler, if_pos short, Code.advance_call_bind yields store (quiet _), Code.advance_call]
  rfl

private theorem dataIn_of_room (room : priHdrSize ≤ data.size) :
    (dataInHandler data context).advance yields store =
      if strips (store data.data) data.size then
        some (Progress.lastCall yields (strippedStore store data) []
          (.dataOut (strippedBuffer data) { context with hasSecHdr := false }))
      else some (Progress.lastCall yields store [] (.dataOut data context)) := by
  have first : 0 < data.extent.size := lt_of_lt_of_le (by decide) room
  rw [dataInHandler, if_neg (not_lt.mpr room), Code.readAt_eq first, Code.read_bind,
    Code.advance_read, Code.done_bind]
  change (if strips (store data.data) data.size then _ else _ : Code (Output Rest) Unit).advance yields store = _
  split_ifs with strip
  · have large : priHdrSize + secHdrSize + 1 ≤ data.size := by
      simp only [strips, Bool.and_eq_true, decide_eq_true_eq] at strip
      exact strip.2
    rw [stripInPlace_advance (Nat.le_of_succ_le large), Code.advance_call]
  · rw [Code.advance_call]

/-- Telemetry with a secondary header and at least one payload byte is stripped. -/
theorem dataIn_stripped (strip : strips (store data.data) data.size = true) :
    (dataInHandler data context).advance yields store =
      some (Progress.lastCall yields (strippedStore store data) []
        (.dataOut (strippedBuffer data) { context with hasSecHdr := false })) := by
  have room : priHdrSize ≤ data.size := by
    simp only [strips, Bool.and_eq_true, decide_eq_true_eq] at strip
    exact le_trans (by decide) strip.2
  rw [dataIn_of_room context store room, if_pos strip]

/-- Every other buffer with room for a primary header is passed on as it came. -/
theorem dataIn_forwarded (room : priHdrSize ≤ data.size)
    (keep : strips (store data.data) data.size = false) :
    (dataInHandler data context).advance yields store =
      some (Progress.lastCall yields store [] (.dataOut data context)) := by
  rw [dataIn_of_room context store room, keep, if_neg Bool.false_ne_true]

end Outcomes

/-- The test the handler makes, read off the header of the packet in the buffer. -/
theorem strips_iff (store : Store) (data : Buffer) :
    strips (store data.data) data.size = true ↔
      (packetAt store data).header.isTelemetry = true ∧ (packetAt store data).header.hasSecHdr = true ∧
        priHdrSize + secHdrSize + 1 ≤ data.size := by
  simp only [strips, Bool.and_eq_true, decide_eq_true_eq, and_assoc]
  rfl

/-! ## All a handler call can do -/

/-- What one handler call does to the storage and the port calls it makes. -/
inductive Outcome (isConnected : ℕ → Bool) (store : Store) :
    Input Rest → Store → List (Output Rest) → Prop
  | forward {data out : Buffer} {context outContext : FrameContext Rest} {after : Store} :
      priHdrSize ≤ data.size → out.context = data.context →
      (∀ address, ¬ data.extent.Contains address → after address = store address) →
      Outcome isConnected store (.dataIn data context) after [.dataOut out outContext]
  | drop {data : Buffer} {context : FrameContext Rest} : data.size < priHdrSize →
      Outcome isConnected store (.dataIn data context) store
        [.malformedPacket (UInt32.ofNat data.size), .dataReturnOut data context]
  | giveBack {frameBuffer : Buffer} {context : FrameContext Rest} :
      Outcome isConnected store (.dataReturnIn frameBuffer context) store
        [.dataReturnOut frameBuffer context]
  | passStatus {portNum : ℕ} {condition : Success} : isConnected portNum = true →
      Outcome isConnected store (.comStatusIn portNum condition) store
        [.comStatusOut portNum condition]
  | ignoreStatus {portNum : ℕ} {condition : Success} : isConnected portNum = false →
      Outcome isConnected store (.comStatusIn portNum condition) store []

section Outcomes

variable (isConnected : ℕ → Bool) (store : Store)

private theorem contains_of_rebuiltHeader {data : Buffer} {address : ℕ}
    (large : priHdrSize + secHdrSize ≤ data.size) (inside : (rebuiltHeader data).Contains address) :
    data.extent.Contains address := by
  simp only [rebuiltHeader, Extent.Contains, Buffer.extent, priHdrSize, secHdrSize] at inside large ⊢
  omega

private theorem dataIn_outcome (data : Buffer) (context : FrameContext Rest) :
    ∃ after outs last, (dataInHandler data context).advance Output.yields store =
        some (Progress.lastCall Output.yields after outs last) ∧
      Outcome isConnected store (.dataIn data context) after (outs ++ [last]) := by
  by_cases short : data.size < priHdrSize
  · exact ⟨_, _, _, dataIn_malformed context store (fun _ => rfl) short, .drop short⟩
  have room : priHdrSize ≤ data.size := not_lt.mp short
  cases strip : strips (store data.data) data.size with
  | true =>
    have large := Nat.le_of_succ_le ((strips_iff store data).mp strip).2.2
    refine ⟨_, _, _, dataIn_stripped context store strip, .forward room rfl ?_⟩
    intro address outside
    exact strippedStore_outside store data fun inside =>
      outside (contains_of_rebuiltHeader large inside)
  | false =>
    exact ⟨_, _, _, dataIn_forwarded context store room strip, .forward room rfl fun _ _ => rfl⟩

/-- Every call of every handler proceeds, and pauses with nothing left to do. -/
theorem exists_outcome (input : Input Rest) :
    ∃ progress, (component isConnected).Runs store input progress ∧
      Outcome isConnected store input progress.store progress.outs ∧
        ∀ code ∈ progress.waiting, code = .done () := by
  cases input with
  | dataIn data context =>
    obtain ⟨after, outs, last, ran, outcome⟩ := dataIn_outcome isConnected store data context
    exact ⟨_, ran, outcome, fun _ => Progress.eq_done_of_lastCall⟩
  | dataReturnIn frameBuffer context =>
    exact ⟨_, Code.advance_call .., .giveBack, fun _ => Progress.eq_done_of_lastCall⟩
  | comStatusIn portNum condition =>
    cases connected : isConnected portNum with
    | true =>
      refine ⟨.lastCall Output.yields store [] (.comStatusOut portNum condition), ?_,
        .passStatus connected, fun _ => Progress.eq_done_of_lastCall⟩
      change (if _ then _ else _ : Code (Output Rest) Unit).advance _ store = _
      rw [if_pos connected]
      exact Code.advance_call ..
    | false =>
      refine ⟨⟨store, [], none⟩, ?_, .ignoreStatus connected, fun _ member => nomatch member⟩
      change (if _ then _ else _ : Code (Output Rest) Unit).advance _ store = _
      rw [if_neg (Bool.eq_false_iff.mp connected), Code.pure_def, Code.advance_done]

variable {isConnected store}

theorem outcome_of_runs {input : Input Rest} {progress : Progress (Output Rest)}
    (ran : (component isConnected).Runs store input progress) :
    Outcome isConnected store input progress.store progress.outs := by
  obtain ⟨only, same, outcome, _⟩ := exists_outcome isConnected store input
  rwa [Option.some.inj (ran.symm.trans same)]

theorem component_tailCalls : (component isConnected : Component (Input Rest) (Output Rest)).TailCalls := by
  intro store input progress ran
  obtain ⟨only, same, _, finished⟩ := exists_outcome isConnected store input
  rwa [Option.some.inj (ran.symm.trans same)]

end Outcomes

end FprimeGds.Proofs.CfsTlmStripper
