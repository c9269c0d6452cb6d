import FprimeGds.Soundness.TelemetryStrip

/-! # Stripping in place, against its specification on byte strings

The handler rewrites the bytes it reads from, so what a receiver finds is compared with a function of
the bytes that came in. The storage may change at six offsets of the buffer and nowhere else. On byte
strings the specification forgets offsets 6 to 15 and is injective in everything else, and that carries
over to what two stripped buffers show.
-/

namespace FprimeGds.Soundness.StripRefinement

open Machine Ccsds Model Model.CfsTlmStripper Proofs.CfsTlmStripper TelemetryStrip

variable {Rest : Type}

/-! ## The specification -/

/-- The secondary header flag of a packet given by its bytes. -/
def flagged (bytes : List UInt8) : Bool := bytes.getD 0 0 &&& 0x08 != 0

/-- Telemetry with its flag set and at least seventeen bytes. -/
def Strippable (bytes : List UInt8) : Prop :=
  bytes.getD 0 0 &&& 0x10 = 0 ∧ flagged bytes = true ∧ 17 ≤ bytes.length

instance (bytes : List UInt8) : Decidable (Strippable bytes) := inferInstanceAs (Decidable (_ ∧ _))

/-- Bytes 4 and 5, most significant first. -/
def lengthField (bytes : List UInt8) : ℕ := (bytes.getD 4 0).toNat * 256 + (bytes.getD 5 0).toNat

/-- Ten less, in the sixteen bits of the field. -/
def shortenedLength (bytes : List UInt8) : ℕ := (((lengthField bytes : ℤ) - 10) % 65536).toNat

/-- Byte 0 with the flag cleared, bytes 1 to 3, the new length, and the bytes from 16 on. -/
def strippedBytes (bytes : List UInt8) : List UInt8 :=
  [bytes.getD 0 0 &&& ~~~0x08, bytes.getD 1 0, bytes.getD 2 0, bytes.getD 3 0,
    UInt8.ofNat (shortenedLength bytes / 256), UInt8.ofNat (shortenedLength bytes % 256)] ++
      bytes.drop 16

/-- The specification is the removal of a secondary header of ten bytes. -/
theorem strippedBytes_bytes (packet : SpacePacket) :
    strippedBytes packet.bytes = (packet.removeSecHdr secHdrSize).bytes := by
  have bound := packet.header.length_lt
  have field : lengthField packet.bytes = packet.header.length := rfl
  have length : shortenedLength packet.bytes = (packet.header.length + (65536 - secHdrSize)) % 65536 := by
    rw [shortenedLength, field, secHdrSize]
    omega
  have header : (packet.header.setLength (shortenedLength packet.bytes)).clearSecHdr =
      (packet.removeSecHdr secHdrSize).header := by
    rw [SpacePacket.removeSecHdr, length]
    exact congrArg PrimaryHeader.clearSecHdr (PrimaryHeader.setLength_congr _ (Nat.mod_mod ..))
  have low : UInt8.ofNat (shortenedLength packet.bytes % 256) =
      UInt8.ofNat (shortenedLength packet.bytes) := by
    apply UInt8.toNat_inj.mp
    rw [UInt8.toNat_ofNat', UInt8.toNat_ofNat', Nat.mod_mod]
  change _ = (packet.removeSecHdr secHdrSize).header.bytes ++ packet.dataField.drop secHdrSize
  rw [← header, strippedBytes, low]
  rfl

theorem getD_bytes (store : Store) {extent : Extent} (present : 0 < extent.size) :
    (store.bytes extent).getD 0 0 = store extent.start := by
  rw [List.getD_eq_getElem _ _ (by rwa [Store.bytes_length]), Store.getElem_bytes, Nat.add_zero]

/-- The handler strips what the specification strips. -/
theorem strippable_iff (store : Store) (data : Buffer) :
    Strippable (store.bytes data.extent) ↔ strips (store data.data) data.size = true := by
  rw [Strippable, flagged, Store.bytes_length]
  constructor
  · rintro ⟨telemetry, present, large⟩
    rw [getD_bytes store (Nat.lt_of_lt_of_le (by decide) large)] at telemetry present
    exact (strips_iff store data).mpr ⟨beq_iff_eq.mpr telemetry, present, large⟩
  · intro strip
    obtain ⟨telemetry, present, large⟩ := (strips_iff store data).mp strip
    rw [getD_bytes store (Nat.lt_of_lt_of_le (by decide) large)]
    exact ⟨beq_iff_eq.mp telemetry, present, large⟩

/-! ## What the handler does -/

/-- One strip: the buffer that leaves, the bytes it shows and the storage around them. -/
structure Stripped (store : Store) (data : Buffer) (context : FrameContext Rest)
    (progress : Progress (Output Rest)) (out : Buffer) : Prop where
  emitted : progress.outs = [.dataOut out { context with hasSecHdr := false }]
  same : out.context = data.context
  later : out.data = data.data + 10
  shorter : out.size + 10 = data.size
  reads : progress.store.bytes out.extent = strippedBytes (store.bytes data.extent)
  frame : ∀ address, progress.store address ≠ store address →
    data.data + 10 ≤ address ∧ address ≤ data.data + 15

/-- Anything else leaves the storage alone: forwarded as it came, or reported and handed back. -/
def Kept (store : Store) (data : Buffer) (context : FrameContext Rest)
    (progress : Progress (Output Rest)) : Prop :=
  progress.store = store ∧
    if 6 ≤ data.size then progress.outs = [.dataOut data context]
    else ∃ size : UInt32, size.toNat = data.size ∧
      progress.outs = [.malformedPacket size, .dataReturnOut data context]

/-- The buffer and context leave on one of the two data ports. -/
def Leaves (progress : Progress (Output Rest)) (out : Buffer) (outContext : FrameContext Rest) : Prop :=
  .dataOut out outContext ∈ progress.outs ∨ .dataReturnOut out outContext ∈ progress.outs

/-- The context says of the packet what its own flag says. -/
def Agrees (store : Store) (buffer : Buffer) (context : FrameContext Rest) : Prop :=
  context.hasSecHdr = flagged (store.bytes buffer.extent)

section Refinement

variable {store : Store} {data : Buffer} (context : FrameContext Rest)

theorem stripped_of_strips (strip : strips (store data.data) data.size = true) :
    Stripped store data context
      (Progress.lastCall Output.yields (strippedStore store data) []
        (.dataOut (strippedBuffer data) { context with hasSecHdr := false })) (strippedBuffer data) := by
  have large := Nat.le_of_succ_le (large_of_strips strip)
  have room : priHdrSize ≤ data.size := le_trans (by decide) large
  refine ⟨rfl, rfl, rfl, Nat.sub_add_cancel (le_trans (by decide) large), ?_, ?_⟩
  · rw [← packetAt_bytes store room, strippedBytes_bytes]
    exact strippedStore_bytes (packetAt_bytes store room).symm large
  · intro address changed
    have inside : (rebuiltHeader data).Contains address := by
      by_contra outside
      exact changed (strippedStore_outside store data outside)
    obtain ⟨lower, upper⟩ := inside
    exact ⟨lower, Nat.lt_succ_iff.mp upper⟩

/-- What is not stripped keeps its storage, and leaves as it came. -/
theorem exists_kept (keep : strips (store data.data) data.size = false) :
    ∃ progress, (dataInHandler data context).advance Output.yields store = some progress ∧
      (∀ code ∈ progress.waiting, code = .done ()) ∧ Kept store data context progress := by
  by_cases room : 6 ≤ data.size
  · refine ⟨_, dataIn_forwarded context store room keep, fun _ => Progress.eq_done_of_lastCall, rfl, ?_⟩
    rw [if_pos room]
    rfl
  · have short : data.size < priHdrSize := not_le.mp room
    have size : (UInt32.ofNat data.size).toNat = data.size :=
      UInt32.toNat_ofNat_of_lt' (lt_trans short (by decide))
    refine ⟨_, dataIn_malformed context store (fun _ => rfl) short,
      fun _ => Progress.eq_done_of_lastCall, rfl, ?_⟩
    rw [if_neg room]
    exact ⟨_, size, rfl⟩

variable {context} {progress : Progress (Output Rest)} {out : Buffer} {outContext : FrameContext Rest}

theorem flagged_strippedBytes (bytes : List UInt8) : flagged (strippedBytes bytes) = false := by
  have cleared : (strippedBytes bytes).getD 0 0 = bytes.getD 0 0 &&& ~~~0x08 := rfl
  rw [flagged, cleared, bne_eq_false_iff_eq]
  exact UInt8.and_not_and_self ..

theorem Stripped.agrees {view : Buffer} (stripped : Stripped store data context progress view)
    (leaves : Leaves progress out outContext) : Agrees progress.store out outContext := by
  simp only [Leaves, stripped.emitted, List.mem_singleton, reduceCtorEq, or_false,
    Output.dataOut.injEq] at leaves
  obtain ⟨rfl, rfl⟩ := leaves
  rw [Agrees, stripped.reads, flagged_strippedBytes]

theorem Kept.agrees (kept : Kept store data context progress) (leaves : Leaves progress out outContext)
    (agrees : Agrees store data context) : Agrees progress.store out outContext := by
  obtain ⟨sameStore, outs⟩ := kept
  have unchanged : out = data ∧ outContext = context := by
    split_ifs at outs
    · simpa only [Leaves, outs, List.mem_singleton, reduceCtorEq, or_false,
        Output.dataOut.injEq] using leaves
    · obtain ⟨size, _, reported⟩ := outs
      simpa only [Leaves, reported, List.mem_cons, List.not_mem_nil, reduceCtorEq, or_false, false_or,
        Output.dataReturnOut.injEq] using leaves
  obtain ⟨rfl, rfl⟩ := unchanged
  rwa [sameStore]

end Refinement

/-- The handler never faults, and does to storage, view and context what the specification says. -/
theorem dataIn_refines (store : Store) (data : Buffer) (context : FrameContext Rest) :
    ∃ progress, (dataInHandler data context).advance Output.yields store = some progress ∧
      (∀ code ∈ progress.waiting, code = .done ()) ∧
      (if Strippable (store.bytes data.extent) then ∃ out, Stripped store data context progress out
        else Kept store data context progress) ∧
      (Agrees store data context → ∀ out outContext, Leaves progress out outContext →
        Agrees progress.store out outContext) := by
  cases strip : strips (store data.data) data.size with
  | true =>
    have stripped := stripped_of_strips context strip
    refine ⟨_, dataIn_stripped context store strip, fun _ => Progress.eq_done_of_lastCall, ?_, ?_⟩
    · rw [if_pos ((strippable_iff store data).mpr strip)]
      exact ⟨_, stripped⟩
    · exact fun _ _ _ leaves => stripped.agrees leaves
  | false =>
    obtain ⟨progress, ran, returned, kept⟩ := exists_kept context strip
    refine ⟨progress, ran, returned, ?_, ?_⟩
    · rwa [if_neg (mt (strippable_iff store data).mp (Bool.eq_false_iff.mp strip))]
    · exact fun agrees _ _ leaves => kept.agrees leaves agrees

/-! ## What stripping forgets -/

/-- Two buffers hold the same bytes, those of the secondary header apart. -/
def SameButSecHdr (left : Store) (leftData : Buffer) (right : Store) (rightData : Buffer) : Prop :=
  leftData.size = rightData.size ∧
    ∀ offset < leftData.size, offset < 6 ∨ 16 ≤ offset →
      left (leftData.data + offset) = right (rightData.data + offset)

section TwoRuns

variable {left right : Store} {leftData rightData : Buffer}

theorem header_eq_iff :
    (packetAt left leftData).header = (packetAt right rightData).header ↔
      ∀ offset < 6, left (leftData.data + offset) = right (rightData.data + offset) := by
  simp only [packetAt, PrimaryHeader.mk.injEq]
  constructor
  · rintro ⟨zero, one, two, three, four, five⟩ offset bound
    obtain rfl | rfl | rfl | rfl | rfl | rfl :
        offset = 0 ∨ offset = 1 ∨ offset = 2 ∨ offset = 3 ∨ offset = 4 ∨ offset = 5 := by omega
    all_goals assumption
  · intro same
    exact ⟨same 0 (by decide), same 1 (by decide), same 2 (by decide), same 3 (by decide),
      same 4 (by decide), same 5 (by decide)⟩

/-- The bytes after both headers. -/
theorem payload_eq_iff (leftLarge : 16 ≤ leftData.size) (rightLarge : 16 ≤ rightData.size) :
    (packetAt left leftData).dataField.drop secHdrSize =
        (packetAt right rightData).dataField.drop secHdrSize ↔
      leftData.size = rightData.size ∧ ∀ offset < leftData.size, 16 ≤ offset →
        left (leftData.data + offset) = right (rightData.data + offset) := by
  have place (store : Store) (data : Buffer) : (packetAt store data).dataField.drop secHdrSize =
      store.bytes ⟨data.data + 16, data.size - 16⟩ := by
    rw [packetAt, ← Store.bytes_advance]
    simp only [Extent.advance, Buffer.extent, priHdrSize, secHdrSize, Nat.add_assoc, Nat.sub_sub]
  rw [place, place, Store.bytes_eq_iff]
  dsimp only
  constructor
  · rintro ⟨sizes, same⟩
    refine ⟨by omega, ?_⟩
    intro offset bound later
    have atOffset := same (offset - 16) (by omega)
    rwa [Nat.add_assoc, Nat.add_assoc, Nat.add_sub_cancel' later] at atOffset
  · rintro ⟨sizes, same⟩
    refine ⟨by omega, ?_⟩
    intro offset bound
    have atOffset := same (16 + offset) (by omega) (Nat.le_add_right ..)
    rwa [← Nat.add_assoc, ← Nat.add_assoc] at atOffset

end TwoRuns

/-- Two strippable packets are both sent on, and the buffers sent on show the same bytes exactly when the
packets that came in differ in nothing but the bytes of their secondary headers. -/
theorem stripped_bytes_eq_iff (left right : Store) (leftData rightData : Buffer)
    (leftContext rightContext : FrameContext Rest)
    (leftStrips : Strippable (left.bytes leftData.extent))
    (rightStrips : Strippable (right.bytes rightData.extent)) :
    (∃ view out outContext, Emits left leftData leftContext view out outContext) ∧
      (∃ view out outContext, Emits right rightData rightContext view out outContext) ∧
      ∀ leftView leftOut leftOutContext rightView rightOut rightOutContext,
        Emits left leftData leftContext leftView leftOut leftOutContext →
        Emits right rightData rightContext rightView rightOut rightOutContext →
        (leftView.bytes leftOut.extent = rightView.bytes rightOut.extent ↔
          SameButSecHdr left leftData right rightData) := by
  have leftStrip := (strippable_iff left leftData).mp leftStrips
  have rightStrip := (strippable_iff right rightData).mp rightStrips
  have leftLarge := Nat.le_of_succ_le (large_of_strips leftStrip)
  have rightLarge := Nat.le_of_succ_le (large_of_strips rightStrip)
  have leftRoom : priHdrSize ≤ leftData.size := le_trans (by decide) leftLarge
  have rightRoom : priHdrSize ≤ rightData.size := le_trans (by decide) rightLarge
  refine ⟨⟨_, _, _, (emits_stripped leftStrip).mpr ⟨rfl, rfl, rfl⟩⟩,
    ⟨_, _, _, (emits_stripped rightStrip).mpr ⟨rfl, rfl, rfl⟩⟩, ?_⟩
  intro leftView leftOut leftOutContext rightView rightOut rightOutContext leftEmits rightEmits
  obtain ⟨rfl, rfl, rfl⟩ := (emits_stripped leftStrip).mp leftEmits
  obtain ⟨rfl, rfl, rfl⟩ := (emits_stripped rightStrip).mp rightEmits
  rw [strippedStore_bytes (packetAt_bytes left leftRoom).symm leftLarge,
    strippedStore_bytes (packetAt_bytes right rightRoom).symm rightLarge]
  have packets : ((packetAt left leftData).removeSecHdr secHdrSize).bytes =
        ((packetAt right rightData).removeSecHdr secHdrSize).bytes ↔
      (packetAt left leftData).removeSecHdr secHdrSize =
        (packetAt right rightData).removeSecHdr secHdrSize :=
    ⟨SpacePacket.bytes_injective, congrArg SpacePacket.bytes⟩
  rw [packets, SpacePacket.removeSecHdr_inj ((strips_iff left leftData).mp leftStrip).2.1
      ((strips_iff right rightData).mp rightStrip).2.1, header_eq_iff,
    payload_eq_iff leftLarge rightLarge]
  constructor
  · rintro ⟨header, sizes, payload⟩
    refine ⟨sizes, ?_⟩
    rintro offset bound (early | late)
    · exact header offset early
    · exact payload offset bound late
  · rintro ⟨sizes, same⟩
    refine ⟨?_, sizes, fun offset bound late => same offset bound (.inr late)⟩
    intro offset early
    exact same offset (lt_of_lt_of_le early leftRoom) (.inl early)

/-- Two packets with different time stamps, at different places and with a length field that wraps,
come out alike. -/
theorem stripped_bytes_eq_other_time :
    let left := Store.ofBytes 0 [0x08, 0x23, 0xC0, 0x2A, 0, 9, 0, 0, 0x10, 0, 0x80, 0, 0, 0, 0, 0, 0x5A]
    let right := Store.ofBytes 5 [0x08, 0x23, 0xC0, 0x2A, 0, 9, 1, 2, 3, 4, 5, 6, 7, 8, 9, 10, 0x5A]
    let context : FrameContext Unit := ⟨true, ()⟩
    ∃ leftView leftOut rightView rightOut, Emits left ⟨1, 0, 17⟩ context leftView leftOut ⟨false, ()⟩ ∧
      Emits right ⟨2, 5, 17⟩ context rightView rightOut ⟨false, ()⟩ ∧
        leftView.bytes leftOut.extent = rightView.bytes rightOut.extent := by
  intro left right context
  have leftStrips : Strippable (left.bytes (Buffer.extent ⟨1, 0, 17⟩)) := by decide
  have rightStrips : Strippable (right.bytes (Buffer.extent ⟨2, 5, 17⟩)) := by decide
  obtain ⟨⟨leftView, leftOut, leftOutContext, leftEmits⟩,
    ⟨rightView, rightOut, rightOutContext, rightEmits⟩, same⟩ :=
    stripped_bytes_eq_iff left right ⟨1, 0, 17⟩ ⟨2, 5, 17⟩ context context leftStrips rightStrips
  obtain ⟨-, -, rfl⟩ := (emits_stripped ((strippable_iff ..).mp leftStrips)).mp leftEmits
  obtain ⟨-, -, rfl⟩ := (emits_stripped ((strippable_iff ..).mp rightStrips)).mp rightEmits
  refine ⟨_, _, _, _, leftEmits, rightEmits, ?_⟩
  exact (same _ _ _ _ _ _ leftEmits rightEmits).mpr ⟨rfl, by decide⟩

end FprimeGds.Soundness.StripRefinement
