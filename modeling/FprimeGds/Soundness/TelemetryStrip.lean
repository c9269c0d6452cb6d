import FprimeGds.Proofs.CfsTlmStripper

/-! # What CfsTlmStripper makes of one packet

The results here are about one call of `dataIn_handler` on a buffer placed anywhere in any storage.
Stripping undoes telemetry framing in both directions. Outside the packets framing produces two
bounds decide what leaves on `dataOut`: telemetry of six to sixteen bytes keeps its secondary header
flag, and a length field below ten comes out wrapped.
-/

namespace FprimeGds.Soundness.TelemetryStrip

open Machine Ccsds Model Model.CfsTlmStripper Proofs.CfsTlmStripper

variable {Rest : Type}

/-- While handling `data` the component calls `dataOut` with `out` and `outContext`; `view` is the
storage the receiver finds. -/
def Emits (store : Store) (data : Buffer) (context : FrameContext Rest) (view : Store) (out : Buffer)
    (outContext : FrameContext Rest) : Prop :=
  ∃ progress, (dataInHandler data context).advance Output.yields store = some progress ∧
    progress.store = view ∧ .dataOut out outContext ∈ progress.outs

/-- The component reports `data` as malformed and hands it back as it came. -/
def Drops (store : Store) (data : Buffer) (context : FrameContext Rest) : Prop :=
  ∃ progress, (dataInHandler data context).advance Output.yields store = some progress ∧
    progress.store = store ∧
      progress.outs = [.malformedPacket (UInt32.ofNat data.size), .dataReturnOut data context]

section Outcomes

variable {store view : Store} {data out : Buffer} {context outContext : FrameContext Rest}

theorem emits_stripped (strip : strips (store data.data) data.size = true) :
    Emits store data context view out outContext ↔
      view = strippedStore store data ∧ out = strippedBuffer data ∧
        outContext = { context with hasSecHdr := false } := by
  constructor
  · rintro ⟨progress, ran, rfl, member⟩
    rw [dataIn_stripped context store strip] at ran
    cases ran
    exact ⟨rfl, Output.dataOut.inj (List.mem_singleton.mp member)⟩
  · rintro ⟨rfl, rfl, rfl⟩
    exact ⟨_, dataIn_stripped context store strip, rfl, List.mem_singleton_self _⟩

theorem emits_forwarded (room : priHdrSize ≤ data.size)
    (keep : strips (store data.data) data.size = false) :
    Emits store data context view out outContext ↔
      view = store ∧ out = data ∧ outContext = context := by
  constructor
  · rintro ⟨progress, ran, rfl, member⟩
    rw [dataIn_forwarded context store room keep] at ran
    cases ran
    exact ⟨rfl, Output.dataOut.inj (List.mem_singleton.mp member)⟩
  · rintro ⟨rfl, rfl, rfl⟩
    exact ⟨_, dataIn_forwarded outContext view room keep, rfl, List.mem_singleton_self _⟩

theorem not_emits_malformed (short : data.size < priHdrSize) :
    ¬ Emits store data context view out outContext := by
  rintro ⟨progress, ran, _, member⟩
  rw [dataIn_malformed context store (fun _ => rfl) short] at ran
  cases ran
  simp [Progress.lastCall] at member

theorem drops_malformed (short : data.size < priHdrSize) : Drops store data context :=
  ⟨_, dataIn_malformed context store (fun _ => rfl) short, rfl, rfl⟩

end Outcomes

/-! ## Stripping and framing are inverse -/

/-- The framing that stripping undoes: the ten header bytes go after the primary header, the flag is
set and the length field grows by ten. -/
def frame (secHdr : Vector UInt8 secHdrSize) (packet : SpacePacket) : SpacePacket :=
  packet.insertSecHdr secHdr.toList

/-- A complete telemetry packet without a secondary header, short enough to be given one. -/
structure BarePacket extends SpacePacket where
  telemetry : header.isTelemetry = true
  bare : header.hasSecHdr = false
  complete : toSpacePacket.Complete
  short : header.length ≤ 65525

/-- A complete telemetry packet with its secondary header and at least one byte after it. -/
structure FramedPacket extends SpacePacket where
  telemetry : header.isTelemetry = true
  flagged : header.hasSecHdr = true
  complete : toSpacePacket.Complete
  large : priHdrSize + secHdrSize + 1 ≤ toSpacePacket.size

/-- The ten bytes after the primary header. -/
def secHdrBytes (packet : SpacePacket) : Vector UInt8 secHdrSize :=
  Vector.ofFn fun index => packet.bytes.getD (priHdrSize + index) 0

theorem secHdrBytes_toList {packet : SpacePacket} (room : secHdrSize ≤ packet.dataField.length) :
    (secHdrBytes packet).toList = packet.dataField.take secHdrSize := by
  apply List.ext_getElem
  · rw [Vector.length_toList, List.length_take_of_le room]
  · intro index bound _
    rw [Vector.length_toList] at bound
    have inside : priHdrSize + index < packet.bytes.length := by
      rw [SpacePacket.bytes_length, SpacePacket.size]
      exact Nat.add_lt_add_left (lt_of_lt_of_le bound room) _
    have later : packet.header.bytes.length ≤ priHdrSize + index := Nat.le_add_right ..
    have place : priHdrSize + index - packet.header.bytes.length = index := Nat.add_sub_cancel_left ..
    simp only [Vector.getElem_toList, secHdrBytes, Vector.getElem_ofFn, List.getElem_take]
    rw [List.getD_eq_getElem _ _ inside]
    simp only [SpacePacket.bytes, List.getElem_append_right later, place]

section Framing

variable (packet : BarePacket) (secHdr : Vector UInt8 secHdrSize)

theorem frame_complete : (frame secHdr packet.toSpacePacket).Complete := by
  have complete := packet.complete
  have short := packet.short
  unfold SpacePacket.Complete at complete ⊢
  rw [frame, SpacePacket.insertSecHdr, List.length_append, Vector.length_toList, complete,
    PrimaryHeader.length_setSecHdr, PrimaryHeader.length_setLength, secHdrSize]
  omega

theorem frame_large :
    priHdrSize + secHdrSize + 1 ≤ (frame secHdr packet.toSpacePacket).size := by
  have complete := packet.complete
  unfold SpacePacket.Complete at complete
  rw [frame, SpacePacket.size, SpacePacket.insertSecHdr, List.length_append, Vector.length_toList,
    complete, priHdrSize, primaryHeaderSize]
  omega

/-- Framing a bare packet gives a framed one. -/
def BarePacket.framed : FramedPacket where
  toSpacePacket := frame secHdr packet.toSpacePacket
  telemetry := (PrimaryHeader.isTelemetry_setSecHdr _).trans packet.telemetry
  flagged := PrimaryHeader.hasSecHdr_setSecHdr _
  complete := frame_complete packet secHdr
  large := frame_large packet secHdr

end Framing

theorem FramedPacket.size_le (packet : FramedPacket) {store : Store} {data : Buffer}
    (held : store.bytes data.extent = packet.bytes) : priHdrSize + secHdrSize + 1 ≤ data.size := by
  have size := congrArg List.length held
  rw [Store.bytes_length, SpacePacket.bytes_length] at size
  exact le_of_le_of_eq packet.large size.symm

/-- Framed packets are what the handler strips. -/
theorem FramedPacket.strips (packet : FramedPacket) {store : Store} {data : Buffer}
    (held : store.bytes data.extent = packet.bytes) : strips (store data.data) data.size = true := by
  rw [strips_iff, packetAt_eq held]
  exact ⟨packet.telemetry, packet.flagged, packet.size_le held⟩

/-- Removing the header bytes of a framed packet undoes framing it. -/
theorem removeSecHdr_frame (packet : BarePacket) (secHdr : Vector UInt8 secHdrSize) :
    (frame secHdr packet.toSpacePacket).removeSecHdr secHdrSize = packet.toSpacePacket := by
  have undone := SpacePacket.removeSecHdr_insertSecHdr secHdr.toList
    (by rw [Vector.length_toList]; decide) packet.bare
  rwa [Vector.length_toList] at undone

theorem frame_removeSecHdr (packet : FramedPacket) :
    frame (secHdrBytes packet.toSpacePacket) (packet.removeSecHdr secHdrSize) =
      packet.toSpacePacket := by
  have room : secHdrSize ≤ packet.dataField.length := by
    have large := packet.large
    simp only [SpacePacket.size, priHdrSize, primaryHeaderSize] at large
    omega
  rw [frame, secHdrBytes_toList room]
  exact SpacePacket.insertSecHdr_removeSecHdr (by decide) room packet.flagged

/-- The bytes of a stripped buffer, in terms of the packet that came in. -/
theorem strippedStore_bytes {store : Store} {data : Buffer} {packet : SpacePacket}
    (held : store.bytes data.extent = packet.bytes)
    (large : priHdrSize + secHdrSize ≤ data.size) :
    (strippedStore store data).bytes (strippedBuffer data).extent =
      (packet.removeSecHdr secHdrSize).bytes := by
  have room : priHdrSize ≤ (strippedBuffer data).size := Nat.le_sub_of_add_le large
  rw [← packetAt_bytes _ room, packetAt_strippedStore, packetAt_eq held]

theorem large_of_strips {store : Store} {data : Buffer}
    (strip : strips (store data.data) data.size = true) :
    priHdrSize + secHdrSize + 1 ≤ data.size :=
  ((strips_iff store data).mp strip).2.2

/-- CfsTlmStripper and telemetry framing are inverse to each other on the bytes in storage. -/
theorem strip_inverts_framing :
    (∀ (packet : BarePacket) (secHdr : Vector UInt8 secHdrSize) (store : Store) (data : Buffer)
        (context : FrameContext Rest),
      store.bytes data.extent = (frame secHdr packet.toSpacePacket).bytes →
      (∃ view out outContext, Emits store data context view out outContext) ∧
      ∀ view out outContext, Emits store data context view out outContext →
        view.bytes out.extent = packet.bytes ∧ outContext.hasSecHdr = false) ∧
    (∀ (packet : FramedPacket) (store : Store) (data : Buffer) (context : FrameContext Rest)
        (view : Store) (out : Buffer) (outContext : FrameContext Rest),
      store.bytes data.extent = packet.bytes →
      Emits store data context view out outContext →
      ∃ emitted : SpacePacket, view.bytes out.extent = emitted.bytes ∧
        frame (secHdrBytes packet.toSpacePacket) emitted = packet.toSpacePacket) := by
  constructor
  · intro packet secHdr store data context held
    have strip := (packet.framed secHdr).strips held
    refine ⟨⟨_, _, _, (emits_stripped strip).mpr ⟨rfl, rfl, rfl⟩⟩, ?_⟩
    intro view out outContext emits
    obtain ⟨rfl, rfl, rfl⟩ := (emits_stripped strip).mp emits
    refine ⟨?_, rfl⟩
    rw [strippedStore_bytes held (Nat.le_of_succ_le (large_of_strips strip)),
      removeSecHdr_frame packet secHdr]
  · intro packet store data context view out outContext held emits
    obtain ⟨rfl, rfl, rfl⟩ := (emits_stripped (packet.strips held)).mp emits
    exact ⟨_, strippedStore_bytes held (Nat.le_of_succ_le (packet.size_le held)),
      frame_removeSecHdr packet⟩

/-- One payload byte is enough on both sides. -/
theorem strip_inverts_framing_one_byte :
    let packet : BarePacket := ⟨⟨⟨0x00, 0x2A, 0xC0, 0x09, 0x00, 0x00⟩, [0x5A]⟩, rfl, rfl, rfl, by decide⟩
    let secHdr : Vector UInt8 secHdrSize := ⟨#[1, 2, 3, 4, 5, 6, 0, 0, 0, 0], rfl⟩
    let framed := packet.framed secHdr
    let store := Store.ofBytes 3 (frame secHdr packet.toSpacePacket).bytes
    let context : FrameContext Unit := ⟨true, ()⟩
    (∃ view out outContext, Emits store ⟨7, 3, 17⟩ context view out outContext ∧
      view.bytes out.extent = packet.bytes ∧ outContext.hasSecHdr = false ∧
      ∃ emitted : SpacePacket, view.bytes out.extent = emitted.bytes ∧
        frame (secHdrBytes framed.toSpacePacket) emitted = framed.toSpacePacket) := by
  intro packet secHdr framed store context
  have held : store.bytes (Buffer.extent ⟨7, 3, 17⟩) = (frame secHdr packet.toSpacePacket).bytes :=
    Store.bytes_ofBytes 3 (frame secHdr packet.toSpacePacket).bytes
  obtain ⟨⟨view, out, outContext, emits⟩, bare⟩ :=
    strip_inverts_framing.1 packet secHdr store ⟨7, 3, 17⟩ context held
  exact ⟨view, out, outContext, emits, (bare _ _ _ emits).1, (bare _ _ _ emits).2,
    strip_inverts_framing.2 framed store ⟨7, 3, 17⟩ context view out outContext held emits⟩

/-! ## Secondary headers that get past -/

/-- The buffer holds the start of a telemetry packet with its secondary header flag set. -/
def HasTelemetrySecHdr (store : Store) (buffer : Buffer) : Prop :=
  0 < buffer.size ∧ (packetAt store buffer).header.isTelemetry = true ∧
    (packetAt store buffer).header.hasSecHdr = true

/-- No telemetry secondary header leaves on `dataOut`: what comes in with one is stripped or
dropped. -/
def NoSecHdrPasses (store : Store) (data : Buffer) (context : FrameContext Rest) : Prop :=
  (∀ view out outContext, Emits store data context view out outContext →
    ¬ HasTelemetrySecHdr view out) ∧
  (HasTelemetrySecHdr store data →
    (∃ view out outContext, Emits store data context view out outContext ∧
      out.size + secHdrSize = data.size ∧ (packetAt view out).header.hasSecHdr = false ∧
        outContext.hasSecHdr = false) ∨
    Drops store data context)

/-- Flagged telemetry with room for a primary header, but for no payload byte after both headers. -/
def HeadersOnly (store : Store) (data : Buffer) : Prop :=
  priHdrSize ≤ data.size ∧ data.size ≤ priHdrSize + secHdrSize ∧ HasTelemetrySecHdr store data

section Passing

variable {store : Store} {data : Buffer} (context : FrameContext Rest)

theorem keeps_of_small (small : data.size ≤ priHdrSize + secHdrSize) :
    strips (store data.data) data.size = false := by
  rw [← Bool.not_eq_true, strips_iff]
  rintro ⟨_, _, large⟩
  omega

/-- Such a packet is forwarded as it is. -/
theorem not_noSecHdrPasses_of_headersOnly (headers : HeadersOnly store data) :
    ¬ NoSecHdrPasses store data context := by
  obtain ⟨room, small, flagged⟩ := headers
  rintro ⟨clean, _⟩
  have emits : Emits store data context store data context :=
    (emits_forwarded room (keeps_of_small small)).mpr ⟨rfl, rfl, rfl⟩
  exact clean _ _ _ emits flagged

theorem noSecHdrPasses_of_short (short : data.size < priHdrSize) :
    NoSecHdrPasses store data context :=
  ⟨fun _ _ _ emits => absurd emits (not_emits_malformed short), fun _ => .inr (drops_malformed short)⟩

theorem noSecHdrPasses_of_strips (strip : strips (store data.data) data.size = true) :
    NoSecHdrPasses store data context := by
  have clear : (packetAt (strippedStore store data) (strippedBuffer data)).header.hasSecHdr = false := by
    rw [packetAt_strippedStore]
    exact PrimaryHeader.hasSecHdr_clearSecHdr _
  have shrinks : (strippedBuffer data).size + secHdrSize = data.size :=
    Nat.sub_add_cancel (le_trans (by decide) (large_of_strips strip))
  constructor
  · rintro view out outContext emits ⟨_, _, flagged⟩
    obtain ⟨rfl, rfl, _⟩ := (emits_stripped strip).mp emits
    exact Bool.false_ne_true (clear.symm.trans flagged)
  · intro _
    exact .inl ⟨_, _, _, (emits_stripped strip).mpr ⟨rfl, rfl, rfl⟩, shrinks, clear, rfl⟩

theorem noSecHdrPasses_of_unflagged (unflagged : ¬ HasTelemetrySecHdr store data)
    (room : priHdrSize ≤ data.size) (keep : strips (store data.data) data.size = false) :
    NoSecHdrPasses store data context := by
  refine ⟨?_, fun flagged => absurd flagged unflagged⟩
  intro view out outContext emits
  obtain ⟨rfl, rfl, _⟩ := (emits_forwarded room keep).mp emits
  exact unflagged

end Passing

/-- Headers without payload are the only flagged telemetry that gets past the component. -/
theorem noSecHdrPasses_iff (store : Store) (data : Buffer) (context : FrameContext Rest) :
    NoSecHdrPasses store data context ↔ ¬ HeadersOnly store data := by
  constructor
  · intro clean headers
    exact not_noSecHdrPasses_of_headersOnly context headers clean
  · intro payload
    by_cases short : data.size < priHdrSize
    · exact noSecHdrPasses_of_short context short
    have room : priHdrSize ≤ data.size := not_lt.mp short
    cases strip : strips (store data.data) data.size with
    | true => exact noSecHdrPasses_of_strips context strip
    | false =>
      refine noSecHdrPasses_of_unflagged context ?_ room strip
      intro flagged
      have large : priHdrSize + secHdrSize + 1 ≤ data.size := by
        by_contra small
        exact payload ⟨room, Nat.lt_succ_iff.mp (not_le.mp small), flagged⟩
      have yes := (strips_iff store data).mpr ⟨flagged.2.1, flagged.2.2, large⟩
      exact Bool.false_ne_true (strip.symm.trans yes)

/-- A cFE telemetry message without payload, sixteen bytes long, keeps its secondary header. -/
theorem empty_telemetry_passes :
    ¬ NoSecHdrPasses
      (Store.ofBytes 0 [0x08, 0x23, 0xC0, 0x2A, 0x00, 0x09, 0, 0, 0x10, 0, 0x80, 0, 0, 0, 0, 0])
      ⟨1, 0, 16⟩ (⟨true, ()⟩ : FrameContext Unit) :=
  not_noSecHdrPasses_of_headersOnly _ ⟨by decide, by decide, by decide, rfl, rfl⟩

/-! ## The length field -/

/-- The emitted packet announces ten bytes less than the incoming one, so the announced size is as
far from the real one as before. -/
def LengthKept (store : Store) (data : Buffer) (context : FrameContext Rest) : Prop :=
  ∃ view out outContext, Emits store data context view out outContext ∧
    ((packetAt view out).header.length : ℤ) = (packetAt store data).header.length - secHdrSize ∧
    (out.size : ℤ) - ((packetAt view out).header.length + 7) =
      data.size - ((packetAt store data).header.length + 7)

theorem strippedStore_length (store : Store) (data : Buffer) :
    (packetAt (strippedStore store data) (strippedBuffer data)).header.length =
      ((packetAt store data).header.length + (65536 - secHdrSize)) % 65536 := by
  rw [packetAt_strippedStore, SpacePacket.removeSecHdr, PrimaryHeader.length_clearSecHdr,
    PrimaryHeader.length_setLength]

section Length

variable {store : Store} {data : Buffer} (context : FrameContext Rest)

theorem lengthKept_of_le (strip : strips (store data.data) data.size = true)
    (enough : secHdrSize ≤ (packetAt store data).header.length) : LengthKept store data context := by
  have bound := (packetAt store data).header.length_lt
  have emitted := strippedStore_length store data
  have large := large_of_strips strip
  have size : (strippedBuffer data).size = data.size - secHdrSize := rfl
  refine ⟨_, _, _, (emits_stripped strip).mpr ⟨rfl, rfl, rfl⟩, ?_, ?_⟩
  · simp only [secHdrSize] at emitted enough ⊢
    omega
  · simp only [secHdrSize, priHdrSize] at emitted enough large size ⊢
    omega

/-- A length field below ten wraps. -/
theorem not_lengthKept_of_lt (strip : strips (store data.data) data.size = true)
    (short : (packetAt store data).header.length < secHdrSize) : ¬ LengthKept store data context := by
  rintro ⟨view, out, outContext, emits, length, _⟩
  obtain ⟨rfl, rfl, _⟩ := (emits_stripped strip).mp emits
  rw [strippedStore_length] at length
  simp only [secHdrSize] at length short
  omega

end Length

/-- For a buffer that is stripped the length field keeps its meaning exactly from ten upwards. -/
theorem lengthKept_iff (store : Store) (data : Buffer) (context : FrameContext Rest)
    (flagged : HasTelemetrySecHdr store data) (large : 17 ≤ data.size) :
    LengthKept store data context ↔ 10 ≤ (packetAt store data).header.length := by
  have strip := (strips_iff store data).mpr ⟨flagged.2.1, flagged.2.2, large⟩
  constructor
  · intro kept
    by_contra short
    exact not_lengthKept_of_lt context strip (not_le.mp short) kept
  · exact lengthKept_of_le context strip

/-- Seventeen bytes announced as such: the shortest packet that is stripped. -/
theorem lengthKept_seventeen :
    LengthKept
      (Store.ofBytes 0 [0x08, 0x23, 0xC0, 0x2A, 0, 10, 0, 0, 0x10, 0, 0x80, 0, 0, 0, 0, 0, 0x5A])
      ⟨1, 0, 17⟩ (⟨true, ()⟩ : FrameContext Unit) :=
  (lengthKept_iff _ _ _ ⟨by decide, by decide, by decide⟩ (by decide)).mpr (by decide)

/-- Seventeen bytes announced as sixteen leave announced as sixty-five thousand. -/
theorem short_length_wraps :
    ¬ LengthKept
      (Store.ofBytes 0 [0x08, 0x23, 0xC0, 0x2A, 0, 9, 0, 0, 0x10, 0, 0x80, 0, 0, 0, 0, 0, 0x5A])
      ⟨1, 0, 17⟩ (⟨true, ()⟩ : FrameContext Unit) :=
  not_lengthKept_of_lt _ (by decide) (by decide)

end FprimeGds.Soundness.TelemetryStrip
