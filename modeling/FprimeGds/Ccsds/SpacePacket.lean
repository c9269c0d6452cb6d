import Mathlib.Data.List.Basic
import FprimeGds.ToMathlib.ByteMask

/-! # CCSDS space packets as byte strings

A space packet is a six-byte primary header followed by its data field. The header is kept as its six
bytes, so unused bits are preserved by every update and `SpacePacket.bytes` loses nothing. The packet
data length is a number in these statements: setting it reduces modulo the sixteen bits available,
and reading it back says exactly what was stored. Inserting a secondary header and removing one are
inverse to each other wherever that number does not wrap.
-/

namespace FprimeGds.Ccsds

/-- Number of bytes in the primary header. -/
def primaryHeaderSize : ℕ := 6

/-- Packet type bit in the first byte: clear for telemetry. -/
def typeBit : UInt8 := 0x10

/-- Secondary header flag in the first byte. -/
def secHdrBit : UInt8 := 0x08

/-- The application's bits of the first byte. -/
def apidBits : UInt8 := 0x07

/-- The six header bytes, in transmission order. -/
structure PrimaryHeader where
  streamIdHigh : UInt8
  streamIdLow : UInt8
  sequenceHigh : UInt8
  sequenceLow : UInt8
  lengthHigh : UInt8
  lengthLow : UInt8
deriving DecidableEq, Repr

namespace PrimaryHeader

def bytes (header : PrimaryHeader) : List UInt8 :=
  [header.streamIdHigh, header.streamIdLow, header.sequenceHigh, header.sequenceLow,
    header.lengthHigh, header.lengthLow]

/-- The packet is telemetry. -/
def isTelemetry (header : PrimaryHeader) : Bool := header.streamIdHigh &&& typeBit == 0

/-- The packet announces a secondary header. -/
def hasSecHdr (header : PrimaryHeader) : Bool := header.streamIdHigh &&& secHdrBit != 0

/-- The application process identifier. -/
def apid (header : PrimaryHeader) : ℕ :=
  (header.streamIdHigh &&& apidBits).toNat * 256 + header.streamIdLow.toNat

/-- The packet data length field, sent most significant byte first. -/
def length (header : PrimaryHeader) : ℕ := header.lengthHigh.toNat * 256 + header.lengthLow.toNat

def setLength (header : PrimaryHeader) (value : ℕ) : PrimaryHeader :=
  { header with lengthHigh := UInt8.ofNat (value / 256), lengthLow := UInt8.ofNat value }

def setSecHdr (header : PrimaryHeader) : PrimaryHeader :=
  { header with streamIdHigh := header.streamIdHigh ||| secHdrBit }

def clearSecHdr (header : PrimaryHeader) : PrimaryHeader :=
  { header with streamIdHigh := header.streamIdHigh &&& ~~~secHdrBit }

theorem length_lt (header : PrimaryHeader) : header.length < 65536 := by
  have high := header.lengthHigh.toNat_lt
  have low := header.lengthLow.toNat_lt
  unfold length
  omega

@[simp] theorem length_setLength (header : PrimaryHeader) (value : ℕ) :
    (header.setLength value).length = value % 65536 := by
  simp only [length, setLength, UInt8.toNat_ofNat']
  omega

/-- Only the residue of the stored number matters. -/
theorem setLength_congr (header : PrimaryHeader) {left right : ℕ} (same : left % 65536 = right % 65536) :
    header.setLength left = header.setLength right := by
  have high : UInt8.ofNat (left / 256) = UInt8.ofNat (right / 256) := by
    apply UInt8.toNat_inj.mp
    simp only [UInt8.toNat_ofNat']
    omega
  have low : UInt8.ofNat left = UInt8.ofNat right := by
    apply UInt8.toNat_inj.mp
    simp only [UInt8.toNat_ofNat']
    omega
  rw [setLength, setLength, high, low]

@[simp] theorem setLength_setLength (header : PrimaryHeader) (first second : ℕ) :
    (header.setLength first).setLength second = header.setLength second := rfl

@[simp] theorem setLength_length (header : PrimaryHeader) : header.setLength header.length = header := by
  have bound := header.lengthLow.toNat_lt
  have high : UInt8.ofNat (header.length / 256) = header.lengthHigh := by
    apply UInt8.toNat_inj.mp
    rw [UInt8.toNat_ofNat', length, Nat.mod_eq_of_lt (by have := header.lengthHigh.toNat_lt; omega)]
    omega
  have low : UInt8.ofNat header.length = header.lengthLow := by
    apply UInt8.toNat_inj.mp
    rw [UInt8.toNat_ofNat', length]
    omega
  rw [setLength, high, low]

@[simp] theorem length_setSecHdr (header : PrimaryHeader) : header.setSecHdr.length = header.length := rfl

@[simp] theorem length_clearSecHdr (header : PrimaryHeader) :
    header.clearSecHdr.length = header.length := rfl

theorem hasSecHdr_eq_false_iff (header : PrimaryHeader) :
    header.hasSecHdr = false ↔ header.streamIdHigh &&& secHdrBit = 0 := by
  simp only [hasSecHdr, bne_eq_false_iff_eq]

/-- One flag is one bit, so a flag that is set is the whole mask. -/
theorem hasSecHdr_iff (header : PrimaryHeader) :
    header.hasSecHdr = true ↔ header.streamIdHigh &&& secHdrBit = secHdrBit := by
  simp only [hasSecHdr, bne_iff_ne, ne_eq]
  constructor
  · intro present
    exact (header.streamIdHigh.and_bit (show secHdrBit.toNat = 2 ^ 3 from rfl)).resolve_left present
  · intro full absent
    exact absurd (full.symm.trans absent) (by decide)

@[simp] theorem hasSecHdr_clearSecHdr (header : PrimaryHeader) : header.clearSecHdr.hasSecHdr = false :=
  (hasSecHdr_eq_false_iff _).mpr (UInt8.and_not_and_self ..)

@[simp] theorem hasSecHdr_setSecHdr (header : PrimaryHeader) : header.setSecHdr.hasSecHdr = true :=
  (hasSecHdr_iff _).mpr (UInt8.or_and_self ..)

@[simp] theorem isTelemetry_setSecHdr (header : PrimaryHeader) :
    header.setSecHdr.isTelemetry = header.isTelemetry :=
  congrArg (· == 0) (header.streamIdHigh.or_and_of_disjoint (by decide))

@[simp] theorem isTelemetry_clearSecHdr (header : PrimaryHeader) :
    header.clearSecHdr.isTelemetry = header.isTelemetry :=
  congrArg (· == 0) (header.streamIdHigh.and_not_and_of_disjoint (by decide))

@[simp] theorem isTelemetry_setLength (header : PrimaryHeader) (value : ℕ) :
    (header.setLength value).isTelemetry = header.isTelemetry := by
  unfold isTelemetry setLength
  rfl

@[simp] theorem apid_setLength (header : PrimaryHeader) (value : ℕ) :
    (header.setLength value).apid = header.apid := by
  unfold apid setLength
  rfl

@[simp] theorem apid_clearSecHdr (header : PrimaryHeader) : header.clearSecHdr.apid = header.apid :=
  congrArg (fun bits : UInt8 => bits.toNat * 256 + header.streamIdLow.toNat)
    (header.streamIdHigh.and_not_and_of_disjoint (by decide))

theorem clearSecHdr_setSecHdr {header : PrimaryHeader} (absent : header.hasSecHdr = false) :
    header.setSecHdr.clearSecHdr = header := by
  have byte := (UInt8.or_and_not ..).trans
    (UInt8.and_not_of_and_eq_zero ((hasSecHdr_eq_false_iff header).mp absent))
  rw [setSecHdr, clearSecHdr, byte]

theorem setSecHdr_clearSecHdr {header : PrimaryHeader} (present : header.hasSecHdr = true) :
    header.clearSecHdr.setSecHdr = header := by
  rw [clearSecHdr, setSecHdr, UInt8.and_not_or_of_and_eq ((hasSecHdr_iff header).mp present)]

/-- A flag known to have been set is no information, so clearing it loses none. -/
theorem clearSecHdr_inj {left right : PrimaryHeader} (leftPresent : left.hasSecHdr = true)
    (rightPresent : right.hasSecHdr = true) (cleared : left.clearSecHdr = right.clearSecHdr) :
    left = right := by
  have announced := congrArg setSecHdr cleared
  rwa [setSecHdr_clearSecHdr leftPresent, setSecHdr_clearSecHdr rightPresent] at announced

/-- Moving the length by a fixed amount loses nothing, even where it wraps. -/
theorem setLength_add_inj {left right : PrimaryHeader} {shift : ℕ}
    (moved : left.setLength (left.length + shift) = right.setLength (right.length + shift)) :
    left = right := by
  have stored := congrArg length moved
  rw [length_setLength, length_setLength] at stored
  have leftBound := left.length_lt
  have rightBound := right.length_lt
  have lengths : left.length = right.length := by omega
  have restored := congrArg (setLength · left.length) moved
  simp only [setLength_setLength] at restored
  rwa [setLength_length, lengths, setLength_length] at restored

theorem setLength_setSecHdr (header : PrimaryHeader) (value : ℕ) :
    header.setSecHdr.setLength value = (header.setLength value).setSecHdr := rfl

theorem setLength_clearSecHdr (header : PrimaryHeader) (value : ℕ) :
    header.clearSecHdr.setLength value = (header.setLength value).clearSecHdr := rfl

@[simp] theorem bytes_length (header : PrimaryHeader) : header.bytes.length = primaryHeaderSize := rfl

theorem bytes_injective {left right : PrimaryHeader} (same : left.bytes = right.bytes) : left = right := by
  obtain ⟨_, _, _, _, _, _⟩ := left
  obtain ⟨_, _, _, _, _, _⟩ := right
  simpa only [bytes, List.cons.injEq, and_true, PrimaryHeader.mk.injEq] using same

end PrimaryHeader

/-- A primary header and the bytes that follow it. -/
@[ext] structure SpacePacket where
  header : PrimaryHeader
  dataField : List UInt8
deriving DecidableEq, Repr

namespace SpacePacket

def bytes (packet : SpacePacket) : List UInt8 := packet.header.bytes ++ packet.dataField

def size (packet : SpacePacket) : ℕ := primaryHeaderSize + packet.dataField.length

/-- The data field is as long as the header announces: one byte more than the length field says. -/
def Complete (packet : SpacePacket) : Prop := packet.dataField.length = packet.header.length + 1

instance (packet : SpacePacket) : Decidable packet.Complete := inferInstanceAs (Decidable (_ = _))

@[simp] theorem bytes_length (packet : SpacePacket) : packet.bytes.length = packet.size := by
  simp only [bytes, List.length_append, PrimaryHeader.bytes_length, size]

theorem bytes_injective {left right : SpacePacket} (same : left.bytes = right.bytes) : left = right := by
  obtain ⟨headers, dataFields⟩ := List.append_inj same rfl
  exact SpacePacket.ext (PrimaryHeader.bytes_injective headers) dataFields

/-- Put a secondary header in front of the data field and announce it. -/
def insertSecHdr (secHdr : List UInt8) (packet : SpacePacket) : SpacePacket where
  header := (packet.header.setLength (packet.header.length + secHdr.length)).setSecHdr
  dataField := secHdr ++ packet.dataField

/-- Drop a secondary header of `count` bytes and withdraw its announcement. The length goes down by
`count` modulo the sixteen bits of its field. -/
def removeSecHdr (count : ℕ) (packet : SpacePacket) : SpacePacket where
  header := (packet.header.setLength (packet.header.length + (65536 - count))).clearSecHdr
  dataField := packet.dataField.drop count

theorem removeSecHdr_insertSecHdr {packet : SpacePacket} (secHdr : List UInt8)
    (small : secHdr.length ≤ 65536) (absent : packet.header.hasSecHdr = false) :
    (packet.insertSecHdr secHdr).removeSecHdr secHdr.length = packet := by
  have wraps : ((packet.header.length + secHdr.length) % 65536 + (65536 - secHdr.length)) % 65536 =
      packet.header.length % 65536 := by omega
  have header : ((packet.insertSecHdr secHdr).removeSecHdr secHdr.length).header = packet.header := by
    simp only [insertSecHdr, removeSecHdr, PrimaryHeader.length_setSecHdr,
      PrimaryHeader.length_setLength, PrimaryHeader.setLength_setSecHdr,
      PrimaryHeader.setLength_setLength]
    rw [PrimaryHeader.setLength_congr _ wraps, PrimaryHeader.setLength_length,
      PrimaryHeader.clearSecHdr_setSecHdr absent]
  exact SpacePacket.ext header (List.drop_left ..)

theorem insertSecHdr_removeSecHdr {packet : SpacePacket} {count : ℕ} (small : count ≤ 65536)
    (room : count ≤ packet.dataField.length) (present : packet.header.hasSecHdr = true) :
    (packet.removeSecHdr count).insertSecHdr (packet.dataField.take count) = packet := by
  have taken : (packet.dataField.take count).length = count := List.length_take_of_le room
  have wraps : ((packet.header.length + (65536 - count)) % 65536 + count) % 65536 =
      packet.header.length % 65536 := by omega
  have header : ((packet.removeSecHdr count).insertSecHdr (packet.dataField.take count)).header =
      packet.header := by
    simp only [insertSecHdr, removeSecHdr, taken, PrimaryHeader.length_clearSecHdr,
      PrimaryHeader.length_setLength, PrimaryHeader.setLength_clearSecHdr,
      PrimaryHeader.setLength_setLength]
    rw [PrimaryHeader.setLength_congr _ wraps, PrimaryHeader.setLength_length,
      PrimaryHeader.setSecHdr_clearSecHdr present]
  exact SpacePacket.ext header (List.take_append_drop ..)

/-- Where a secondary header was announced, removing it forgets its bytes and nothing else. -/
theorem removeSecHdr_inj {left right : SpacePacket} {count : ℕ}
    (leftPresent : left.header.hasSecHdr = true) (rightPresent : right.header.hasSecHdr = true) :
    left.removeSecHdr count = right.removeSecHdr count ↔
      left.header = right.header ∧ left.dataField.drop count = right.dataField.drop count := by
  constructor
  · intro same
    have cleared := congrArg SpacePacket.header same
    have shortened : left.header.setLength (left.header.length + (65536 - count)) =
        right.header.setLength (right.header.length + (65536 - count)) :=
      PrimaryHeader.clearSecHdr_inj leftPresent rightPresent cleared
    exact ⟨PrimaryHeader.setLength_add_inj shortened, congrArg SpacePacket.dataField same⟩
  · rintro ⟨headers, dataFields⟩
    rw [removeSecHdr, removeSecHdr, headers, dataFields]

end SpacePacket

end FprimeGds.Ccsds
