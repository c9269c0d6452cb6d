import FprimeGds.Ccsds.SpacePacket
import FprimeGds.Machine.SelfDelimiting

/-! # Streams of space packets

The length field of a complete packet says where the packet ends, so complete packets can follow each
other directly. A packet whose length field is wrong is lost with everything after it.
-/

namespace FprimeGds.Ccsds

open Machine

namespace SpacePacket

/-- Read one packet, as long as its header announces. -/
def read : List UInt8 → Option (SpacePacket × List UInt8)
  | streamIdHigh :: streamIdLow :: sequenceHigh :: sequenceLow :: lengthHigh :: lengthLow :: rest =>
    let header : PrimaryHeader :=
      ⟨streamIdHigh, streamIdLow, sequenceHigh, sequenceLow, lengthHigh, lengthLow⟩
    if header.length + 1 ≤ rest.length then
      some (⟨header, rest.take (header.length + 1)⟩, rest.drop (header.length + 1))
    else none
  | _ => none

theorem read_header_append (header : PrimaryHeader) (rest : List UInt8) : read (header.bytes ++ rest) =
    if header.length + 1 ≤ rest.length then
      some (⟨header, rest.take (header.length + 1)⟩, rest.drop (header.length + 1))
    else none := rfl

theorem read_bytes_append {packet : SpacePacket} (complete : packet.Complete) (rest : List UInt8) :
    read (packet.bytes ++ rest) = some (packet, rest) := by
  obtain ⟨header, dataField⟩ := packet
  unfold Complete at complete
  have room : header.length + 1 ≤ (dataField ++ rest).length := by
    rw [List.length_append, complete]
    exact Nat.le_add_right ..
  have front : (dataField ++ rest).take (header.length + 1) = dataField := by
    rw [← complete]
    exact List.take_left
  have back : (dataField ++ rest).drop (header.length + 1) = rest := by
    rw [← complete]
    exact List.drop_left
  rw [bytes, List.append_assoc, read_header_append, if_pos room, front, back]

theorem complete_of_read {stream rest : List UInt8} {packet : SpacePacket}
    (found : read stream = some (packet, rest)) : packet.Complete ∧ packet.bytes ++ rest = stream := by
  unfold read at found
  split at found
  · dsimp only at found
    split_ifs at found with room
    obtain ⟨rfl, rfl⟩ := Prod.mk.inj (Option.some.inj found)
    refine ⟨List.length_take_of_le room, ?_⟩
    rw [bytes, List.append_assoc, List.take_append_drop]
    rfl
  · exact absurd found (Option.some_ne_none _).symm

/-- Complete packets, one after another. -/
def stream : SelfDelimiting SpacePacket UInt8 where
  encode := bytes
  Valid := Complete
  read := read
  read_iff bytes packet rest := by
    refine ⟨complete_of_read, ?_⟩
    rintro ⟨complete, rfl⟩
    exact read_bytes_append complete rest
  encode_ne_nil packet := List.cons_ne_nil packet.header.streamIdHigh _

end SpacePacket

end FprimeGds.Ccsds
