import Mathlib.Data.Nat.Bitwise

/-! # Setting and clearing bits of a byte

Clearing a mask forgets exactly the bits of the mask, so it undoes setting it on a byte that had none
of them, and setting undoes clearing on a byte that had all of them. A mask of one bit leaves nothing
in between. These facts are stated for core's `UInt8` and have no counterpart there yet.
-/

namespace UInt8

theorem or_and_not (byte mask : UInt8) : (byte ||| mask) &&& ~~~mask = byte &&& ~~~mask := by
  apply UInt8.toBitVec_inj.mp
  ext index bound
  simp only [UInt8.toBitVec_and, UInt8.toBitVec_or, UInt8.toBitVec_not, BitVec.getElem_and,
    BitVec.getElem_or, BitVec.getElem_not]
  cases byte.toBitVec[index] <;> cases mask.toBitVec[index] <;> rfl

theorem and_not_of_and_eq_zero {byte mask : UInt8} (clear : byte &&& mask = 0) :
    byte &&& ~~~mask = byte := by
  apply UInt8.toBitVec_inj.mp
  ext index bound
  have atIndex := congrArg (fun value : UInt8 => value.toBitVec[index]) clear
  simp only [UInt8.toBitVec_and, UInt8.toBitVec_not, BitVec.getElem_and, BitVec.getElem_not,
    UInt8.toBitVec_zero, BitVec.getElem_zero] at atIndex ⊢
  revert atIndex
  cases byte.toBitVec[index] <;> cases mask.toBitVec[index] <;> simp

theorem and_not_or_of_and_eq {byte mask : UInt8} (set : byte &&& mask = mask) :
    byte &&& ~~~mask ||| mask = byte := by
  apply UInt8.toBitVec_inj.mp
  ext index bound
  have atIndex := congrArg (fun value : UInt8 => value.toBitVec[index]) set
  simp only [UInt8.toBitVec_and, UInt8.toBitVec_or, UInt8.toBitVec_not, BitVec.getElem_and,
    BitVec.getElem_or, BitVec.getElem_not] at atIndex ⊢
  revert atIndex
  cases byte.toBitVec[index] <;> cases mask.toBitVec[index] <;> simp

theorem and_not_and_self (byte mask : UInt8) : byte &&& ~~~mask &&& mask = 0 := by
  rw [UInt8.and_assoc, UInt8.not_and_self, UInt8.and_zero]

theorem or_and_self (byte mask : UInt8) : (byte ||| mask) &&& mask = mask := by
  apply UInt8.toBitVec_inj.mp
  ext index bound
  simp only [UInt8.toBitVec_and, UInt8.toBitVec_or, BitVec.getElem_and, BitVec.getElem_or]
  cases byte.toBitVec[index] <;> cases mask.toBitVec[index] <;> rfl

/-- Bits outside the cleared mask are unchanged. -/
theorem and_not_and_of_disjoint (byte : UInt8) {mask other : UInt8} (disjoint : ~~~mask &&& other = other) :
    byte &&& ~~~mask &&& other = byte &&& other := by
  rw [UInt8.and_assoc, disjoint]

/-- Bits outside the set mask are unchanged. -/
theorem or_and_of_disjoint (byte : UInt8) {mask other : UInt8} (disjoint : mask &&& other = 0) :
    (byte ||| mask) &&& other = byte &&& other := by
  apply UInt8.toBitVec_inj.mp
  ext index bound
  have atIndex := congrArg (fun value : UInt8 => value.toBitVec[index]) disjoint
  simp only [UInt8.toBitVec_and, UInt8.toBitVec_or, BitVec.getElem_and, BitVec.getElem_or,
    UInt8.toBitVec_zero, BitVec.getElem_zero] at atIndex ⊢
  revert atIndex
  cases byte.toBitVec[index] <;> cases mask.toBitVec[index] <;> simp

/-- A single bit is either absent or all of its mask. -/
theorem and_bit (byte : UInt8) {mask : UInt8} {bit : ℕ} (single : mask.toNat = 2 ^ bit) :
    byte &&& mask = 0 ∨ byte &&& mask = mask := by
  have masked := Nat.and_two_pow byte.toNat bit
  rw [← single] at masked
  cases present : byte.toNat.testBit bit with
  | false =>
    left
    apply UInt8.toNat_inj.mp
    rw [UInt8.toNat_and, masked, present, Bool.toNat_false, Nat.zero_mul, UInt8.toNat_zero]
  | true =>
    right
    apply UInt8.toNat_inj.mp
    rw [UInt8.toNat_and, masked, present, Bool.toNat_true, Nat.one_mul]

end UInt8
