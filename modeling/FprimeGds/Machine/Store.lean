import Mathlib.Data.List.Basic
import Mathlib.Data.List.GetD
import Mathlib.Logic.Function.Basic

/-! # Byte stores and the extents located in them

A store gives every natural address a byte, so interval arithmetic is never narrowed to a pointer
width. An extent is a half-open interval of addresses. Two extents are apart when no address lies in
both; writes inside one extent are then invisible in the other. `Store.move` has the meaning of a
copy through a temporary: its source is read completely before its target is written.
-/

namespace FprimeGds.Machine

/-- Every address holds a byte. -/
abbrev Store := ℕ → UInt8

/-- The addresses `start, …, start + size - 1`. -/
structure Extent where
  start : ℕ
  size : ℕ
deriving DecidableEq, Repr

namespace Extent

def Contains (extent : Extent) (address : ℕ) : Prop :=
  extent.start ≤ address ∧ address < extent.start + extent.size

instance (extent : Extent) (address : ℕ) : Decidable (extent.Contains address) :=
  inferInstanceAs (Decidable (_ ∧ _))

/-- No address belongs to both extents; an empty extent is apart from every other. -/
def Apart (left right : Extent) : Prop :=
  ∀ address, left.Contains address → ¬ right.Contains address

/-- The extent left after `count` bytes have been dropped from the front. -/
def advance (extent : Extent) (count : ℕ) : Extent :=
  ⟨extent.start + count, extent.size - count⟩

end Extent

namespace Store

/-- Update one byte. -/
def write (store : Store) (address : ℕ) (value : UInt8) : Store :=
  Function.update store address value

/-- Copy `count` bytes as if through a temporary, so the two intervals may overlap. -/
def move (store : Store) (target source count : ℕ) : Store := fun address =>
  if target ≤ address ∧ address < target + count then store (source + (address - target))
  else store address

/-- The byte string an extent denotes. -/
def bytes (store : Store) (extent : Extent) : List UInt8 :=
  (List.range extent.size).map fun offset => store (extent.start + offset)

/-- The store holding a byte string from some address on, and zeros elsewhere. -/
def ofBytes (start : ℕ) (string : List UInt8) : Store := fun address =>
  if start ≤ address then string.getD (address - start) 0 else 0

theorem write_of_ne (store : Store) {address query : ℕ} (value : UInt8) (different : query ≠ address) :
    store.write address value query = store query := Function.update_of_ne different ..

theorem write_apply (store : Store) (address query : ℕ) (value : UInt8) :
    store.write address value query = if query = address then value else store query :=
  Function.update_apply ..

/-- A copied byte is the one the source held before the move. -/
theorem move_inside (store : Store) {target source count offset : ℕ} (inside : offset < count) :
    store.move target source count (target + offset) = store (source + offset) := by
  rw [move, if_pos ⟨by omega, by omega⟩, Nat.add_sub_cancel_left]

theorem move_outside (store : Store) {target source count query : ℕ}
    (outside : query < target ∨ target + count ≤ query) :
    store.move target source count query = store query :=
  if_neg (by omega)

@[simp] theorem bytes_length (store : Store) (extent : Extent) :
    (store.bytes extent).length = extent.size := by
  simp only [bytes, List.length_map, List.length_range]

@[simp] theorem getElem_bytes (store : Store) (extent : Extent) (index : ℕ)
    (bound : index < (store.bytes extent).length) :
    (store.bytes extent)[index] = store (extent.start + index) := by
  simp only [bytes, List.getElem_map, List.getElem_range]

theorem bytes_ofBytes (start : ℕ) (string : List UInt8) :
    (ofBytes start string).bytes ⟨start, string.length⟩ = string := by
  apply List.ext_getElem (bytes_length ..)
  intro index _ bound
  rw [getElem_bytes, ofBytes, if_pos (Nat.le_add_right ..), Nat.add_sub_cancel_left,
    List.getD_eq_getElem _ _ bound]

/-- Two extents denote one byte string when they are of one size and agree byte by byte. -/
theorem bytes_eq_iff (left right : Store) (first second : Extent) :
    left.bytes first = right.bytes second ↔
      first.size = second.size ∧
        ∀ offset < first.size, left (first.start + offset) = right (second.start + offset) := by
  constructor
  · intro same
    have sizes := congrArg List.length same
    rw [bytes_length, bytes_length] at sizes
    refine ⟨sizes, ?_⟩
    intro offset bound
    have atOffset := List.getElem_of_eq same (by rwa [bytes_length])
    rwa [getElem_bytes, getElem_bytes] at atOffset
  · rintro ⟨sizes, same⟩
    apply List.ext_getElem
    · rw [bytes_length, bytes_length, sizes]
    · intro offset bound _
      rw [bytes_length] at bound
      rw [getElem_bytes, getElem_bytes]
      exact same offset bound

/-- Equal bytes at every address of an extent are equal byte strings, and conversely. -/
theorem bytes_eq_bytes_iff (left right : Store) (extent : Extent) :
    left.bytes extent = right.bytes extent ↔
      ∀ address, extent.Contains address → left address = right address := by
  rw [bytes_eq_iff]
  constructor
  · rintro ⟨_, same⟩ address ⟨lower, upper⟩
    have atOffset := same (address - extent.start) (by omega)
    rwa [Nat.add_sub_cancel' lower] at atOffset
  · intro same
    exact ⟨rfl, fun offset bound => same _ ⟨Nat.le_add_right .., by omega⟩⟩

theorem bytes_succ (store : Store) (start size : ℕ) :
    store.bytes ⟨start, size + 1⟩ = store start :: store.bytes ⟨start + 1, size⟩ := by
  simp only [bytes, List.range_succ_eq_map, List.map_cons, List.map_map, Nat.add_zero]
  congr 1
  apply List.map_congr_left
  intro offset _
  exact congrArg store (by simp only [Nat.succ_eq_add_one]; omega)

/-- Dropping bytes from the string is advancing the extent. -/
theorem bytes_advance (store : Store) (extent : Extent) (count : ℕ) :
    store.bytes (extent.advance count) = (store.bytes extent).drop count := by
  apply List.ext_getElem
  · simp only [bytes_length, List.length_drop, Extent.advance]
  · intro index _ _
    simp only [getElem_bytes, List.getElem_drop, Extent.advance, Nat.add_assoc]

end Store

end FprimeGds.Machine
