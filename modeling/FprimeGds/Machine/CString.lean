import FprimeGds.Machine.Store

/-! # Scanning for the end of a C string

A function that is handed a string by its address reads one byte after another until it has read a
zero. Nothing tells it how much room the string has, so the scan is defined on the whole store and may
have no end: its first steps are listed for every number of them.
-/

namespace FprimeGds.Machine.Store

/-- The addresses the first `count` steps of a scan read. -/
def stringReads (store : Store) : ℕ → ℕ → List ℕ
  | _, 0 => []
  | address, count + 1 =>
    address :: if store address = 0 then [] else stringReads store (address + 1) count

/-- However long it may take, a scan from the start of the extent reads nothing outside it. -/
def EndsInside (store : Store) (extent : Extent) : Prop :=
  ∀ count, ∀ address ∈ store.stringReads extent.start count, extent.Contains address

section Scan

variable {store : Store}

/-- No address behind a zero is read. -/
theorem bounds_of_mem_stringReads {start offset count address : ℕ} (zero : store (start + offset) = 0)
    (member : address ∈ store.stringReads start count) : start ≤ address ∧ address ≤ start + offset := by
  induction count generalizing start offset with
  | zero => exact absurd member List.not_mem_nil
  | succ count ih =>
    rw [stringReads] at member
    rcases List.mem_cons.mp member with rfl | later
    · exact ⟨Nat.le_refl _, Nat.le_add_right ..⟩
    · split_ifs at later with stops
      · exact absurd later List.not_mem_nil
      · cases offset with
        | zero => exact absurd zero stops
        | succ offset =>
          have next : store (start + 1 + offset) = 0 := by rwa [Nat.add_right_comm, Nat.add_assoc]
          obtain ⟨lower, upper⟩ := ih next later
          omega

/-- A scan goes on as long as it meets no zero. -/
theorem mem_stringReads_of_nonzero {start size : ℕ}
    (nonzero : ∀ offset < size, store (start + offset) ≠ 0) :
    start + size ∈ store.stringReads start (size + 1) := by
  induction size generalizing start with
  | zero => exact List.mem_cons_self ..
  | succ size ih =>
    have goesOn : store start ≠ 0 := nonzero 0 (Nat.succ_pos _)
    rw [stringReads, if_neg goesOn]
    have beyond : ∀ offset < size, store (start + 1 + offset) ≠ 0 := by
      intro offset below
      rw [Nat.add_right_comm]
      exact nonzero (offset + 1) (Nat.succ_lt_succ below)
    have later := ih beyond
    rw [Nat.add_right_comm] at later
    exact List.mem_cons_of_mem _ later

/-- The scan ends inside exactly if there is a zero to end it. -/
theorem endsInside_iff (extent : Extent) : store.EndsInside extent ↔ 0 ∈ store.bytes extent := by
  constructor
  · intro inside
    by_contra absent
    have nonzero : ∀ offset < extent.size, store (extent.start + offset) ≠ 0 := by
      intro offset below zero
      exact absent (List.mem_map.mpr ⟨offset, List.mem_range.mpr below, zero⟩)
    obtain ⟨_, upper⟩ := inside _ _ (mem_stringReads_of_nonzero nonzero)
    exact absurd upper (Nat.lt_irrefl _)
  · intro present count address member
    obtain ⟨offset, below, zero⟩ := List.mem_map.mp present
    obtain ⟨lower, upper⟩ := bounds_of_mem_stringReads zero member
    exact ⟨lower, Nat.lt_of_le_of_lt upper (Nat.add_lt_add_left (List.mem_range.mp below) _)⟩

end Scan

end FprimeGds.Machine.Store
