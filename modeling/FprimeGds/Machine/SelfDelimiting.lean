import Mathlib.Data.List.Basic
import Mathlib.Data.Option.Basic

/-! # Values that say where they end

When every value can be read off the front of a stream, whatever follows it, a stream of values needs
nothing between them. Cutting it where its values end gives them back, and it can be cut in no other way.
-/

namespace FprimeGds.Machine

/-- A format of values, read from the front of a stream. -/
structure SelfDelimiting (α β : Type) where
  encode : α → List β
  Valid : α → Prop
  read : List β → Option (α × List β)
  read_iff : ∀ stream value rest,
    read stream = some (value, rest) ↔ Valid value ∧ encode value ++ rest = stream
  encode_ne_nil : ∀ value, encode value ≠ []

namespace SelfDelimiting

variable {α β : Type} (format : SelfDelimiting α β)

/-- Read as many values as the stream has, but no more than `fuel`. -/
def splitWithin : ℕ → List β → Option (List α)
  | _, [] => some []
  | 0, _ :: _ => none
  | fuel + 1, first :: others =>
    (format.read (first :: others)).bind fun front =>
      (splitWithin fuel front.2).map (front.1 :: ·)

/-- Cut a stream where its values end; there are at most as many values as elements. -/
def split (stream : List β) : Option (List α) := format.splitWithin stream.length stream

variable {format}

/-- A value takes at least one element off the stream. -/
theorem length_rest_le {stream rest : List β} {value : α} {fuel : ℕ}
    (read : format.read stream = some (value, rest)) (enough : stream.length ≤ fuel + 1) :
    rest.length ≤ fuel := by
  obtain ⟨_, rfl⟩ := (format.read_iff stream value rest).mp read
  have taken := List.length_pos_of_ne_nil (format.encode_ne_nil value)
  rw [List.length_append] at enough
  omega

theorem flatMap_eq_nil_iff {values : List α} : values.flatMap format.encode = [] ↔ values = [] := by
  cases values with
  | nil => exact iff_of_true rfl rfl
  | cons first others =>
    refine iff_of_false ?_ (List.cons_ne_nil first others)
    rw [List.flatMap_cons]
    exact fun empty => format.encode_ne_nil first (List.append_eq_nil_iff.mp empty).1

/-- Only no values at all make up the empty stream. -/
theorem splitWithin_nil_iff (fuel : ℕ) {values : List α} : format.splitWithin fuel [] = some values ↔
    (∀ value ∈ values, format.Valid value) ∧ values.flatMap format.encode = [] := by
  have empty : format.splitWithin fuel [] = some [] := by
    cases fuel with
    | zero => rfl
    | succ fuel => rfl
  rw [empty, flatMap_eq_nil_iff, Option.some_inj]
  constructor
  · rintro rfl
    exact ⟨fun _ member => absurd member List.not_mem_nil, rfl⟩
  · exact fun both => both.2.symm

theorem splitWithin_iff {fuel : ℕ} {stream : List β} (enough : stream.length ≤ fuel) {values : List α} :
    format.splitWithin fuel stream = some values ↔
      (∀ value ∈ values, format.Valid value) ∧ values.flatMap format.encode = stream := by
  induction fuel generalizing stream values with
  | zero =>
    obtain rfl := List.length_eq_zero_iff.mp (Nat.le_zero.mp enough)
    exact splitWithin_nil_iff 0
  | succ fuel ih =>
    cases stream with
    | nil => exact splitWithin_nil_iff _
    | cons first others =>
      rw [splitWithin, Option.bind_eq_some_iff]
      constructor
      · rintro ⟨⟨value, rest⟩, read, cut⟩
        obtain ⟨later, restCut, rfl⟩ := Option.map_eq_some_iff.mp cut
        obtain ⟨valid, whole⟩ := (ih (length_rest_le read enough)).mp restCut
        obtain ⟨firstValid, front⟩ := (format.read_iff ..).mp read
        refine ⟨List.forall_mem_cons.mpr ⟨firstValid, valid⟩, ?_⟩
        rw [List.flatMap_cons, whole, front]
      · rintro ⟨valid, whole⟩
        cases values with
        | nil => exact absurd whole.symm (List.cons_ne_nil first others)
        | cons value later =>
          obtain ⟨firstValid, laterValid⟩ := List.forall_mem_cons.mp valid
          rw [List.flatMap_cons] at whole
          have read := (format.read_iff (first :: others) value _).mpr ⟨firstValid, whole⟩
          have cut := (ih (length_rest_le read enough)).mpr ⟨laterValid, rfl⟩
          exact ⟨_, read, Option.map_eq_some_iff.mpr ⟨later, cut, rfl⟩⟩

/-- A stream is cut into exactly the valid values whose encodings make it up. -/
theorem split_iff {stream : List β} {values : List α} : format.split stream = some values ↔
    (∀ value ∈ values, format.Valid value) ∧ values.flatMap format.encode = stream :=
  splitWithin_iff (Nat.le_refl _)

end SelfDelimiting

end FprimeGds.Machine
