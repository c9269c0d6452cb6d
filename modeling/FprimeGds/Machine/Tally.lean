import Mathlib.Data.List.DropRight
import Mathlib.Data.List.Infix

/-! # Counting since the last reset

Some inputs reset a count and some add one to it, and a reset wins. A counter of eight bits that follows
these rules holds the count modulo 256. Inputs that ask for an answer get one that depends on the inputs
before them alone.
-/

namespace FprimeGds.Machine

variable {ι β : Type}

section Tally

variable (resets counts : ι → Bool)

/-- The inputs after the last reset, or all of them. -/
def since (inputs : List ι) : List ι := inputs.rtakeWhile fun input => !resets input

/-- How many of them count. -/
def tally (inputs : List ι) : ℕ := (since resets inputs).countP counts

/-- One more input, as a counter meets it. -/
def count (counter : UInt8) (input : ι) : UInt8 :=
  if resets input then 0 else if counts input then counter + 1 else counter

theorem since_snoc (seen : List ι) (input : ι) :
    since resets (seen ++ [input]) = if resets input then [] else since resets seen ++ [input] := by
  rw [since, List.rtakeWhile_concat]
  cases resets input with
  | true => rfl
  | false => rfl

theorem tally_snoc (seen : List ι) (input : ι) : tally resets counts (seen ++ [input]) =
    if resets input then 0 else tally resets counts seen + (counts input).toNat := by
  rw [tally, since_snoc]
  split_ifs with reset
  · rfl
  · rw [List.countP_append, List.countP_singleton]
    cases counts input with
    | true => rfl
    | false => rfl

theorem count_eq (counter : UInt8) (input : ι) : count resets counts counter input =
    if resets input then 0 else counter + UInt8.ofNat (counts input).toNat := by
  rw [count]
  cases counts input with
  | true => rfl
  | false =>
    rw [if_neg Bool.false_ne_true]
    exact congrArg (ite _ 0) (UInt8.add_zero counter).symm

/-- A counter that starts from zero holds the tally modulo 256. -/
theorem count_tally (seen : List ι) (input : ι) :
    count resets counts (UInt8.ofNat (tally resets counts seen)) input =
      UInt8.ofNat (tally resets counts (seen ++ [input])) := by
  rw [tally_snoc, count_eq]
  split_ifs with reset
  · rfl
  · rw [UInt8.ofNat_add]

/-- Two counters that are reset together drift apart by what only one of them counts. -/
theorem count_drift {more extra : ι → Bool} {input : ι}
    (counted : (more input).toNat = (counts input).toNat + (extra input).toNat)
    {counter ahead : UInt8} {seen : List ι}
    (apart : ahead = counter + UInt8.ofNat (tally resets extra seen)) :
    count resets more ahead input =
      count resets counts counter input + UInt8.ofNat (tally resets extra (seen ++ [input])) := by
  subst apart
  rw [tally_snoc, count_eq, count_eq, counted]
  split_ifs with reset
  · rfl
  · rw [UInt8.ofNat_add, UInt8.ofNat_add]
    ac_rfl

end Tally

section Answers

variable (asks : ι → Bool) (answer : List ι → β)

/-- One answer for every input that asks. -/
def answers (inputs : List ι) : List β :=
  (List.range inputs.length).filterMap fun index =>
    if inputs[index]?.any asks then some (answer (inputs.take index)) else none

theorem answers_snoc (seen : List ι) (input : ι) : answers asks answer (seen ++ [input]) =
    answers asks answer seen ++ if asks input then [answer seen] else [] := by
  have earlier : ∀ index ∈ List.range seen.length,
      (if (seen ++ [input])[index]?.any asks then some (answer ((seen ++ [input]).take index)) else none) =
        if seen[index]?.any asks then some (answer (seen.take index)) else none := by
    intro index member
    have bound := List.mem_range.mp member
    rw [List.getElem?_append_left bound, List.take_append_of_le_length (le_of_lt bound)]
  unfold answers
  rw [List.length_append, List.length_singleton, List.range_succ, List.filterMap_append,
    List.filterMap_congr earlier, List.filterMap_cons, List.filterMap_nil,
    List.getElem?_concat_length, List.take_left, Option.any_some]
  refine congrArg (_ ++ ·) ?_
  cases asks input with
  | true => rfl
  | false => rfl

end Answers

end FprimeGds.Machine
