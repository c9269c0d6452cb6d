import Mathlib.Data.List.Induction
import Mathlib.Data.List.Infix

/-! # Properties of all prefixes of a list

If one more element keeps a property exactly when the element satisfies some condition, all prefixes
have the property exactly when all elements satisfy the condition. That one element occurs only after
another is such a property of prefixes, too: it is kept by every prefix, and settled by the first part of
a list that contains the one and not the other.
-/

namespace List

variable {α : Type*}

theorem forall_prefix_iff {property : List α → Prop} {condition : α → Prop} (empty : property [])
    (next : ∀ seen element, property seen → (property (seen ++ [element]) ↔ condition element))
    (list : List α) :
    (∀ seen, seen <+: list → property seen) ↔ ∀ element ∈ list, condition element := by
  induction list using List.reverseRecOn with
  | nil =>
    refine iff_of_true ?_ (fun _ member => absurd member not_mem_nil)
    intro seen isPrefix
    rwa [prefix_nil.mp isPrefix]
  | append_singleton front last ih =>
    simp only [forall_mem_append, forall_mem_singleton, ← ih]
    constructor
    · intro all
      have before : ∀ seen, seen <+: front → property seen := fun seen isPrefix =>
        all seen (isPrefix.trans (prefix_append ..))
      exact ⟨before, (next front last (before front prefix_rfl)).mp (all _ prefix_rfl)⟩
    · rintro ⟨before, atLast⟩ seen isPrefix
      rcases prefix_concat_iff.mp isPrefix with rfl | shorter
      · exact (next front last (before front prefix_rfl)).mpr atLast
      · exact before seen shorter

/-! ## Order of occurrence -/

/-- Whenever `last` occurs, `first` has occurred before. -/
def OnlyAfter (first last : α) (list : List α) : Prop :=
  ∀ before, before ++ [last] <+: list → first ∈ before

section OnlyAfter

variable {first last : α} {list front : List α}

theorem OnlyAfter.restrict (after : OnlyAfter first last list) (inside : front <+: list) :
    OnlyAfter first last front :=
  fun before earlier => after before (earlier.trans inside)

theorem onlyAfter_of_not_mem (never : last ∉ list) : OnlyAfter first last list := by
  intro before inside
  have member : last ∈ before ++ [last] := mem_append_right before (mem_singleton_self last)
  exact absurd (inside.subset member) never

/-- Nothing that follows `first` can break the order, if `last` has not occurred up to there. -/
theorem onlyAfter_append (back : List α) (happened : first ∈ front) (notYet : last ∉ front) :
    OnlyAfter first last (front ++ back) := by
  intro before inside
  have early : ¬ before ++ [last] <+: front := fun within =>
    notYet (within.subset (mem_append_right before (mem_singleton_self last)))
  rcases prefix_or_prefix_of_prefix inside (prefix_append front back) with within | past
  · exact absurd within early
  · rcases prefix_concat_iff.mp past with whole | covered
    · exact absurd (whole ▸ prefix_rfl) early
    · exact covered.subset happened

/-- The order can be read off from a selection of the elements that keeps `last`. -/
theorem OnlyAfter.of_filter {kept : α → Bool} (keeps : kept last = true)
    (after : OnlyAfter first last (list.filter kept)) : OnlyAfter first last list := by
  intro before inside
  have selected := inside.filter kept
  rw [filter_append, filter_cons_of_pos keeps, filter_nil] at selected
  exact (mem_filter.mp (after _ selected)).1

end OnlyAfter

end List
