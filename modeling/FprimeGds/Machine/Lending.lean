import Mathlib.Data.List.Basic

/-! # Lending messages under keys

A filter is offered messages, each under a key, and lends what it makes of them to a receiver until the
key comes back. A message it makes nothing of is not lent.
-/

namespace FprimeGds.Machine

/-- What a filter is asked to do; anything else moves no message. -/
inductive Dealing (κ μ : Type) where
  | offered (key : κ) (message : μ)
  | returned (key : κ)
  | other
deriving DecidableEq, Repr

variable {κ μ : Type} [DecidableEq κ] (transform : μ → Option μ)

/-- What the receiver has after one dealing, the latest first. -/
def deal (held : List (κ × μ)) : Dealing κ μ → List (κ × μ)
  | .offered key message =>
    match transform message with
    | some made => (key, made) :: held
    | none => held
  | .returned key => held.eraseP fun entry => entry.1 == key
  | .other => held

/-- What the receiver has after some dealings. -/
def lent (dealings : List (Dealing κ μ)) : List (κ × μ) := dealings.foldl (deal transform) []

/-- What is made in one dealing. -/
def made : Dealing κ μ → Option μ
  | .offered _ message => transform message
  | .returned _ => none
  | .other => none

/-- What the receiver was lent at any time, the earliest first. -/
def passedOn (dealings : List (Dealing κ μ)) : List μ := dealings.filterMap (made transform)

omit [DecidableEq κ] in
theorem passedOn_cons (first : Dealing κ μ) (rest : List (Dealing κ μ)) :
    passedOn transform (first :: rest) = (made transform first).toList ++ passedOn transform rest := by
  rw [passedOn, List.filterMap_cons]
  cases made transform first with
  | none => rfl
  | some message => rfl

theorem lent_snoc (dealings : List (Dealing κ μ)) (last : Dealing κ μ) :
    lent transform (dealings ++ [last]) = deal transform (lent transform dealings) last :=
  List.foldl_append ..

variable {transform}

/-- Only its own key takes a message back. -/
theorem mem_deal {held : List (κ × μ)} {key : κ} {message : μ} {dealing : Dealing κ μ}
    (member : (key, message) ∈ held) (stays : dealing ≠ .returned key) :
    (key, message) ∈ deal transform held dealing := by
  cases dealing with
  | offered other offered =>
    rw [deal]
    cases transform offered with
    | none => exact member
    | some made => exact List.mem_cons_of_mem _ member
  | returned other =>
    refine (List.mem_eraseP_of_neg ?_).mpr member
    rw [beq_iff_eq]
    rintro rfl
    exact stays rfl
  | other => exact member

theorem mem_foldl_deal {held : List (κ × μ)} {key : κ} {message : μ} {dealings : List (Dealing κ μ)}
    (member : (key, message) ∈ held) (kept : .returned key ∉ dealings) :
    (key, message) ∈ dealings.foldl (deal transform) held := by
  induction dealings generalizing held with
  | nil => exact member
  | cons next rest ih =>
    obtain ⟨different, others⟩ := List.ne_and_not_mem_of_not_mem_cons kept
    exact ih (mem_deal member different.symm) others

/-- A message is the receiver's from its offer until its key comes back. -/
theorem mem_lent_of_offered {before after : List (Dealing κ μ)} {key : κ} {offered made : μ}
    (makes : transform offered = some made) (kept : .returned key ∉ after) :
    (key, made) ∈ lent transform (before ++ .offered key offered :: after) := by
  rw [lent, List.foldl_append, List.foldl_cons]
  refine mem_foldl_deal ?_ kept
  rw [deal, makes]
  exact List.mem_cons_self ..

end FprimeGds.Machine
