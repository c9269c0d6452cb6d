import FprimeGds.Machine.Store

/-! # Code of a port handler, and how far it runs

A handler reads and writes a byte store and calls output ports. Accesses made through an extent are
checked against it; an access outside is a fault, and faulting code has no outcome at all. Port calls
are synchronous, so during some of them the environment may call back into the component before the
handler goes on. `advance` therefore runs code up to the first such call and returns what is left of
it. With no such call it is the ordinary meaning of the handler, `run`.
-/

namespace FprimeGds.Machine

/-- Straight-line code over a byte store whose only other effect is calling output ports. -/
inductive Code (Out α : Type) where
  | done (value : α)
  | fault
  | read (address : ℕ) (next : UInt8 → Code Out α)
  | write (address : ℕ) (value : UInt8) (next : Code Out α)
  | move (target source count : ℕ) (next : Code Out α)
  | emit (out : Out) (next : Code Out α)

namespace Code

variable {Out α β : Type}

/-- Sequencing grafts the continuation onto every normal end. -/
def bind : Code Out α → (α → Code Out β) → Code Out β
  | .done value, rest => rest value
  | .fault, _ => .fault
  | .read address next, rest => .read address fun byte => (next byte).bind rest
  | .write address value next, rest => .write address value (next.bind rest)
  | .move target source count next, rest => .move target source count (next.bind rest)
  | .emit out next, rest => .emit out (next.bind rest)

instance : Monad (Code Out) where
  pure := .done
  bind := bind

section Sequencing

variable (rest : α → Code Out β)

@[simp] theorem pure_def (value : α) : (pure value : Code Out α) = .done value := rfl

@[simp] theorem done_bind (value : α) : (done value >>= rest) = rest value := rfl

@[simp] theorem read_bind (address : ℕ) (next : UInt8 → Code Out α) :
    (read address next >>= rest) = read address fun byte => next byte >>= rest := rfl

@[simp] theorem write_bind (address : ℕ) (value : UInt8) (next : Code Out α) :
    (write address value next >>= rest) = write address value (next >>= rest) := rfl

@[simp] theorem move_bind (target source count : ℕ) (next : Code Out α) :
    (move target source count next >>= rest) = move target source count (next >>= rest) := rfl

end Sequencing

/-- Call an output port and go on when the call returns. -/
def call (out : Out) : Code Out Unit := .emit out (.done ())

/-- Read the byte at an offset of an extent. -/
def readAt (extent : Extent) (offset : ℕ) : Code Out UInt8 :=
  if offset < extent.size then .read (extent.start + offset) .done else .fault

/-- Write the byte at an offset of an extent. -/
def writeAt (extent : Extent) (offset : ℕ) (value : UInt8) : Code Out Unit :=
  if offset < extent.size then .write (extent.start + offset) value (.done ()) else .fault

/-- Copy between two offsets of one extent. -/
def moveWithin (extent : Extent) (target source count : ℕ) : Code Out Unit :=
  if target + count ≤ extent.size ∧ source + count ≤ extent.size then
    .move (extent.start + target) (extent.start + source) count (.done ())
  else .fault

theorem readAt_eq {extent : Extent} {offset : ℕ} (inside : offset < extent.size) :
    (readAt extent offset : Code Out UInt8) = .read (extent.start + offset) .done := if_pos inside

theorem writeAt_eq {extent : Extent} {offset : ℕ} (inside : offset < extent.size) (value : UInt8) :
    (writeAt extent offset value : Code Out Unit) =
      .write (extent.start + offset) value (.done ()) := if_pos inside

theorem moveWithin_eq {extent : Extent} {target source count : ℕ}
    (targetInside : target + count ≤ extent.size) (sourceInside : source + count ≤ extent.size) :
    (moveWithin extent target source count : Code Out Unit) =
      .move (extent.start + target) (extent.start + source) count (.done ()) :=
  if_pos ⟨targetInside, sourceInside⟩

end Code

/-- Where code came to rest: the store, the ports called on the way, and the code still waiting for
its last port call to return (`none` when it has returned to its caller). -/
structure Progress (Out : Type) where
  store : Store
  outs : List Out
  waiting : Option (Code Out Unit)

/-- Rest after a handler's last act, a port call: it has returned, or only has to return. -/
def Progress.lastCall {Out : Type} (yields : Out → Bool) (store : Store) (outs : List Out) (last : Out) :
    Progress Out :=
  ⟨store, outs ++ [last], if yields last then some (.done ()) else none⟩

theorem Progress.eq_done_of_lastCall {Out : Type} {yields : Out → Bool} {store : Store}
    {outs : List Out} {last : Out} {code : Code Out Unit}
    (member : code ∈ (lastCall yields store outs last).waiting) : code = .done () := by
  unfold lastCall at member
  split_ifs at member
  · exact (Option.some.inj member).symm
  · exact nomatch member

namespace Code

variable {Out : Type}

/-- Run to the end or to the first port call during which the environment may call back. -/
def advance (yields : Out → Bool) : Code Out Unit → Store → Option (Progress Out)
  | .done _, store => some ⟨store, [], none⟩
  | .fault, _ => none
  | .read address next, store => (next (store address)).advance yields store
  | .write address value next, store => next.advance yields (store.write address value)
  | .move target source count next, store =>
      next.advance yields (store.move target source count)
  | .emit out next, store =>
      if yields out then some ⟨store, [out], some next⟩
      else (next.advance yields store).map fun progress =>
        { progress with outs := out :: progress.outs }

/-- The meaning of a handler that nothing calls back into. -/
def run (code : Code Out Unit) (store : Store) : Option (Progress Out) :=
  code.advance (fun _ => false) store

section Advance

variable (yields : Out → Bool) (store : Store)

@[simp] theorem advance_done (value : Unit) :
    (done value : Code Out Unit).advance yields store = some ⟨store, [], none⟩ := rfl

@[simp] theorem advance_read (address : ℕ) (next : UInt8 → Code Out Unit) :
    (read address next).advance yields store = (next (store address)).advance yields store := rfl

@[simp] theorem advance_write (address : ℕ) (value : UInt8) (next : Code Out Unit) :
    (write address value next).advance yields store =
      next.advance yields (store.write address value) := rfl

@[simp] theorem advance_move (target source count : ℕ) (next : Code Out Unit) :
    (move target source count next).advance yields store =
      next.advance yields (store.move target source count) := rfl

theorem advance_call (out : Out) :
    (call out).advance yields store = some (Progress.lastCall yields store [] out) := by
  unfold call advance Progress.lastCall
  split_ifs <;> rfl

/-- A call that cannot be called back into is just recorded. -/
theorem advance_call_bind {out : Out} (quiet : yields out = false) (rest : Unit → Code Out Unit) :
    (call out >>= rest).advance yields store =
      ((rest ()).advance yields store).map fun progress =>
        { progress with outs := out :: progress.outs } := by
  change (emit out (rest ())).advance yields store = _
  rw [advance, if_neg (Bool.eq_false_iff.mp quiet)]

end Advance

end Code

end FprimeGds.Machine
