import FprimeGds.Machine.CString
import FprimeGds.Proofs.App.Dispatch

/-! # The string of a DISPLAY_PARAM command

The length check of the dispatcher fixes the size of the packet, but the string inside it is handed to
an event as a C string and read up to a zero byte. Whether that read ends inside its field is decided by
the bytes an operator has uplinked, and by nothing else.
-/

namespace FprimeGds.Soundness.DisplayParam

open Machine Model Model.Cfe Model.App Proofs.App

/-- Where `Payload.ValStr` lies in a command whose header is at `base`: behind the header, the
thirty-two bits of `ValU32` and the sixteen of `ValI16`. -/
def valStr (config : Config) (base : ℕ) : Extent :=
  ⟨base + (config.commandHeaderSize + 6), config.stringValLen⟩

/-- The whole command. -/
def command (config : Config) (base : ℕ) : Extent := ⟨base, config.displayParamCmdSize⟩

/-- The bytes at `Payload.ValStr`. -/
def valStrAt (config : Config) (store : Store) (base : ℕ) : Vector UInt8 config.stringValLen :=
  Vector.ofFn fun index => store ((valStr config base).start + index)

/-- A ground command with the code and the size of DISPLAY_PARAM lies in the storage. Its message ID
and its numbers may be any. -/
def displayParam (config : Config) (store : Store) (base : ℕ) (msgId : MsgId) (valU32 : UInt32)
    (valI16 : Int16) : Message config.stringValLen :=
  ⟨msgId, displayParamCc, config.displayParamCmdSize, valU32, valI16, valStrAt config store base⟩

/-- The strings handed to events. -/
def handedOver (trace : List Action) : List (List UInt8) :=
  trace.flatMap fun
    | .sendEvent event => event.arguments.filterMap fun
      | .chars bytes => some bytes
      | _ => none
    | _ => []

theorem valStrAt_toList (config : Config) (store : Store) (base : ℕ) :
    (valStrAt config store base).toList = store.bytes (valStr config base) := by
  apply List.ext_getElem
  · rw [Vector.length_toList, Store.bytes_length, valStr]
  · intro index _ _
    simp only [valStrAt, Vector.getElem_toList, Vector.getElem_ofFn, Store.getElem_bytes]

/-- The field lies inside the command, so a read that stays in the field stays in the packet. -/
theorem command_contains {config : Config} {base address : ℕ}
    (inside : (valStr config base).Contains address) : (command config base).Contains address := by
  simp only [valStr, command, Extent.Contains, Config.displayParamCmdSize] at inside ⊢
  omega

section Accepted

variable (config : Config) (services : TblServices) (store : Store) (base : ℕ) (msgId : MsgId)
  (valU32 : UInt32) (valI16 : Int16) (data : Data)

/-- The command is accepted and its handler runs. -/
theorem displayParam_run :
    let message := displayParam config store base msgId valU32 valI16
    (processGroundCommand config services message).run data =
      ⟨(), ((displayParamCmd message).run data).state, ((displayParamCmd message).run data).trace⟩ := by
  intro message
  have accepted : config.displayParamCmdSize = message.size := rfl
  have verified := verified_run message config.displayParamCmdSize (displayParamCmd message) data
  rw [if_pos accepted] at verified
  exact verified

/-- Of all that is done with it one string is handed to an event: the string field. -/
theorem handedOver_displayParam :
    handedOver ((processGroundCommand config services
      (displayParam config store base msgId valU32 valI16)).run data).trace =
        [store.bytes (valStr config base)] := by
  rw [displayParam_run, ← valStrAt_toList]
  rfl

/-- Every string handed to an event is the string field, and reading it as a C string ends inside the
field and so inside the packet. -/
def StringStaysInside : Prop :=
  ∀ string ∈ handedOver ((processGroundCommand config services
      (displayParam config store base msgId valU32 valI16)).run data).trace,
    string = store.bytes (valStr config base) ∧ store.EndsInside (valStr config base) ∧
      ∀ count, ∀ address ∈ store.stringReads (valStr config base).start count,
        (command config base).Contains address

theorem stringStaysInside_iff :
    StringStaysInside config services store base msgId valU32 valI16 data ↔
      store.EndsInside (valStr config base) := by
  rw [StringStaysInside, handedOver_displayParam, List.forall_mem_singleton]
  constructor
  · exact fun stays => stays.2.1
  · exact fun inside => ⟨rfl, inside, fun count address member => command_contains (inside count address member)⟩

end Accepted

/-- An accepted command is read inside its string field exactly if that field holds a zero byte. -/
theorem displayParam_string_iff (config : Config) (services : TblServices) (store : Store) (base : ℕ)
    (msgId : MsgId) (valU32 : UInt32) (valI16 : Int16) (data : Data) :
    StringStaysInside config services store base msgId valU32 valI16 data ↔
      0 ∈ (displayParam config store base msgId valU32 valI16).payload.valStr.toList := by
  rw [stringStaysInside_iff, Store.endsInside_iff, ← valStrAt_toList]
  rfl

/-- Ten letters without a terminator, at the end of a command of twenty-four bytes. -/
theorem unterminated_string_leaves :
    let config : Config := ⟨0x1882, 0x1883, 0x0883, 8, 16, 10⟩
    let services : TblServices := ⟨success, ⟨1, 2⟩, success, 0, success⟩
    let header : List UInt8 := [0x18, 0x82, 0xC0, 0, 0, 17, 3, 0]
    let numbers : List UInt8 := [0, 0, 0, 1, 0, 2]
    let store := Store.ofBytes 64 (header ++ numbers ++ List.replicate 10 0x41)
    ¬ StringStaysInside config services store 64 0x1882 1 2 .zero := by
  intro config services header numbers store
  rw [stringStaysInside_iff, Store.endsInside_iff]
  decide

end FprimeGds.Soundness.DisplayParam
