import FprimeGds.Soundness.TableLeases

/-! # Contents are shown and not acted on

Of a message the application acts on its ID, code and size, and of a table service on its status. The
payload of a command, the values of the table and its CRC are only shown, each in one text. Two runs that
differ in nothing else do the same and leave the same state, apart from what these texts show.
-/

namespace FprimeGds.Soundness.ContentBlind

open Machine Model Model.Cfe Model.App Proofs.App Memoryless TableLeases

variable {config : Config}

/-! ## What differs and what is hidden -/

def crcText : String := "Sample App: CRC: 0x%08lX\n\n"

/-- Events and log entries without the contents they show. -/
def hideContent : Action → Action
  | .sendEvent event => .sendEvent (if event.eventId = valueInfEid then { event with arguments := [] } else event)
  | .writeToSysLog entry =>
    .writeToSysLog (if entry.spec = valuesText ∨ entry.spec = crcText then { entry with arguments := [] } else entry)
  | action => action

/-- And messages without their payload. -/
def hideContents : MainAction config → MainAction config
  | .app action => .app (hideContent action)
  | .taskPipe message => .taskPipe { message with payload := ⟨0, 0, Vector.replicate _ 0⟩ }
  | call => call

/-- The same message but for its payload, and the same answers but for the table and its CRC. -/
structure SameButContent (left right : Input config) : Prop where
  msgId : left.message.msgId = right.message.msgId
  fcnCode : left.message.fcnCode = right.message.fcnCode
  size : left.message.size = right.message.size
  getAddress : left.services.getAddress = right.services.getAddress
  getInfo : left.services.getInfo = right.services.getInfo
  releaseAddress : left.services.releaseAddress = right.services.releaseAddress

/-- The same turn of the loop but for contents. -/
structure SameTurn (left right : Turn config) : Prop where
  exitRequest : left.exitRequest = right.exitRequest
  receiveBuffer : left.receiveBuffer = right.receiveBuffer
  input : SameButContent left.input right.input

/-! ## Handlers -/

section Handlers

/-- From the same state these do the same but for the contents shown. -/
abbrev Blind {σ α : Type} (left right : Exec σ Action α) : Prop := Exec.Alike hideContent Eq left right

theorem displayParamCmd_blind {stringValLen : ℕ} (left right : Message stringValLen) :
    Blind (displayParamCmd left) (displayParamCmd right) :=
  .bind (.refl _) fun _ => .bind (.refl _) fun _ => .bind (.perform rfl) fun _ => .pure _

theorem getCrc_blind {left right : TblServices} (getInfo : left.getInfo = right.getInfo) (tableName : String) :
    Blind (getCrc left tableName) (getCrc right tableName) := by
  unfold getCrc
  rw [getInfo]
  exact .bind (.refl _) fun _ => .ite (fun _ => .refl _) fun _ => .perform rfl

theorem processCmd_blind {left right : Input config} (same : SameButContent left right) :
    Blind (processCmd left.services) (processCmd right.services) := by
  unfold processCmd
  rw [same.getAddress, same.releaseAddress]
  refine .bind (.refl _) fun _ => .bind (.refl _) fun _ => .read fun _ => .bind (.refl _) fun _ =>
    .ite (fun _ => .refl _) fun _ => ?_
  exact .bind (.perform rfl) fun _ => .bind (getCrc_blind same.getInfo _) fun _ => .refl _

theorem dispatchTable_blind {left right : Input config} (same : SameButContent left right) (handler : Handler) :
    Blind (sampleTcDispatchTable config left.services left.message handler)
      (sampleTcDispatchTable config right.services right.message handler) := by
  cases handler with
  | sendHkCmd | noopCmd | resetCountersCmd => exact .refl _
  | processCmd => exact processCmd_blind same
  | displayParamCmd => exact displayParamCmd_blind left.message right.message

end Handlers

/-! ## The dispatchers -/

section Dispatchers

variable {σ : Type}

/-- The dispatcher of a build does not act on contents. -/
def BlindBuild (build : Build config σ) : Prop :=
  ∀ left right, SameButContent left right →
    Blind (build.taskPipe left.services left.message) (build.taskPipe right.services right.message)

theorem verifyCmdLength_blind {left right : Input config} (same : SameButContent left right)
    (expectedLength : ℕ) :
    verifyCmdLength config left.message expectedLength = verifyCmdLength config right.message expectedLength := by
  unfold verifyCmdLength
  rw [same.msgId, same.fcnCode, same.size]

theorem processGroundCommand_blind {left right : Input config} (same : SameButContent left right) :
    Blind (processGroundCommand config left.services left.message)
      (processGroundCommand config right.services right.message) := by
  have verified (handler : Handler) (expectedLength : ℕ) : Blind (do
        if ← verifyCmdLength config left.message expectedLength then
          let _ ← sampleTcDispatchTable config left.services left.message handler)
      (do
        if ← verifyCmdLength config right.message expectedLength then
          let _ ← sampleTcDispatchTable config right.services right.message handler) := by
    rw [verifyCmdLength_blind same]
    exact .bind (.refl _) fun _ => .ite (fun _ => .bind (dispatchTable_blind same handler) fun _ => .pure _)
      fun _ => .pure _
  unfold processGroundCommand
  rw [same.fcnCode]
  exact .ite (fun _ => verified .noopCmd _) fun _ => .ite (fun _ => verified .resetCountersCmd _) fun _ =>
    .ite (fun _ => verified .processCmd _) fun _ => .ite (fun _ => verified .displayParamCmd _) fun _ => .refl _

theorem plain_blind (bus : SoftwareBus) : BlindBuild (.plain bus config) := by
  intro left right same
  change Blind (taskPipe bus config left.services left.message) (taskPipe bus config right.services right.message)
  unfold taskPipe
  rw [same.msgId]
  exact .bind (.refl _) fun _ => .read fun _ => .ite (fun _ => .refl _) fun _ =>
    .ite (fun _ => .within (processGroundCommand_blind same)) fun _ => .refl _

/-- What follows a rejection depends on which of three kinds the status is. -/
theorem eds_rejects {codes : StatusCodes} {verdict : Message config.stringValLen → Verdict}
    {left right : Input config} (same : SameButContent left right) {first second : Status}
    (leftRejects : verdict left.message = .reject first) (rightRejects : verdict right.message = .reject second)
    (failed : first ≠ success ↔ second ≠ success) (unknown : first = codes.unknownMsgId ↔ second = codes.unknownMsgId)
    (wrong : first = codes.wrongMsgLength ↔ second = codes.wrongMsgLength) :
    Blind (edsTaskPipe codes config verdict left.services left.message)
      (edsTaskPipe codes config verdict right.services right.message) := by
  unfold edsTaskPipe edsDispatch
  rw [leftRejects, rightRejects, Exec.pure_bind, Exec.pure_bind]
  simp only [failed, unknown, wrong, same.msgId, same.fcnCode, same.size]
  exact .refl _

theorem eds_indicates {codes : StatusCodes} {verdict : Message config.stringValLen → Verdict}
    {left right : Input config} (same : SameButContent left right) {handler : Handler}
    (leftIndicates : verdict left.message = .indicate handler)
    (rightIndicates : verdict right.message = .indicate handler) :
    Blind (edsTaskPipe codes config verdict left.services left.message)
      (edsTaskPipe codes config verdict right.services right.message) := by
  unfold edsTaskPipe edsDispatch
  rw [leftIndicates, rightIndicates, same.msgId, same.fcnCode, same.size]
  exact .bind (dispatchTable_blind same handler) fun _ => .refl _

theorem eds_blind {codes : StatusCodes} {verdict : Message config.stringValLen → Verdict}
    (contract : GeneratedDispatch codes config verdict) : BlindBuild (.eds codes config verdict) := by
  intro left right same
  have byLength (handler : Handler)
      (onLeft : verdict left.message = if config.sizeOf handler = left.message.size then .indicate handler
        else .reject codes.wrongMsgLength)
      (onRight : verdict right.message = if config.sizeOf handler = right.message.size then .indicate handler
        else .reject codes.wrongMsgLength) :
      Blind (edsTaskPipe codes config verdict left.services left.message)
        (edsTaskPipe codes config verdict right.services right.message) := by
    rw [same.size] at onLeft
    by_cases exact : config.sizeOf handler = right.message.size
    · rw [if_pos exact] at onLeft onRight
      exact eds_indicates same onLeft onRight
    · rw [if_neg exact] at onLeft onRight
      exact eds_rejects same onLeft onRight .rfl .rfl .rfl
  by_cases isHk : right.message.msgId = config.sendHkMid
  · exact byLength .sendHkCmd (contract.housekeeping _ (same.msgId.trans isHk)) (contract.housekeeping _ isHk)
  have leftNotHk : left.message.msgId ≠ config.sendHkMid := same.msgId.trans_ne isHk
  by_cases isCmd : right.message.msgId = config.cmdMid
  · have leftIsCmd := same.msgId.trans isCmd
    cases code : groundHandler right.message.fcnCode with
    | some handler =>
      have leftCode := (congrArg groundHandler same.fcnCode).trans code
      exact byLength handler (contract.command _ handler leftNotHk leftIsCmd leftCode)
        (contract.command _ handler isHk isCmd code)
    | none =>
      have leftCode := (congrArg groundHandler same.fcnCode).trans code
      -- each message may be rejected with a status of its own, but it is of the same kind
      obtain ⟨first, leftFailed, leftKnown, leftLength, onLeft⟩ := contract.unknownCode _ leftNotHk leftIsCmd leftCode
      obtain ⟨second, failed, known, length, onRight⟩ := contract.unknownCode _ isHk isCmd code
      exact eds_rejects same onLeft onRight (iff_of_true (Int32.ne_of_lt leftFailed) (Int32.ne_of_lt failed))
        (iff_of_false leftKnown known) (iff_of_false leftLength length)
  · exact eds_rejects same (contract.unknownMsgId _ leftNotHk (same.msgId.trans_ne isCmd))
      (contract.unknownMsgId _ isHk isCmd) .rfl .rfl .rfl

end Dispatchers

/-! ## Whole runs -/

section Runs

variable {σ : Type} {build : Build config σ}

/-- From the same state these do the same but for the contents of messages and what is shown of them. -/
abbrev BlindMain {α : Type} (left right : Exec σ (MainAction config) α) : Prop :=
  Exec.Alike hideContents Eq left right

theorem receiveAndDispatch_blind (blind : BlindBuild build) {left right : Turn config} (same : SameTurn left right) :
    BlindMain (build.receiveAndDispatch left) (build.receiveAndDispatch right) := by
  have shown : hideContents (.taskPipe left.input.message) = hideContents (.taskPipe right.input.message) := by
    simp only [hideContents, same.input.msgId, same.input.fcnCode, same.input.size]
  have hidden (action : Action) : hideContents (.app action : MainAction config) = .app (hideContent action) := rfl
  unfold Build.receiveAndDispatch
  rw [same.receiveBuffer]
  refine .bind (.refl _) fun _ => .read fun _ => .bind (.refl _) fun _ => .bind (.refl _) fun _ =>
    .ite (fun _ => .bind (.perform shown) fun _ => ?_) fun _ => .refl _
  exact .relabel hidden (blind left.input right.input same.input)

theorem mainLoop_blind (blind : BlindBuild build) {left right : List (Turn config)}
    (same : List.Forall₂ SameTurn left right) : BlindMain (build.mainLoop left) (build.mainLoop right) := by
  induction same with
  | nil => exact .refl _
  | @cons first second _ _ turn _ ih =>
    refine .read fun state => ?_
    rw [turn.exitRequest]
    rcases runLoop second.exitRequest (build.data state).runStatus with ⟨again, runStatus⟩
    exact .bind (.refl _) fun _ => .ite (fun _ => .bind (receiveAndDispatch_blind blind turn) fun _ => ih)
      fun _ => .refl _

theorem main_blind (blind : BlindBuild build) (services : InitServices) {left right : List (Turn config)}
    (same : List.Forall₂ SameTurn left right) :
    BlindMain (build.main services left) (build.main services right) := by
  have task : BlindMain (build.mainTask left) (build.mainTask right) :=
    .bind (mainLoop_blind blind same) fun _ => .refl _
  exact .bind (.refl _) fun _ => .bind (.refl _) fun _ => .ite (fun _ => .bind (.refl _) fun _ => task)
    fun _ => task

/-- Two runs from the same state, in either build, that receive messages differing in their payloads at
most and table services differing in the table and its CRC at most: they make the same calls in the same
order and leave the same state, apart from the payload handed to the dispatcher and the arguments of the
three texts that show it. -/
theorem application_content_blind (codes : StatusCodes) (config : Config)
    (verdict : Message config.stringValLen → Verdict) (contract : GeneratedDispatch codes config verdict)
    (bus : SoftwareBus) (services : InitServices) {left right : List (Turn config)}
    (same : List.Forall₂ SameTurn left right) (state : PlainState) (data : Data) :
    let plain turns := ((Build.plain bus config).main services turns).run state
    let eds turns := ((Build.eds codes config verdict).main services turns).run data
    ((plain left).state = (plain right).state ∧
      (plain left).trace.map hideContents = (plain right).trace.map hideContents) ∧
    (eds left).state = (eds right).state ∧
      (eds left).trace.map hideContents = (eds right).trace.map hideContents :=
  ⟨(main_blind (plain_blind bus) services same state state rfl).2,
    (main_blind (eds_blind contract) services same data data rfl).2⟩

/-- A DISPLAY_PARAM command with two payloads, and a PROCESS command with two tables. -/
theorem application_content_blind_two_contents :
    let config : Config := ⟨0x1882, 0x1883, 0x883, 8, 16, 2⟩
    let bus : SoftwareBus := ⟨fun msgId => msgId != 0, 0, rfl⟩
    let services : InitServices := ⟨0, 0, 1, 0, 0, 0, 2, 0, ""⟩
    let turns (value : UInt32) (table : ExampleTable) (crc : UInt32) : List (Turn config) :=
      [⟨none, 0, ⟨⟨0x1882, 3, 16, ⟨value, 0, ⟨#[0, 0], rfl⟩⟩⟩, ⟨0, ⟨0, 0⟩, 0, 0, 0⟩⟩⟩,
        ⟨none, 0, ⟨⟨0x1882, 2, 8, ⟨value, 0, ⟨#[0, 0], rfl⟩⟩⟩, ⟨0, table, 0, crc, 0⟩⟩⟩]
    let plain turns := ((Build.plain bus config).main services turns).run (.cold bus .zero)
    (plain (turns 5 ⟨1, 2⟩ 77)).state = (plain (turns 6 ⟨3, 4⟩ 88)).state ∧
      (plain (turns 5 ⟨1, 2⟩ 77)).trace.map hideContents = (plain (turns 6 ⟨3, 4⟩ 88)).trace.map hideContents := by
  intro config bus services turns plain
  have contract : GeneratedDispatch .documented config (referenceVerdict .documented config (-939524092)) :=
    referenceVerdict_generated _ _ (by decide) (by decide) (by decide)
  have same : List.Forall₂ SameTurn (turns 5 ⟨1, 2⟩ 77) (turns 6 ⟨3, 4⟩ 88) :=
    .cons ⟨rfl, rfl, rfl, rfl, rfl, rfl, rfl, rfl⟩ (.cons ⟨rfl, rfl, rfl, rfl, rfl, rfl, rfl, rfl⟩ .nil)
  exact (application_content_blind .documented config _ contract bus services same (.cold bus .zero) .zero).1

end Runs

end FprimeGds.Soundness.ContentBlind
