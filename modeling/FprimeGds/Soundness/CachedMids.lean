import FprimeGds.Proofs.App.Dispatch

/-! # The cached message IDs never show

The plain dispatcher compares message IDs with two static variables that it fills when one of them looks
unused. Whatever the configuration, after any calls it tells messages apart as if it looked the
configured IDs up afresh: both variables are cold, or both hold what is configured. That is an invariant
even where the configured command ID is itself invalid and the variables are filled on every call.
-/

namespace FprimeGds.Soundness.CachedMids

open Machine Model Model.Cfe Model.App Proofs.App

/-- What a message is taken for. -/
inductive MessageClass where
  | housekeepingRequest
  | groundCommand
  | unknown
deriving DecidableEq, Repr

/-- Comparison with two message IDs, the one of housekeeping requests first. -/
def classify (sendHkMid cmdMid msgId : MsgId) : MessageClass :=
  if msgId = sendHkMid then .housekeepingRequest
  else if msgId = cmdMid then .groundCommand
  else .unknown

variable (config : Config)

/-- What the dispatcher does with a message of each class. -/
def respond (services : TblServices) (message : Message config.stringValLen) :
    MessageClass → AppExec Unit
  | .housekeepingRequest => do
    let _ ← sendHkCmd
  | .groundCommand => processGroundCommand config services message
  | .unknown => sendEvent midErrEid .error "SAMPLE: invalid command packet,MID = 0x%x"
      [.number message.msgId.toNat]

/-- The class a message was taken for, as its response shows: housekeeping is entered, or the message ID
is reported, or else it is a command. -/
def shownClass : List Action → MessageClass
  | .enter .sendHkCmd :: _ => .housekeepingRequest
  | .sendEvent event :: _ => if event.eventId = midErrEid then .unknown else .groundCommand
  | _ => .groundCommand

section Responses

variable {config} (services : TblServices) (message : Message config.stringValLen) (data : Data)

/-- Behind the length check comes a command handler, or a report of the length. -/
theorem verified_shown (expectedLength : ℕ) {handler : AppExec Status}
    (shown : shownClass (handler.run data).trace = .groundCommand) :
    shownClass ((do
      if ← verifyCmdLength config message expectedLength then
        let _ ← handler : AppExec Unit).run data).trace = .groundCommand := by
  rw [verified_run]
  split_ifs with exact
  · exact shown
  · unfold verifyCmdLength
    rw [if_pos exact]
    rfl

theorem processGroundCommand_shown :
    shownClass ((processGroundCommand config services message).run data).trace = .groundCommand := by
  unfold processGroundCommand
  dsimp only
  split_ifs
  · exact verified_shown message data _ rfl
  · exact verified_shown message data _ rfl
  · exact verified_shown message data _ rfl
  · exact verified_shown message data _ rfl
  · rfl

/-- Messages of different classes are told apart by what is done with them. -/
theorem respond_shown (taken : MessageClass) :
    shownClass ((respond config services message taken).run data).trace = taken := by
  cases taken with
  | housekeepingRequest => rfl
  | groundCommand => exact processGroundCommand_shown services message data
  | unknown => rfl

theorem uncachedTaskPipe_eq : uncachedTaskPipe config services message =
    respond config services message (classify config.sendHkMid config.cmdMid message.msgId) := by
  unfold uncachedTaskPipe classify
  split_ifs
  · rfl
  · rfl
  · rfl

end Responses

section Cache

variable {config} {bus : SoftwareBus}

/-- One call keeps the cache cold or filled. -/
theorem taskPipe_coherent (services : TblServices) (message : Message config.stringValLen) :
    Exec.Preserves (Coherent bus config) (taskPipe bus config services message) := by
  intro state coherent
  rw [(taskPipe_run coherent services message).1]
  exact .inr rfl

/-- So do any calls, from the cold cache on. -/
theorem runPlain_coherent (inputs : List (Input config)) (data : Data) :
    Coherent bus config ((runPlain bus inputs).run (.cold bus data)).state := by
  have step (input : Input config) : Exec.Preserves (Coherent bus config)
      (taskPipe bus config input.services input.message) :=
    taskPipe_coherent _ _
  have kept := Exec.Preserves.forEach step inputs
  exact kept _ (coherent_cold bus config data)

end Cache

/-- After any calls the next message is taken for what a fresh comparison with the configured message
IDs makes of it: the response is the one of that class, and shows that class. -/
theorem taskPipe_classifies (bus : SoftwareBus) (config : Config) (data : Data)
    (before : List (Input config)) (input : Input config) :
    let reached := ((runPlain bus before).run (.cold bus data)).state
    let taken := classify config.sendHkMid config.cmdMid input.message.msgId
    let ran := (taskPipe bus config input.services input.message).run reached
    let response := (respond config input.services input.message taken).run reached.data
    ran.state.data = response.state ∧ ran.trace = response.trace ∧ shownClass ran.trace = taken := by
  intro reached taken ran response
  have coherent : Coherent bus config reached := runPlain_coherent before data
  obtain ⟨states, traces⟩ := taskPipe_run coherent input.services input.message
  rw [uncachedTaskPipe_eq] at states traces
  refine ⟨congrArg PlainState.data states, traces, ?_⟩
  exact (congrArg shownClass traces).trans (respond_shown input.services input.message _ taken)

end FprimeGds.Soundness.CachedMids
