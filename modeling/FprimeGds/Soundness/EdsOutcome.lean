import FprimeGds.Proofs.App.EdsDispatch

/-! # Executed or rejected in the EDS build

The EDS dispatcher infers what went wrong from one status. It is right about that as long as a status
other than success can only mean a rejection, and one it does not know only an unknown command code.
A PROCESS command whose table cannot be reached or released has been counted as executed by then, and
is counted again as an error.
-/

namespace FprimeGds.Soundness.EdsOutcome

open Machine Model Model.Cfe Model.App Proofs.App

variable {config : Config}

/-- One counter at most goes up, and the report of an invalid command code is about one. -/
def ExecutedOrRejected (message : Message config.stringValLen) (summary : Summary) : Prop :=
  summary.incremented.length ≤ 1 ∧
    (ccErrEid ∈ summary.eventIds →
      message.msgId = config.cmdMid ∧ groundHandler message.fcnCode = none)

/-- What the dispatcher does with `input` after the messages `before`. -/
def doneFor (codes : StatusCodes) (verdict : Message config.stringValLen → Verdict) (data : Data)
    (before : List (Input config)) (input : Input config) : Summary :=
  summarize ((edsTaskPipe codes config verdict input.services input.message).run
    ((runEds codes verdict before).run data).state).trace

/-- PROCESS is called only when both table services will succeed, and a rejection with an error the
dispatcher does not tell apart is one of an unknown command code. -/
def Unambiguous (codes : StatusCodes) (verdict : Message config.stringValLen → Verdict)
    (input : Input config) : Prop :=
  match verdict input.message with
  | .reject status => status = codes.unknownMsgId ∨ status = codes.wrongMsgLength ∨
      input.message.msgId = config.cmdMid ∧ groundHandler input.message.fcnCode = none
  | .indicate .processCmd =>
      success ≤ input.services.getAddress ∧ input.services.releaseAddress = success
  | .indicate _ => True

variable {codes : StatusCodes} {verdict : Message config.stringValLen → Verdict}

theorem complaintEid_eq_ccErrEid_iff (status : Status) :
    complaintEid codes status = ccErrEid ↔
      ¬ (status = codes.unknownMsgId ∨ status = codes.wrongMsgLength) := by
  unfold complaintEid
  split_ifs with unknown wrong
  · exact iff_of_false (by decide) (not_not.mpr (.inl unknown))
  · exact iff_of_false (by decide) (not_not.mpr (.inr wrong))
  · exact iff_of_true rfl (not_or.mpr ⟨unknown, wrong⟩)

/-- A rejection is counted once and reported once. -/
theorem executedOrRejected_of_reject {message : Message config.stringValLen} {status : Status}
    (failed : status ≠ success) :
    ExecutedOrRejected message (Summary.empty ++ complaint codes status) ↔
      status = codes.unknownMsgId ∨ status = codes.wrongMsgLength ∨
        message.msgId = config.cmdMid ∧ groundHandler message.fcnCode = none := by
  rw [complaint, if_neg failed]
  change (1 ≤ 1 ∧ (ccErrEid ∈ [complaintEid codes status] → _)) ↔ _
  rw [List.mem_singleton, eq_comm, complaintEid_eq_ccErrEid_iff, ← or_assoc,
    @or_iff_not_imp_left (_ ∨ _)]
  exact and_iff_right (le_refl 1)

/-- A handler counts at most one command and never reports an invalid code. -/
theorem handlerSummary_executes (data : Data) (handler : Handler) :
    (handler.summary data).incremented.length ≤ 1 ∧ ccErrEid ∉ (handler.summary data).eventIds := by
  have other {eventId : ℕ} (different : ccErrEid ≠ eventId) : ccErrEid ∉ [eventId] :=
    fun member => different (List.mem_singleton.mp member)
  cases handler with
  | sendHkCmd => exact ⟨Nat.zero_le 1, List.not_mem_nil⟩
  | noopCmd => exact ⟨le_refl 1, other (by decide)⟩
  | resetCountersCmd => exact ⟨Nat.zero_le 1, other (by decide)⟩
  | processCmd => exact ⟨le_refl 1, List.not_mem_nil⟩
  | displayParamCmd => exact ⟨le_refl 1, other (by decide)⟩

/-- A call of a handler must not come back with a failure. -/
theorem executedOrRejected_of_indicate {message : Message config.stringValLen} (data : Data)
    (services : TblServices) (handler : Handler) :
    ExecutedOrRejected message
        (handler.summary data ++ complaint codes (handler.status services)) ↔
      handler.status services = success := by
  obtain ⟨once, unreported⟩ := handlerSummary_executes data handler
  constructor
  · rintro ⟨counted, _⟩
    by_contra failed
    rw [complaint, if_neg failed] at counted
    -- only PROCESS can fail, and it has counted itself
    cases handler with
    | processCmd => exact absurd counted (show ¬ 2 ≤ 1 by decide)
    | sendHkCmd | noopCmd | resetCountersCmd | displayParamCmd => exact failed rfl
  · intro ok
    rw [complaint, if_pos ok, Summary.append_empty]
    exact ⟨once, fun reported => absurd reported unreported⟩

/-- One message, whatever happened before. -/
theorem executedOrRejected_iff (matching : MatchingDispatch config verdict) (data : Data)
    (before : List (Input config)) (input : Input config) :
    ExecutedOrRejected input.message (doneFor codes verdict data before input) ↔
      Unambiguous codes verdict input := by
  unfold doneFor Unambiguous
  rw [(edsTaskPipe_run ..).2]
  cases decided : verdict input.message with
  | reject status =>
    exact executedOrRejected_of_reject (Int32.ne_of_lt (matching.rejects _ _ decided))
  | indicate handler =>
    refine (executedOrRejected_of_indicate _ input.services handler).trans ?_
    cases handler with
    | processCmd => exact processStatus_eq_success_iff input.services
    | sendHkCmd | noopCmd | resetCountersCmd | displayParamCmd => exact iff_of_true rfl trivial

/-- In any run each message is either executed or rejected if and only if no message is ambiguous. -/
theorem executedOrRejected_forall_iff (codes : StatusCodes) (config : Config)
    (verdict : Message config.stringValLen → Verdict) (matching : MatchingDispatch config verdict)
    (data : Data) (inputs : List (Input config)) :
    (∀ before input after, inputs = before ++ input :: after →
      ExecutedOrRejected input.message (doneFor codes verdict data before input)) ↔
      ∀ input ∈ inputs, Unambiguous codes verdict input := by
  constructor
  · intro settled input member
    obtain ⟨before, after, split⟩ := List.append_of_mem member
    exact (executedOrRejected_iff matching data before input).mp (settled before input after split)
  · rintro clear before input after rfl
    exact (executedOrRejected_iff matching data before input).mpr
      (clear input (List.mem_append_right _ (List.mem_cons_self ..)))

/-- A PROCESS command whose table is there, and a command with an unknown code. -/
theorem executedOrRejected_forall_run :
    let config : Config := ⟨0x1882, 0x1883, 0x883, 8, 16, 2⟩
    let verdict := referenceVerdict .documented config (-939524092)
    let input (fcnCode : UInt16) : Input config :=
      ⟨⟨0x1882, fcnCode, 8, ⟨0, 0, ⟨#[0, 0], rfl⟩⟩⟩, ⟨0, ⟨0, 0⟩, 0, 0, 0⟩⟩
    ∀ before message after, [input 2, input 9] = before ++ message :: after →
      ExecutedOrRejected message.message (doneFor .documented verdict .zero before message) := by
  intro config verdict input
  have matching : MatchingDispatch config verdict :=
    (referenceVerdict_generated .documented config (by decide : (-939524092 : Status) < success)
      (by decide) (by decide)).matching
  refine (executedOrRejected_forall_iff .documented config verdict matching .zero _).mpr ?_
  simp only [List.forall_mem_cons]
  exact ⟨⟨by decide, rfl⟩, .inr (.inr ⟨rfl, rfl⟩), fun _ member => absurd member List.not_mem_nil⟩

/-- A PROCESS command that cannot get the table's address counts twice, and its valid code is reported
as invalid. -/
theorem process_counts_twice :
    let config : Config := ⟨0x1882, 0x1883, 0x883, 8, 16, 2⟩
    let verdict := referenceVerdict .documented config (-939524092)
    let input : Input config :=
      ⟨⟨0x1882, 2, 8, ⟨0, 0, ⟨#[0, 0], rfl⟩⟩⟩, ⟨-1, ⟨0, 0⟩, 0, 0, 0⟩⟩
    MatchingDispatch config verdict ∧
      (doneFor .documented verdict .zero [] input).incremented = [.cmdCounter, .errCounter] ∧
      (doneFor .documented verdict .zero [] input).eventIds = [ccErrEid] ∧
      ¬ ExecutedOrRejected input.message (doneFor .documented verdict .zero [] input) := by
  intro config verdict input
  refine ⟨(referenceVerdict_generated .documented config (by decide : (-939524092 : Status) < success)
    (by decide) (by decide)).matching, by decide, by decide, ?_⟩
  rintro ⟨once, _⟩
  revert once
  decide

end FprimeGds.Soundness.EdsOutcome
