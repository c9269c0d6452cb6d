import FprimeGds.Model.App.Dispatch
import FprimeGds.Model.App.Disposition

/-! # The EDS dispatcher

The dispatch function itself is generated and not part of this repository. It decides from the
message alone: it either rejects it with a status, or calls one entry of the dispatch table and
returns what the entry returns. The decision is a parameter here, and what is assumed of it is stated
in two strengths.
-/

namespace FprimeGds.Model.App

open Cfe Machine

/-- The statuses the dispatcher tells apart. -/
structure StatusCodes where
  unknownMsgId : Status
  wrongMsgLength : Status
  unknownMsgId_error : unknownMsgId < success
  wrongMsgLength_error : wrongMsgLength < success
  distinct : unknownMsgId ≠ wrongMsgLength

namespace StatusCodes

/-- The values cFE documents: 0xC8000003 and 0xC8000002. -/
def documented : StatusCodes := ⟨-939524093, -939524094, by decide, by decide, by decide⟩

end StatusCodes

/-- What the generated dispatch function decides about a message. -/
inductive Verdict where
  | reject (status : Status)
  | indicate (entry : Handler)
deriving DecidableEq, Repr

variable (codes : StatusCodes) (config : Config) (verdict : Message config.stringValLen → Verdict)

/-- `SAMPLE_TC_DISPATCH_TABLE`. -/
def sampleTcDispatchTable (services : TblServices) (message : Message config.stringValLen) :
    Handler → AppExec Status
  | .noopCmd => noopCmd
  | .resetCountersCmd => resetCountersCmd
  | .processCmd => processCmd services
  | .displayParamCmd => displayParamCmd message
  | .sendHkCmd => sendHkCmd

/-- `EdsDispatch_EdsComponent_FPRIME_GDS_Application_Telecommand`. -/
def edsDispatch (services : TblServices) (message : Message config.stringValLen) : AppExec Status :=
  match verdict message with
  | .reject status => return status
  | .indicate entry => sampleTcDispatchTable config services message entry

/-- `FPRIME_GDS_TaskPipe` of the EDS build. -/
def edsTaskPipe (services : TblServices) (message : Message config.stringValLen) : AppExec Unit := do
  let status ← edsDispatch config verdict services message
  if status ≠ success then
    incrementErrCounter
    if status = codes.unknownMsgId then
      sendEvent midErrEid .error "SAMPLE: invalid command packet,MID = 0x%x"
        [.number message.msgId.toNat]
    else if status = codes.wrongMsgLength then
      sendEvent cmdLenErrEid .error "Invalid Msg length: ID = 0x%X,  CC = %u, Len = %u"
        [.number message.msgId.toNat, .number message.fcnCode.toNat,
          .number (toUnsignedInt message.size)]
    else
      sendEvent ccErrEid .error "SAMPLE: Invalid ground command code: CC = %d"
        [.number message.fcnCode.toNat]

variable {config}

/-- One message after another. -/
def runEds (inputs : List (Input config)) : AppExec Unit :=
  Exec.forEach (fun input => edsTaskPipe codes config verdict input.services input.message) inputs

/-- The generated dispatch function decides by message ID, code and exact size. -/
structure GeneratedDispatch (codes : StatusCodes) (config : Config)
    (verdict : Message config.stringValLen → Verdict) : Prop where
  unknownMsgId : ∀ message, message.msgId ≠ config.sendHkMid → message.msgId ≠ config.cmdMid →
    verdict message = .reject codes.unknownMsgId
  housekeeping : ∀ message, message.msgId = config.sendHkMid →
    verdict message = if config.sizeOf .sendHkCmd = message.size then .indicate .sendHkCmd
      else .reject codes.wrongMsgLength
  command : ∀ message handler, message.msgId ≠ config.sendHkMid → message.msgId = config.cmdMid →
    groundHandler message.fcnCode = some handler →
    verdict message = if config.sizeOf handler = message.size then .indicate handler
      else .reject codes.wrongMsgLength
  unknownCode : ∀ message, message.msgId ≠ config.sendHkMid → message.msgId = config.cmdMid →
    groundHandler message.fcnCode = none →
    ∃ status, status < success ∧ status ≠ codes.unknownMsgId ∧ status ≠ codes.wrongMsgLength ∧
      verdict message = .reject status

/-- The generated dispatch function calls the matching entry, or none and returns an error. -/
structure MatchingDispatch (config : Config) (verdict : Message config.stringValLen → Verdict) :
    Prop where
  indicates : ∀ message handler, verdict message = .indicate handler →
    message.msgId = config.sendHkMid ∧ handler = .sendHkCmd ∨
      message.msgId = config.cmdMid ∧ groundHandler message.fcnCode = some handler
  rejects : ∀ message status, verdict message = .reject status → status < success

/-- Every verdict of the generated dispatch function, in one place. -/
theorem GeneratedDispatch.verdict_cases {codes : StatusCodes}
    {verdict : Message config.stringValLen → Verdict} (generated : GeneratedDispatch codes config verdict)
    (message : Message config.stringValLen) :
    (∃ status, status < success ∧ verdict message = .reject status) ∨
    (message.msgId = config.sendHkMid ∧ verdict message = .indicate .sendHkCmd) ∨
    (∃ handler, message.msgId = config.cmdMid ∧ groundHandler message.fcnCode = some handler ∧
      verdict message = .indicate handler) := by
  have byLength (handler : Handler) (decided : verdict message =
      if config.sizeOf handler = message.size then .indicate handler
      else .reject codes.wrongMsgLength) :
      (∃ status, status < success ∧ verdict message = .reject status) ∨
        verdict message = .indicate handler := by
    split_ifs at decided
    · exact .inr decided
    · exact .inl ⟨_, codes.wrongMsgLength_error, decided⟩
  by_cases housekeeping : message.msgId = config.sendHkMid
  · rcases byLength .sendHkCmd (generated.housekeeping message housekeeping) with rejected | decided
    · exact .inl rejected
    · exact .inr (.inl ⟨housekeeping, decided⟩)
  by_cases command : message.msgId = config.cmdMid
  · cases code : groundHandler message.fcnCode with
    | none =>
      obtain ⟨status, failed, _, _, decided⟩ := generated.unknownCode message housekeeping command code
      exact .inl ⟨status, failed, decided⟩
    | some handler =>
      rcases byLength handler (generated.command message handler housekeeping command code) with
        rejected | decided
      · exact .inl rejected
      · exact .inr (.inr ⟨handler, command, rfl, decided⟩)
  · exact .inl ⟨_, codes.unknownMsgId_error, generated.unknownMsgId message housekeeping command⟩

/-- The stronger assumption implies the weaker one. -/
theorem GeneratedDispatch.matching {codes : StatusCodes}
    {verdict : Message config.stringValLen → Verdict} (generated : GeneratedDispatch codes config verdict) :
    MatchingDispatch config verdict where
  indicates message handler decided := by
    rcases generated.verdict_cases message with
      ⟨status, _, other⟩ | ⟨isHk, other⟩ | ⟨found, isCmd, code, other⟩
    · exact nomatch other.symm.trans decided
    · exact .inl ⟨isHk, Verdict.indicate.inj (decided.symm.trans other)⟩
    · exact .inr ⟨isCmd, code.trans (congrArg some (Verdict.indicate.inj (other.symm.trans decided)))⟩
  rejects message status decided := by
    rcases generated.verdict_cases message with
      ⟨other, failed, rejected⟩ | ⟨_, other⟩ | ⟨_, _, _, other⟩
    · exact Verdict.reject.inj (rejected.symm.trans decided) ▸ failed
    · exact nomatch other.symm.trans decided
    · exact nomatch other.symm.trans decided

/-- A dispatch function as the generated one is specified, with a status for unknown codes. -/
def referenceVerdict (codes : StatusCodes) (config : Config) (invalidFcnCode : Status)
    (message : Message config.stringValLen) : Verdict :=
  if message.msgId = config.sendHkMid then
    if config.sizeOf .sendHkCmd = message.size then .indicate .sendHkCmd
    else .reject codes.wrongMsgLength
  else if message.msgId = config.cmdMid then
    match groundHandler message.fcnCode with
    | none => .reject invalidFcnCode
    | some handler =>
      if config.sizeOf handler = message.size then .indicate handler
      else .reject codes.wrongMsgLength
  else .reject codes.unknownMsgId

theorem referenceVerdict_generated (codes : StatusCodes) (config : Config) {invalidFcnCode : Status}
    (failed : invalidFcnCode < success) (otherId : invalidFcnCode ≠ codes.unknownMsgId)
    (otherLength : invalidFcnCode ≠ codes.wrongMsgLength) :
    GeneratedDispatch codes config (referenceVerdict codes config invalidFcnCode) where
  unknownMsgId message notHk notCmd := by
    rw [referenceVerdict, if_neg notHk, if_neg notCmd]
  housekeeping message isHk := by
    rw [referenceVerdict, if_pos isHk]
  command message handler notHk isCmd code := by
    rw [referenceVerdict, if_neg notHk, if_pos isCmd, code]
  unknownCode message notHk isCmd code := by
    refine ⟨invalidFcnCode, failed, otherId, otherLength, ?_⟩
    rw [referenceVerdict, if_neg notHk, if_pos isCmd, code]

end FprimeGds.Model.App
