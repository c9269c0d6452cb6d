import FprimeGds.Proofs.App.Dispatch
import FprimeGds.Proofs.App.EdsDispatch
import FprimeGds.ToMathlib.ListPrefix

/-! # The two dispatchers side by side

Both builds are fed the same messages and meet the same table services. They agree on the handlers
called, the two counters and the event IDs after every message if and only if each message is one both
treat alike. The step lemma decides this for one message from states with equal counters; the rest is
that agreement once lost shows at the prefix where it is lost.
-/

namespace FprimeGds.Soundness.DispatcherAgreement

open Machine Model Model.Cfe Model.App Proofs.App

variable {bus : SoftwareBus} {codes : StatusCodes} {config : Config}
  {verdict : Message config.stringValLen → Verdict}

/-- Equal counters. -/
def SameCounters (plain eds : Data) : Prop :=
  plain.cmdCounter = eds.cmdCounter ∧ plain.errCounter = eds.errCounter

/-- The same handlers entered and the same event IDs sent, in the same order. -/
def SameActions (plain eds : Summary) : Prop :=
  plain.entered = eds.entered ∧ plain.eventIds = eds.eventIds

/-- The two builds cannot be told apart by handlers, counters and events. -/
def Agree (plain : Ran PlainState Action Unit) (eds : Ran Data Action Unit) : Prop :=
  SameCounters plain.state.data eds.state ∧ SameActions (summarize plain.trace) (summarize eds.trace)

/-- A message both builds treat alike: a housekeeping request of exact size, or a ground command with
one of the four codes that is of wrong size or whose table services, if it is PROCESS, succeed. -/
def Clean (input : Input config) : Prop :=
  match disposition config input.message with
  | .execute .sendHkCmd => config.sizeOf .sendHkCmd = input.message.size
  | .execute .processCmd =>
      success ≤ input.services.getAddress ∧ input.services.releaseAddress = success
  | .execute _ | .wrongLength => True
  | .unknownCode | .unknownMsgId => False

/-! ## One message -/

theorem SameCounters.handler {plain eds : Data} (same : SameCounters plain eds) (handler : Handler) :
    SameCounters (handler.update plain) (handler.update eds) := by
  obtain ⟨cmdCounter, errCounter⟩ := same
  cases handler with
  | sendHkCmd => exact ⟨cmdCounter, errCounter⟩
  | resetCountersCmd => exact ⟨rfl, rfl⟩
  | noopCmd | processCmd | displayParamCmd => exact ⟨congrArg (· + 1) cmdCounter, errCounter⟩

/-- A handler is observed in the same way whatever the global data. -/
theorem SameActions.handler (plain eds : Data) (handler : Handler) :
    SameActions (handler.summary plain) (handler.summary eds) := by
  cases handler <;> exact ⟨rfl, rfl⟩

private theorem add_one_ne (counter : UInt8) : counter ≠ counter + 1 := by
  intro same
  have impossible := congrArg UInt8.toNat same
  rw [UInt8.toNat_add] at impossible
  have one : UInt8.toNat 1 = 1 := rfl
  omega

/-- A complaint the other build does not make. -/
theorem not_sameCounters_of_complaint {plain eds : Data} (same : plain.errCounter = eds.errCounter)
    {status : Status} (failed : status ≠ success) :
    ¬ SameCounters plain (countComplaint status eds) := by
  rintro ⟨_, errCounter⟩
  rw [countComplaint, if_neg failed, same] at errCounter
  exact add_one_ne _ errCounter

/-- What both builds do with one message from states with equal counters. -/
def StepAgrees (codes : StatusCodes) (verdict : Message config.stringValLen → Verdict)
    (input : Input config) (plain eds : Data) : Prop :=
  let outcome := disposition config input.message
  let decided := verdict input.message
  let status := verdictStatus input.services decided
  SameCounters (outcome.update plain) (countComplaint status (verdictUpdate eds decided)) ∧
    SameActions (outcome.summary plain) (verdictSummary eds decided ++ complaint codes status)

/-- Every disposition of the plain build next to the verdict of the other. -/
theorem disposition_verdict (contract : GeneratedDispatch codes config verdict)
    (message : Message config.stringValLen) :
    (disposition config message = .execute .sendHkCmd ∧
      verdict message = if config.sizeOf .sendHkCmd = message.size then .indicate .sendHkCmd
        else .reject codes.wrongMsgLength) ∨
    (∃ handler, handler ≠ .sendHkCmd ∧ disposition config message = .execute handler ∧
      verdict message = .indicate handler) ∨
    (disposition config message = .wrongLength ∧ verdict message = .reject codes.wrongMsgLength) ∨
    ((disposition config message = .unknownCode ∨ disposition config message = .unknownMsgId) ∧
      ∃ status, status ≠ success ∧ verdict message = .reject status) := by
  unfold disposition
  by_cases housekeeping : message.msgId = config.sendHkMid
  · rw [if_pos housekeeping]
    exact .inl ⟨rfl, contract.housekeeping message housekeeping⟩
  rw [if_neg housekeeping]
  by_cases command : message.msgId = config.cmdMid
  · rw [if_pos command]
    cases code : groundHandler message.fcnCode with
    | none =>
      obtain ⟨status, failed, _, _, decided⟩ :=
        contract.unknownCode message housekeeping command code
      exact .inr (.inr (.inr ⟨.inl rfl, status, Int32.ne_of_lt failed, decided⟩))
    | some handler =>
      have decided := contract.command message handler housekeeping command code
      have ground : handler ≠ .sendHkCmd := by
        rintro rfl
        exact groundHandler_ne_sendHkCmd _ code
      by_cases exact : config.sizeOf handler = message.size
      · rw [if_pos exact] at decided
        exact .inr (.inl ⟨handler, ground, if_pos exact, decided⟩)
      · rw [if_neg exact] at decided
        exact .inr (.inr (.inl ⟨if_neg exact, decided⟩))
  · rw [if_neg command]
    have decided := contract.unknownMsgId message housekeeping command
    exact .inr (.inr (.inr ⟨.inr rfl, _, Int32.ne_of_lt codes.unknownMsgId_error, decided⟩))

section Step

variable {input : Input config} {plain eds : Data} {handler : Handler}

/-- Both builds call the same handler: they agree if it succeeds. -/
theorem stepAgrees_of_indicate (same : SameCounters plain eds)
    (outcome : disposition config input.message = .execute handler)
    (decided : verdict input.message = .indicate handler) :
    StepAgrees codes verdict input plain eds ↔ handler.status input.services = success := by
  have counters := same.handler handler
  unfold StepAgrees
  rw [outcome, decided]
  constructor
  · rintro ⟨counted, _⟩
    by_contra failed
    exact not_sameCounters_of_complaint counters.2 failed counted
  · intro ok
    change SameCounters _ (countComplaint (handler.status input.services) _) ∧
      SameActions _ (_ ++ complaint codes (handler.status input.services))
    rw [countComplaint, complaint, if_pos ok, if_pos ok, Summary.append_empty]
    exact ⟨counters, .handler plain eds handler⟩

/-- Only the EDS build rejects a housekeeping request for its size. -/
theorem not_stepAgrees_of_reject_sendHk {status : Status} (failed : status ≠ success)
    (outcome : disposition config input.message = .execute .sendHkCmd)
    (decided : verdict input.message = .reject status) :
    ¬ StepAgrees codes verdict input plain eds := by
  unfold StepAgrees
  rw [outcome, decided]
  rintro ⟨_, entered, _⟩
  change [Handler.sendHkCmd] = [] ++ (complaint codes status).entered at entered
  rw [complaint, if_neg failed] at entered
  exact List.cons_ne_nil _ _ entered

/-- Only the EDS build counts a message it has no handler for. -/
theorem not_stepAgrees_of_reject_unknown {status : Status} (failed : status ≠ success)
    (same : SameCounters plain eds)
    (outcome : disposition config input.message = .unknownCode ∨
      disposition config input.message = .unknownMsgId)
    (decided : verdict input.message = .reject status) :
    ¬ StepAgrees codes verdict input plain eds := by
  unfold StepAgrees
  rw [decided]
  rintro ⟨counted, _⟩
  rcases outcome with outcome | outcome
  · rw [outcome] at counted
    exact not_sameCounters_of_complaint same.2 failed counted
  · rw [outcome] at counted
    exact not_sameCounters_of_complaint same.2 failed counted

theorem stepAgrees_of_wrongLength (same : SameCounters plain eds)
    (outcome : disposition config input.message = .wrongLength)
    (decided : verdict input.message = .reject codes.wrongMsgLength) :
    StepAgrees codes verdict input plain eds := by
  have failed : codes.wrongMsgLength ≠ success := Int32.ne_of_lt codes.wrongMsgLength_error
  have reported : complaintEid codes codes.wrongMsgLength = cmdLenErrEid := by
    rw [complaintEid, if_neg codes.distinct.symm, if_pos rfl]
  unfold StepAgrees
  rw [outcome, decided]
  change SameCounters _ (countComplaint codes.wrongMsgLength eds) ∧
    SameActions _ (Summary.empty ++ complaint codes codes.wrongMsgLength)
  rw [countComplaint, complaint, if_neg failed, if_neg failed, reported]
  exact ⟨⟨same.1, congrArg (· + 1) same.2⟩, rfl, rfl⟩

/-- One message from states with equal counters. -/
theorem stepAgrees_iff (contract : GeneratedDispatch codes config verdict) (input : Input config)
    (same : SameCounters plain eds) :
    StepAgrees codes verdict input plain eds ↔ Clean input := by
  have wrong : codes.wrongMsgLength ≠ success := Int32.ne_of_lt codes.wrongMsgLength_error
  rcases disposition_verdict contract input.message with
    ⟨outcome, decided⟩ | ⟨handler, ground, outcome, decided⟩ | ⟨outcome, decided⟩ |
      ⟨outcome, status, failed, decided⟩
  · unfold Clean
    rw [outcome]
    by_cases exact : config.sizeOf .sendHkCmd = input.message.size
    · rw [if_pos exact] at decided
      exact iff_of_true ((stepAgrees_of_indicate same outcome decided).mpr rfl) exact
    · rw [if_neg exact] at decided
      exact iff_of_false (not_stepAgrees_of_reject_sendHk wrong outcome decided) exact
  · rw [stepAgrees_of_indicate same outcome decided, Clean, outcome]
    cases handler with
    | sendHkCmd => exact absurd rfl ground
    | processCmd => exact processStatus_eq_success_iff input.services
    | noopCmd | resetCountersCmd | displayParamCmd => exact iff_of_true rfl trivial
  · rw [Clean, outcome]
    exact iff_of_true (stepAgrees_of_wrongLength same outcome decided) trivial
  · refine iff_of_false (not_stepAgrees_of_reject_unknown failed same outcome decided) ?_
    unfold Clean
    rcases outcome with outcome | outcome
    · rw [outcome]
      exact id
    · rw [outcome]
      exact id

end Step

/-! ## Whole runs -/

section Run

variable (bus codes verdict) in
/-- The two builds after the same messages from the same global data. -/
def AgreeAfter (data : Data) (seen : List (Input config)) : Prop :=
  Agree ((runPlain bus seen).run (.cold bus data)) ((runEds codes verdict seen).run data)

theorem agreeAfter_iff_uncached {data : Data} {seen : List (Input config)} :
    AgreeAfter bus codes verdict data seen ↔
      SameCounters ((runUncached seen).run data).state ((runEds codes verdict seen).run data).state ∧
        SameActions (summarize ((runUncached seen).run data).trace)
          (summarize ((runEds codes verdict seen).run data).trace) := by
  obtain ⟨states, traces⟩ := runPlain_simulates (coherent_cold bus config data) seen
  rw [AgreeAfter, Agree, states, traces]
  rfl

theorem sameActions_append {first second : Summary} (same : SameActions first second)
    (plain eds : Summary) :
    SameActions (first ++ plain) (second ++ eds) ↔ SameActions plain eds := by
  obtain ⟨entered, eventIds⟩ := same
  change (first.entered ++ plain.entered = second.entered ++ eds.entered ∧
    first.eventIds ++ plain.eventIds = second.eventIds ++ eds.eventIds) ↔ _
  rw [entered, eventIds, List.append_cancel_left_eq, List.append_cancel_left_eq]
  rfl

/-- Agreement survives one more message exactly if that message is clean. -/
theorem agreeAfter_snoc (contract : GeneratedDispatch codes config verdict) {data : Data}
    (seen : List (Input config)) (input : Input config)
    (agree : AgreeAfter bus codes verdict data seen) :
    AgreeAfter bus codes verdict data (seen ++ [input]) ↔ Clean input := by
  rw [agreeAfter_iff_uncached] at agree ⊢
  obtain ⟨counters, actions⟩ := agree
  obtain ⟨plainState, plainTrace⟩ := Exec.forEach_snoc
    (fun input : Input config => uncachedTaskPipe config input.services input.message) seen input data
  obtain ⟨edsState, edsTrace⟩ := Exec.forEach_snoc
    (fun input : Input config => edsTaskPipe codes config verdict input.services input.message)
    seen input data
  rw [← stepAgrees_iff contract input counters]
  unfold runUncached runEds at counters actions ⊢
  rw [plainState, plainTrace, edsState, edsTrace, summarize_append, summarize_append,
    sameActions_append actions, (uncachedTaskPipe_run ..).1, (uncachedTaskPipe_run ..).2,
    (edsTaskPipe_run ..).1, (edsTaskPipe_run ..).2]
  rfl

/-- Both builds have called the same handlers, hold the same counters and have sent the same event IDs
after every message if and only if every message is clean. -/
theorem agreeAfter_forall_iff (bus : SoftwareBus) (codes : StatusCodes) (config : Config)
    (verdict : Message config.stringValLen → Verdict)
    (contract : GeneratedDispatch codes config verdict) (data : Data) (inputs : List (Input config)) :
    (∀ seen, seen <+: inputs → AgreeAfter bus codes verdict data seen) ↔
      ∀ input ∈ inputs, Clean input :=
  List.forall_prefix_iff ⟨⟨rfl, rfl⟩, rfl, rfl⟩ (agreeAfter_snoc contract) inputs

end Run

/-- A command, a command of wrong size, a successful PROCESS and a report are clean. -/
theorem agreeAfter_clean_run :
    let config : Config := ⟨0x1882, 0x1883, 0x883, 8, 16, 2⟩
    let bus : SoftwareBus := ⟨fun msgId => msgId != 0, 0, rfl⟩
    let input (msgId : MsgId) (fcnCode : UInt16) (size : ℕ) : Input config :=
      ⟨⟨msgId, fcnCode, size, ⟨0, 0, ⟨#[0, 0], rfl⟩⟩⟩, ⟨0, ⟨0, 0⟩, 0, 0, 0⟩⟩
    let inputs := [input 0x1882 0 8, input 0x1882 1 9, input 0x1882 2 8, input 0x1883 0 8]
    ∀ seen, seen <+: inputs → AgreeAfter bus .documented
      (referenceVerdict .documented config (-939524092)) .zero seen := by
  intro config bus input inputs
  have contract := referenceVerdict_generated .documented config
    (by decide : (-939524092 : Status) < success) (by decide) (by decide)
  refine (agreeAfter_forall_iff bus .documented config _ contract .zero inputs).mpr ?_
  simp only [inputs, List.forall_mem_cons]
  exact ⟨trivial, trivial, ⟨by decide, rfl⟩, rfl, fun _ member => absurd member List.not_mem_nil⟩

/-- A message with an unknown ID is counted as an error by one build only. -/
theorem unknown_msgId_disagrees :
    let config : Config := ⟨0x1882, 0x1883, 0x883, 8, 16, 2⟩
    let bus : SoftwareBus := ⟨fun msgId => msgId != 0, 0, rfl⟩
    let input : Input config :=
      ⟨⟨0x1884, 0, 8, ⟨0, 0, ⟨#[0, 0], rfl⟩⟩⟩, ⟨0, ⟨0, 0⟩, 0, 0, 0⟩⟩
    GeneratedDispatch .documented config (referenceVerdict .documented config (-939524092)) ∧
      ¬ AgreeAfter bus .documented (referenceVerdict .documented config (-939524092)) .zero [input] := by
  intro config bus input
  refine ⟨referenceVerdict_generated _ _ (by decide) (by decide) (by decide), ?_⟩
  rintro ⟨⟨_, errCounter⟩, _⟩
  revert errCounter
  decide

end FprimeGds.Soundness.DispatcherAgreement
