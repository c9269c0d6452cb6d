import FprimeGds.Proofs.App.Account
import FprimeGds.Soundness.ApplicationRun
import FprimeGds.Soundness.DispatcherAgreement

/-! # What the builds count and report

Both builds keep two counters with the same rules but for what counts as an error and which housekeeping
requests are answered. An account says this for each message, and the step lemmas say which account a
dispatcher keeps. Its run lemma then gives the counters and all packets of either build.
-/

namespace FprimeGds.Soundness.Accounting

open Machine Model Model.Cfe Model.App Proofs.App ApplicationRun

variable {config : Config}

/-! ## The two accounts -/

section Accounts

def resets (input : Input config) : Bool :=
  match disposition config input.message with
  | .execute .resetCountersCmd => true
  | _ => false

/-- The handlers that count a command. -/
def counts (input : Input config) : Bool :=
  match disposition config input.message with
  | .execute .noopCmd | .execute .processCmd | .execute .displayParamCmd => true
  | _ => false

/-- A ground command of wrong length. -/
def fails (input : Input config) : Bool :=
  match disposition config input.message with
  | .wrongLength => true
  | _ => false

def requests (input : Input config) : Bool :=
  match disposition config input.message with
  | .execute .sendHkCmd => true
  | _ => false

def plainAccount (config : Config) : Account config := ⟨resets, counts, fails, requests⟩

/-- What only the EDS build counts as an error: messages nothing handles, housekeeping requests of wrong
length, and handlers that return a failure. -/
def overcounts (input : Input config) : Bool :=
  match disposition config input.message with
  | .execute .sendHkCmd => config.sizeOf .sendHkCmd != input.message.size
  | .execute handler => handler.status input.services != success
  | .wrongLength => false
  | .unknownCode | .unknownMsgId => true

def edsAccount (config : Config) : Account config where
  resets := resets
  counts := counts
  fails input := fails input || overcounts input
  requests input := requests input && config.sizeOf .sendHkCmd == input.message.size

/-- No error is counted for two reasons. -/
theorem edsFails_toNat (input : Input config) : ((edsAccount config).fails input).toNat =
    (fails input).toNat + (overcounts input).toNat := by
  simp only [edsAccount, fails, overcounts]
  cases disposition config input.message with
  | execute handler => simp only [Bool.false_or, Bool.toNat_false, Nat.zero_add]
  | wrongLength | unknownCode | unknownMsgId => rfl

/-- The plain dispatcher keeps its account. -/
theorem plain_kept (input : Input config) (data : Data) :
    let ran := (uncachedTaskPipe config input.services input.message).run data
    (plainAccount config).Kept input data ran.state (summarize ran.trace).transmitted := by
  intro ran
  obtain ⟨state, summary⟩ := uncachedTaskPipe_run input.services input.message data
  rw [state, summary]
  unfold plainAccount
  cases outcome : disposition config input.message with
  | execute handler =>
    cases handler with
    | sendHkCmd | noopCmd | resetCountersCmd | processCmd | displayParamCmd =>
      refine ⟨?_, ?_, rfl, ?_⟩
      all_goals
        simp only [count, resets, counts, fails, requests, outcome]
        rfl
  | wrongLength | unknownCode | unknownMsgId =>
    refine ⟨?_, ?_, rfl, ?_⟩
    all_goals
      simp only [count, resets, counts, fails, requests, outcome]
      rfl

end Accounts

section Eds

variable {codes : StatusCodes} {verdict : Message config.stringValLen → Verdict} {input : Input config}
  (data : Data)

/-- A rejection is counted, whatever its status. -/
theorem rejected_run {status : Status} (failed : status ≠ success)
    (decided : verdict input.message = .reject status) :
    let ran := (edsTaskPipe codes config verdict input.services input.message).run data
    ran.state = { data with errCounter := data.errCounter + 1 } ∧ (summarize ran.trace).transmitted = [] := by
  intro ran
  obtain ⟨state, summary⟩ := edsTaskPipe_run codes verdict input.services input.message data
  rw [state, summary, decided]
  change countComplaint status data = _ ∧ (Summary.empty ++ complaint codes status).transmitted = []
  rw [countComplaint, complaint, if_neg failed, if_neg failed]
  exact ⟨rfl, rfl⟩

/-- A handler that was called has done its work, and is complained of if it returns a failure. -/
theorem indicated_run {handler : Handler} (decided : verdict input.message = .indicate handler) :
    let ran := (edsTaskPipe codes config verdict input.services input.message).run data
    ran.state = countComplaint (handler.status input.services) (handler.update data) ∧
      (summarize ran.trace).transmitted = (handler.summary data).transmitted := by
  intro ran
  obtain ⟨state, summary⟩ := edsTaskPipe_run codes verdict input.services input.message data
  rw [state, summary, decided]
  refine ⟨rfl, ?_⟩
  change (handler.summary data ++ complaint codes (handler.status input.services)).transmitted = _
  rw [complaint]
  split_ifs
  · rw [Summary.append_empty]
  · exact List.append_nil _

/-- The EDS dispatcher keeps its account. -/
theorem eds_kept (contract : GeneratedDispatch codes config verdict) (input : Input config) (data : Data) :
    let ran := (edsTaskPipe codes config verdict input.services input.message).run data
    (edsAccount config).Kept input data ran.state (summarize ran.trace).transmitted := by
  intro ran
  have wrong : codes.wrongMsgLength ≠ success := Int32.ne_of_lt codes.wrongMsgLength_error
  unfold edsAccount
  rcases DispatcherAgreement.disposition_verdict contract input.message with
    ⟨outcome, decided⟩ | ⟨handler, ground, outcome, decided⟩ | ⟨outcome, decided⟩ |
      ⟨outcome, status, failed, decided⟩
  · by_cases exact : config.sizeOf .sendHkCmd = input.message.size
    · rw [if_pos exact] at decided
      obtain ⟨state, sent⟩ := indicated_run data decided
      rw [state, sent]
      refine ⟨?_, ?_, rfl, ?_⟩
      all_goals
        simp [count, resets, counts, fails, overcounts, requests, outcome, exact]
        rfl
    · rw [if_neg exact] at decided
      obtain ⟨state, sent⟩ := rejected_run data wrong decided
      rw [state, sent]
      refine ⟨?_, ?_, rfl, ?_⟩
      all_goals simp [count, resets, counts, fails, overcounts, requests, outcome, exact]
  · obtain ⟨state, sent⟩ := indicated_run data decided
    rw [state, sent]
    by_cases ok : handler.status input.services = success
    · rw [countComplaint, if_pos ok]
      cases handler with
      | sendHkCmd => exact absurd rfl ground
      | noopCmd | resetCountersCmd | processCmd | displayParamCmd =>
        refine ⟨?_, ?_, rfl, ?_⟩
        all_goals
          simp [count, resets, counts, fails, overcounts, requests, outcome, ok]
          rfl
    · rw [countComplaint, if_neg ok]
      cases handler with
      | sendHkCmd | noopCmd | resetCountersCmd | displayParamCmd => exact absurd rfl ok
      | processCmd =>
        refine ⟨?_, ?_, rfl, ?_⟩
        all_goals
          simp [count, resets, counts, fails, overcounts, requests, outcome, ok]
          rfl
  · obtain ⟨state, sent⟩ := rejected_run data wrong decided
    rw [state, sent]
    refine ⟨?_, ?_, rfl, ?_⟩
    all_goals simp [count, resets, counts, fails, overcounts, requests, outcome]
  · obtain ⟨state, sent⟩ := rejected_run data failed decided
    rw [state, sent]
    rcases outcome with outcome | outcome
    all_goals
      refine ⟨?_, ?_, rfl, ?_⟩
      all_goals simp [count, resets, counts, fails, overcounts, requests, outcome]

end Eds

/-! ## Whole runs -/

section Application

def isTransmit : Action → Bool
  | .transmitMsg _ _ => true
  | _ => false

/-- The events of initialization. -/
def startupEids : List ℕ := [initInfEid, crPipeErrEid, subHkErrEid, subCmdErrEid, tableRegErrEid]

/-- Setting up services, their events, and the one log entry that stands in for them. -/
def IsStartup : Action → Prop
  | .evsRegister => True
  | .msgInit _ _ => True
  | .createPipe _ _ => True
  | .subscribe _ _ => True
  | .tblRegister _ _ _ _ => True
  | .tblLoad _ _ _ => True
  | .sendEvent event => event.eventId ∈ startupEids
  | .writeToSysLog entry => entry.spec = "F Prime App: Error Registering Events, RC = 0x%08lX\n"
  | _ => False

/-- Initialization does nothing else. -/
theorem init_startup (config : Config) (services : InitServices) :
    Exec.Performs IsStartup (init config services) := by
  have report {eventId : ℕ} (startup : eventId ∈ startupEids) (status : Status) (spec : String) :
      Exec.Performs IsStartup (reportFailure status eventId spec) := .ite (.perform startup) (.pure _)
  have subscribed {eventId : ℕ} (startup : eventId ∈ startupEids) (msgId : MsgId) (answer : Status)
      (spec : String) : Exec.Performs IsStartup (subscribe msgId answer eventId spec) :=
    .bind .get fun _ => .bind (.perform trivial) fun _ => .bind (report startup answer spec) fun _ => .pure _
  have pipe : Exec.Performs IsStartup (createCommandPipe config services) :=
    .bind (.perform trivial) fun _ => .bind (.modify _) fun _ => .bind (.perform trivial) fun _ =>
      .bind (.modify _) fun _ => .bind (report (by decide) _ _) fun _ => .pure _
  have events : Exec.Performs IsStartup (registerEvents config services) :=
    .bind (.perform trivial) fun _ => .ite (.bind (.perform rfl) fun _ => .pure _) pipe
  have load : Exec.Performs IsStartup (loadTable services) :=
    .ite (.bind (.perform (show tableRegErrEid ∈ startupEids by decide)) fun _ => .pure _)
      (.bind .get fun _ => .bind (.perform trivial) fun _ => .pure _)
  have tables : Exec.Performs IsStartup (registerTables services) :=
    .bind (.perform trivial) fun _ => .bind (.modify _) fun _ => .bind load fun _ =>
      .bind (.perform (show initInfEid ∈ startupEids by decide)) fun _ => .pure _
  exact .bind (.bind (.modify _) fun _ => .modify _) fun _ => .bind events fun _ =>
    .bind (.ite (subscribed (by decide) _ _ _) (.pure _)) fun _ =>
    .bind (.ite (subscribed (by decide) _ _ _) (.pure _)) fun _ => .ite tables (.pure _)

theorem init_silent (config : Config) (services : InitServices) :
    Exec.Performs (fun action => isTransmit action = false) (init config services) := by
  refine (init_startup config services).mono fun action startup => ?_
  cases action with
  | transmitMsg hkTlm sequence => exact startup.elim
  | _ => rfl

theorem transmitted_of_silent {trace : List Action} (silent : ∀ action ∈ trace, isTransmit action = false) :
    (summarize trace).transmitted = [] := by
  rw [summarize, List.filterMap_eq_nil_iff]
  intro action member
  have other := silent action member
  cases action with
  | transmitMsg hkTlm sequence => exact absurd other.symm Bool.false_ne_true
  | _ => rfl

/-- Of a whole run only the dispatcher transmits. -/
theorem transmitted_outcome (services : InitServices) (turns : List (Turn config)) (data : Data)
    (dispatched : List Action) :
    (summarize (outcome services turns ((init config services).run data).trace dispatched)).transmitted =
      if Initializes services then (summarize dispatched).transmitted else [] := by
  have startup := transmitted_of_silent (init_silent config services data)
  have loop : (summarize (receiveReport turns)).transmitted = [] := by
    rw [receiveReport]
    split_ifs
    · rfl
    · rfl
  rw [outcome, summarize_append]
  change _ ++ (summarize _).transmitted = _
  rw [startup, List.nil_append]
  split_ifs with initializes
  · rw [summarize_append]
    change _ ++ _ = _
    rw [loop, List.append_nil]
  · rfl

/-- From a cold start the cache of message IDs never shows. -/
theorem appActions_cold (config : Config) (services : InitServices) (turns : List (Turn config))
    (bus : SoftwareBus) (data : Data) :
    appActions (((Build.plain bus config).main services turns).run (.cold bus data)).trace =
      outcome services turns ((init config services).run data).trace
        ((runUncached (delivered turns)).run ((init config services).run data).state).trace := by
  have cold := coherent_cold bus config ((init config services).run data).state
  have started : ∀ replaced, (PlainState.cold bus replaced).data = replaced := fun _ => rfl
  have restarted : ∀ replaced, { PlainState.cold bus data with data := replaced } = .cold bus replaced :=
    fun _ => rfl
  rw [appActions_plain, started, restarted, (runPlain_simulates cold (delivered turns)).2, started]

section Builds

variable (services : InitServices) (turns : List (Turn config)) (data : Data)

theorem plain_reports (bus : SoftwareBus) :
    (summarize (appActions (((Build.plain bus config).main services turns).run
        (.cold bus data)).trace)).transmitted =
      if Initializes services then (plainAccount config).packets (delivered turns) else [] := by
  have balanced := Account.balanced_run plain_kept (init_zeroed config services data) (delivered turns)
  rw [appActions_cold, transmitted_outcome, runUncached, balanced.sent]

theorem eds_reports {codes : StatusCodes} {verdict : Message config.stringValLen → Verdict}
    (contract : GeneratedDispatch codes config verdict) :
    (summarize (appActions (((Build.eds codes config verdict).main services turns).run
        data).trace)).transmitted =
      if Initializes services then (edsAccount config).packets (delivered turns) else [] := by
  have balanced := Account.balanced_run (eds_kept contract) (init_zeroed config services data) (delivered turns)
  rw [appActions_eds, transmitted_outcome, runEds, balanced.sent]

end Builds

/-- In either build, a housekeeping packet is transmitted for every request the account names and at no
other time, and holds the account of the messages delivered before that request. -/
theorem application_reports (codes : StatusCodes) (config : Config)
    (verdict : Message config.stringValLen → Verdict) (contract : GeneratedDispatch codes config verdict)
    (bus : SoftwareBus) (services : InitServices) (turns : List (Turn config)) (data : Data) :
    let plain := (((Build.plain bus config).main services turns).run (.cold bus data)).trace
    let eds := (((Build.eds codes config verdict).main services turns).run data).trace
    (summarize (appActions plain)).transmitted =
        (if Initializes services then (plainAccount config).packets (delivered turns) else []) ∧
      (summarize (appActions eds)).transmitted =
        if Initializes services then (edsAccount config).packets (delivered turns) else [] :=
  ⟨plain_reports services turns data bus, eds_reports services turns data contract⟩

/-- A NOOP, a message with an unknown ID, a housekeeping request of wrong size and one of exact size. The
plain build answers both requests and has counted no error, the EDS build answers one and has counted two. -/
theorem application_reports_two_builds :
    let config : Config := ⟨0x1882, 0x1883, 0x883, 8, 16, 2⟩
    let bus : SoftwareBus := ⟨fun msgId => msgId != 0, 0, rfl⟩
    let services : InitServices := ⟨0, 0, 1, 0, 0, 0, 2, 0, ""⟩
    let turn (msgId : MsgId) (size : ℕ) : Turn config :=
      ⟨none, 0, ⟨⟨msgId, 0, size, ⟨0, 0, ⟨#[0, 0], rfl⟩⟩⟩, ⟨0, ⟨0, 0⟩, 0, 0, 0⟩⟩⟩
    let turns := [turn 0x1882 8, turn 0x1884 8, turn 0x1883 9, turn 0x1883 8]
    let verdict := referenceVerdict .documented config (-939524092)
    (summarize (appActions (((Build.plain bus config).main services turns).run
        (.cold bus .zero)).trace)).transmitted = [⟨1, 0, ⟨#[0, 0], rfl⟩⟩, ⟨1, 0, ⟨#[0, 0], rfl⟩⟩] ∧
      (summarize (appActions (((Build.eds .documented config verdict).main services turns).run
        .zero).trace)).transmitted = [⟨1, 2, ⟨#[0, 0], rfl⟩⟩] := by
  intro config bus services turn turns verdict
  have contract : GeneratedDispatch .documented config verdict :=
    referenceVerdict_generated _ _ (by decide) (by decide) (by decide)
  obtain ⟨plain, eds⟩ := application_reports .documented config verdict contract bus services turns .zero
  have initializes : Initializes services := by
    simp only [Initializes, initSteps, List.forall_mem_cons]
    exact ⟨rfl, rfl, rfl, rfl, rfl, rfl, fun _ member => absurd member List.not_mem_nil⟩
  rw [plain, eds, if_pos initializes, if_pos initializes]
  exact ⟨by decide, by decide⟩

end Application

section Drift

variable {codes : StatusCodes} {verdict : Message config.stringValLen → Verdict}

/-- Equal command counters, and error counters as far apart as the messages since the last reset say. -/
def Drifted (seen : List (Input config)) (plain eds : Data) : Prop :=
  eds.cmdCounter = plain.cmdCounter ∧
    eds.errCounter = plain.errCounter + UInt8.ofNat (tally resets overcounts seen)

theorem Drifted.snoc {seen : List (Input config)} {input : Input config}
    {plain eds plainAfter edsAfter : Data} {plainSent edsSent : List HkTlmPayload}
    (drifted : Drifted seen plain eds) (plainKept : (plainAccount config).Kept input plain plainAfter plainSent)
    (edsKept : (edsAccount config).Kept input eds edsAfter edsSent) :
    Drifted (seen ++ [input]) plainAfter edsAfter := by
  obtain ⟨commands, errors⟩ := drifted
  refine ⟨?_, ?_⟩
  · rw [plainKept.cmdCounter, edsKept.cmdCounter, commands]
    rfl
  · rw [plainKept.errCounter, edsKept.errCounter]
    exact count_drift resets fails (edsFails_toNat input) errors

/-- Fed the same messages from the same global data, the builds always hold equal command counters, and the
EDS build is ahead in errors by the number, modulo 256, of messages since the last reset that it alone
counts. -/
theorem error_drift (codes : StatusCodes) (config : Config)
    (verdict : Message config.stringValLen → Verdict) (contract : GeneratedDispatch codes config verdict)
    (bus : SoftwareBus) (data : Data) (inputs : List (Input config)) :
    Drifted inputs ((runPlain bus inputs).run (.cold bus data)).state.data
      ((runEds codes verdict inputs).run data).state := by
  rw [(runPlain_simulates (coherent_cold bus config data) inputs).1]
  induction inputs using List.reverseRecOn with
  | nil => exact ⟨rfl, (UInt8.add_zero _).symm⟩
  | append_singleton seen input ih =>
    obtain ⟨plainState, _⟩ := Exec.forEach_snoc
      (fun input : Input config => uncachedTaskPipe config input.services input.message) seen input data
    obtain ⟨edsState, _⟩ := Exec.forEach_snoc
      (fun input : Input config => edsTaskPipe codes config verdict input.services input.message)
      seen input data
    unfold runUncached runEds at ih ⊢
    change Drifted _ ((Exec.forEach _ _).run data).state _
    rw [plainState, edsState]
    exact ih.snoc (plain_kept input _) (eds_kept contract input _)

/-- Two messages with an unknown ID, a reset and another one: only the last still shows. -/
theorem error_drift_after_reset :
    let config : Config := ⟨0x1882, 0x1883, 0x883, 8, 16, 2⟩
    let bus : SoftwareBus := ⟨fun msgId => msgId != 0, 0, rfl⟩
    let input (msgId : MsgId) (fcnCode : UInt16) : Input config :=
      ⟨⟨msgId, fcnCode, 8, ⟨0, 0, ⟨#[0, 0], rfl⟩⟩⟩, ⟨0, ⟨0, 0⟩, 0, 0, 0⟩⟩
    let inputs := [input 0x1884 0, input 0x1884 0, input 0x1882 1, input 0x1884 0]
    ((runEds .documented (referenceVerdict .documented config (-939524092)) inputs).run
        .zero).state.errCounter =
      ((runPlain bus inputs).run (.cold bus .zero)).state.data.errCounter + 1 := by
  intro config bus input inputs
  have contract : GeneratedDispatch .documented config (referenceVerdict .documented config (-939524092)) :=
    referenceVerdict_generated _ _ (by decide) (by decide) (by decide)
  exact (error_drift .documented config _ contract bus .zero inputs).2

end Drift

end FprimeGds.Soundness.Accounting
