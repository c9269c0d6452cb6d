import FprimeGds.Proofs.App.Account
import FprimeGds.Proofs.App.Dispatch

/-! # Telemetered counters over whole runs

Ground commands of exact size count as commands, those of wrong size as errors, and a reset of exact size
starts both counts over. The step lemma says that the plain dispatcher keeps this account of one message,
so after any messages a housekeeping packet reports the exact history up to the request that caused it.
-/

namespace FprimeGds.Soundness.Housekeeping

open Machine Model Model.App Proofs.App

variable {config : Config}

/-- A ground command of exact size for this handler. -/
def executes (handler : Handler) (input : Input config) : Bool :=
  input.message.msgId == config.cmdMid && groundHandler input.message.fcnCode == some handler &&
    input.message.size == config.sizeOf handler

/-- NOOP, PROCESS or DISPLAY_PARAM of exact size. -/
def counts (input : Input config) : Bool :=
  executes .noopCmd input || executes .processCmd input || executes .displayParamCmd input

/-- RESET_COUNTERS of exact size. -/
def resets (input : Input config) : Bool := executes .resetCountersCmd input

/-- A ground command with one of the four codes and a wrong size. -/
def fails (input : Input config) : Bool :=
  input.message.msgId == config.cmdMid &&
    (groundHandler input.message.fcnCode).any fun handler =>
      input.message.size != config.sizeOf handler

def requestsHk (input : Input config) : Bool := input.message.msgId == config.sendHkMid

/-- What is counted and reported; each count starts over with a reset. -/
def account (config : Config) : Account config where
  resets := resets
  counts := counts
  fails := fails
  requests := requestsHk

/-- One packet for every housekeeping request, about the messages before it. -/
def reports (inputs : List (Input config)) : List HkTlmPayload := (account config).packets inputs

/-! ## One message -/

/-- One message, through the global data and the packets transmitted. -/
theorem counters_step (distinct : config.cmdMid ≠ config.sendHkMid) (input : Input config)
    (data : Data) :
    let outcome := disposition config input.message
    (outcome.update data).cmdCounter = (if resets input then 0
      else if counts input then data.cmdCounter + 1 else data.cmdCounter) ∧
    (outcome.update data).errCounter = (if resets input then 0
      else if fails input then data.errCounter + 1 else data.errCounter) ∧
    (outcome.update data).hkTlm.spare = data.hkTlm.spare ∧
    (outcome.summary data).transmitted = if requestsHk input
      then [⟨data.cmdCounter, data.errCounter, data.hkTlm.spare⟩] else [] := by
  obtain ⟨message, services⟩ := input
  unfold disposition requestsHk counts resets fails executes
  by_cases housekeeping : message.msgId = config.sendHkMid
  · have other : config.sendHkMid ≠ config.cmdMid := distinct.symm
    simp [housekeeping, other, Disposition.update, Disposition.summary, Handler.update, Handler.summary]
  by_cases command : message.msgId = config.cmdMid
  · cases code : groundHandler message.fcnCode with
    | none => simp [command, distinct, Disposition.update, Disposition.summary]
    | some handler =>
      by_cases exact : config.sizeOf handler = message.size
      · cases handler with
        | sendHkCmd => exact absurd code (groundHandler_ne_sendHkCmd _)
        | noopCmd | resetCountersCmd | processCmd | displayParamCmd =>
          simp [command, distinct, Disposition.update, Disposition.summary, Handler.update,
            Handler.summary, exact]
      · have wrong : message.size ≠ config.sizeOf handler := fun same => exact same.symm
        cases handler with
        | sendHkCmd => exact absurd code (groundHandler_ne_sendHkCmd _)
        | noopCmd | resetCountersCmd | processCmd | displayParamCmd =>
          simp [command, distinct, Disposition.update, Disposition.summary, exact, wrong]
  · simp [housekeeping, command, Disposition.update, Disposition.summary]

/-! ## Whole runs -/

/-- The plain dispatcher keeps the account. -/
theorem uncachedTaskPipe_kept (distinct : config.cmdMid ≠ config.sendHkMid) (input : Input config)
    (data : Data) :
    let ran := (uncachedTaskPipe config input.services input.message).run data
    (account config).Kept input data ran.state (summarize ran.trace).transmitted := by
  intro ran
  obtain ⟨states, summary⟩ := uncachedTaskPipe_run input.services input.message data
  obtain ⟨cmdCounter, errCounter, spare, transmitted⟩ := counters_step distinct input data
  rw [states, summary]
  exact ⟨cmdCounter, errCounter, spare, transmitted⟩

theorem transmitted_of_zeroed (bus : SoftwareBus) (distinct : config.cmdMid ≠ config.sendHkMid)
    {data : Data} (zeroed : Zeroed data) (inputs : List (Input config)) :
    (summarize ((runPlain bus inputs).run (.cold bus data)).trace).transmitted = reports inputs := by
  rw [(runPlain_simulates (coherent_cold bus config data) inputs).2]
  exact (Account.balanced_run (uncachedTaskPipe_kept distinct) zeroed inputs).sent

/-- From the state initialization leaves, whatever it met, the plain dispatcher transmits exactly one
housekeeping packet per request, and each reports the commands since the last reset modulo 256. -/
theorem housekeeping_exact (bus : SoftwareBus) (config : Config)
    (distinct : config.cmdMid ≠ config.sendHkMid) (services : InitServices) (before : Data)
    (inputs : List (Input config)) :
    (summarize ((runPlain bus inputs).run
      (.cold bus ((init config services).run before).state)).trace).transmitted = reports inputs :=
  transmitted_of_zeroed bus distinct (init_zeroed config services before) inputs

/-- Two commands, one of which failed to get its table, a reset of wrong size, a report, a reset and
another report. -/
theorem housekeeping_exact_two_reports :
    let config : Config := ⟨0x1882, 0x1883, 0x883, 8, 16, 2⟩
    let bus : SoftwareBus := ⟨fun msgId => msgId != 0, 0, rfl⟩
    let payload : DisplayParamPayload 2 := ⟨0, 0, ⟨#[0, 0], rfl⟩⟩
    let input (msgId : MsgId) (fcnCode : UInt16) (size : ℕ) : Input config :=
      ⟨⟨msgId, fcnCode, size, payload⟩, ⟨-1, ⟨0, 0⟩, 0, 0, 0⟩⟩
    let inputs := [input 0x1882 0 8, input 0x1882 2 8, input 0x1882 1 9, input 0x1883 0 8,
      input 0x1882 1 8, input 0x1883 0 8]
    (summarize ((runPlain bus inputs).run (.cold bus
      ((init config ⟨0, 0, 1, 0, 0, 0, 2, 0, ""⟩).run .zero).state)).trace).transmitted =
        [⟨2, 1, ⟨#[0, 0], rfl⟩⟩, ⟨0, 0, ⟨#[0, 0], rfl⟩⟩] := by
  intro config bus payload input inputs
  rw [housekeeping_exact bus config (by decide)]
  decide

end FprimeGds.Soundness.Housekeeping
