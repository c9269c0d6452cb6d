import FprimeGds.Machine.Tally
import FprimeGds.Model.App.Disposition
import FprimeGds.Model.App.Dispatch
import FprimeGds.Proofs.App.Init

/-! # Accounts of the counters

The counters are eight bits wide, but what they stand for is counted without bound: messages since the
last reset. An account says which messages those are. A dispatcher that keeps it message by message keeps
it over whole runs, and every housekeeping packet reports the exact history up to its request.
-/

namespace FprimeGds.Proofs.App

open Machine Model Model.App

variable {config : Config}

/-- Of each message: whether it resets the counters, counts as a command, counts as an error and is
answered with a housekeeping packet. -/
structure Account (config : Config) where
  resets : Input config → Bool
  counts : Input config → Bool
  fails : Input config → Bool
  requests : Input config → Bool

namespace Account

variable (account : Account config)

/-- A housekeeping packet after these messages: what was counted since the last reset, modulo 256. -/
def packet (seen : List (Input config)) : HkTlmPayload where
  commandCounter := UInt8.ofNat (tally account.resets account.counts seen)
  commandErrorCounter := UInt8.ofNat (tally account.resets account.fails seen)
  spare := HkTlmPayload.zero.spare

/-- All packets of a run, each about the messages before its request. -/
def packets (inputs : List (Input config)) : List HkTlmPayload := answers account.requests account.packet inputs

/-- One message, kept account of. -/
structure Kept (input : Input config) (before after : Data) (sent : List HkTlmPayload) : Prop where
  cmdCounter : after.cmdCounter = count account.resets account.counts before.cmdCounter input
  errCounter : after.errCounter = count account.resets account.fails before.errCounter input
  spare : after.hkTlm.spare = before.hkTlm.spare
  sent : sent = if account.requests input
    then [⟨before.cmdCounter, before.errCounter, before.hkTlm.spare⟩] else []

/-- A whole run, kept account of. -/
structure Balanced (seen : List (Input config)) (data : Data) (sent : List HkTlmPayload) : Prop where
  cmdCounter : data.cmdCounter = (account.packet seen).commandCounter
  errCounter : data.errCounter = (account.packet seen).commandErrorCounter
  spare : data.hkTlm.spare = HkTlmPayload.zero.spare
  sent : sent = account.packets seen

variable {account}

theorem balanced_nil {data : Data} (zeroed : Zeroed data) : account.Balanced [] data [] := by
  obtain ⟨cmdCounter, errCounter, hkTlm⟩ := zeroed
  exact ⟨cmdCounter, errCounter, congrArg HkTlmPayload.spare hkTlm, rfl⟩

theorem Balanced.snoc {seen : List (Input config)} {before after : Data} {sent more : List HkTlmPayload}
    (balanced : account.Balanced seen before sent) {input : Input config}
    (kept : account.Kept input before after more) :
    account.Balanced (seen ++ [input]) after (sent ++ more) := by
  refine ⟨?_, ?_, ?_, ?_⟩
  · rw [kept.cmdCounter, balanced.cmdCounter]
    exact count_tally account.resets account.counts seen input
  · rw [kept.errCounter, balanced.errCounter]
    exact count_tally account.resets account.fails seen input
  · rw [kept.spare, balanced.spare]
  · rw [packets, answers_snoc, kept.sent, balanced.sent, balanced.cmdCounter, balanced.errCounter,
      balanced.spare]
    rfl

/-- Step by step, a dispatcher that keeps an account keeps it over a whole run. -/
theorem balanced_run {step : Input config → AppExec Unit}
    (kept : ∀ input data, account.Kept input data ((step input).run data).state
      (summarize ((step input).run data).trace).transmitted)
    {data : Data} (zeroed : Zeroed data) (inputs : List (Input config)) :
    account.Balanced inputs ((Exec.forEach step inputs).run data).state
      (summarize ((Exec.forEach step inputs).run data).trace).transmitted := by
  apply Exec.forEach_history step fun seen data trace =>
    account.Balanced seen data (summarize trace).transmitted
  · exact balanced_nil zeroed
  · intro seen input data trace balanced
    rw [summarize_append]
    exact balanced.snoc (kept input data)

end Account

end FprimeGds.Proofs.App
