import Mathlib.Data.List.GetD
import FprimeGds.Machine.Attempt
import FprimeGds.Model.Bridge.Main

/-! # Initialization of the bridge as a sequence of attempts

Registration, configuration and one subscription for each APID are attempts of the same kind, although
the code writes them as a branch and a loop with one report after it. The loop keeps the index of its
last call apart from its counter. That is the index to report, since the loop stops at the first
failure.
-/

namespace FprimeGds.Proofs.Bridge

open Machine Model Model.Cfe Model.Bridge

variable (services : InitServices)

def registration : Attempt Action Status where
  call := .evsRegister
  answer := services.evsRegister
  report := .writeToSysLog ⟨"F Prime GDS App: Error Registering Events, RC = 0x%08lX\n",
    [.number services.evsRegister.toUnsignedLong]⟩

def configuration : Attempt Action Status where
  call := .configure 32 "FPRIME_GDS_CMD_PIPE" true true
  answer := services.configure
  report := .sendEvent ⟨pipeErrEid, .error,
    "F Prime GDS App: Error creating SB Command Pipe, RC = 0x%08lX",
    [.number services.configure.toUnsignedLong]⟩

/-- The subscription to the APID at one position of the table. Its report names that APID. -/
def subscription (entry : Apid × ℕ) : Attempt Action Status where
  call := .subscribeCfs entry.1 .telemetry
  answer := services.subscribeCfs entry.2
  report := .sendEvent ⟨subscribeErrEid, .error,
    "F Prime GDS App: Error subscribing to APID 0x%04X, RC = 0x%08lX",
    [.number entry.1.toNat, .number (services.subscribeCfs entry.2).toUnsignedLong]⟩

/-- All calls that may fail, in the order they are made. -/
def attempts (apids : List Apid) : List (Attempt Action Status) :=
  [registration services, configuration services] ++ apids.zipIdx.map (subscription services)

/-- What is said of all attempts is said of three kinds. -/
theorem forall_attempts {property : Attempt Action Status → Prop}
    (registered : property (registration services)) (configured : property (configuration services))
    (subscribed : ∀ entry, property (subscription services entry)) (apids : List Apid) :
    ∀ attempt ∈ attempts services apids, property attempt := by
  intro attempt member
  rcases List.mem_append.mp member with first | downlink
  · rcases List.mem_pair.mp first with rfl | rfl
    · exact registered
    · exact configured
  · obtain ⟨entry, _, rfl⟩ := List.mem_map.mp downlink
    exact subscribed entry

theorem registerEvents_eq : registerEvents services =
    Attempt.performAll success [registration services, configuration services] := by
  unfold registerEvents
  by_cases registered : services.evsRegister = success
  · rw [Attempt.performAll_cons_good registered, if_neg (not_not.mpr registered)]
    by_cases configured : services.configure = success
    · rw [Attempt.performAll_cons_good configured, ifFailure, if_neg (not_not.mpr configured),
        Exec.pure_bind, configured]
      rfl
    · rw [Attempt.performAll_cons_bad configured, ifFailure, if_pos configured]
      rfl
  · rw [Attempt.performAll_cons_bad registered, if_pos registered]
    rfl

/-- After a failure the loop changes neither variable any more. -/
theorem subscribeFrom_stops {status : Status} (failed : status ≠ success) (rest : List Apid)
    (i failedIndex : ℕ) :
    subscribeFrom services rest i failedIndex status = return (failedIndex, status) := by
  cases rest with
  | nil => rfl
  | cons apid rest => rw [subscribeFrom, if_neg failed]

/-- What follows the loop. -/
def reportSubscription (apids : List Apid) (ended : ℕ × Status) : BridgeExec Status := do
  ifFailure ended.2 (sendEvent subscribeErrEid .error
    "F Prime GDS App: Error subscribing to APID 0x%04X, RC = 0x%08lX"
    [.number (apids.getD ended.1 0).toNat, .number ended.2.toUnsignedLong])
  return ended.2

/-- The loop from any point it is reached at, where all calls so far have succeeded. -/
theorem subscribeFrom_eq (done rest : List Apid) (failedIndex : ℕ) :
    subscribeFrom services rest done.length failedIndex success >>= reportSubscription (done ++ rest) =
      Attempt.performAll success ((rest.zipIdx done.length).map (subscription services)) := by
  induction rest generalizing done failedIndex with
  | nil => rfl
  | cons apid rest ih =>
    rw [subscribeFrom, if_pos rfl, List.zipIdx_cons, List.map_cons, Exec.bind_assoc]
    by_cases subscribed : services.subscribeCfs done.length = success
    · have next := ih (done ++ [apid]) done.length
      rw [List.length_append, List.length_singleton, List.append_assoc] at next
      rw [Attempt.performAll_cons_good subscribed, subscribed, ← next]
      rfl
    · have named : (done ++ apid :: rest).getD done.length 0 = apid := by
        rw [List.getD_append_right _ _ _ _ (Nat.le_refl _), Nat.sub_self, List.getD_cons_zero]
      rw [Attempt.performAll_cons_bad subscribed, subscribeFrom_stops services subscribed,
        Exec.pure_bind, reportSubscription, ifFailure, if_pos subscribed, named]
      rfl

theorem subscribeAll_eq (apids : List Apid) : subscribeAll services apids =
    Attempt.performAll success (apids.zipIdx.map (subscription services)) :=
  subscribeFrom_eq services [] apids 0

/-- Initialization tries everything and, if nothing failed, brings the bridge up. -/
theorem init_eq (apids : List Apid) (inputs : TopologyState) : init services apids inputs = (do
    let status ← Attempt.performAll success (attempts services apids)
    ifSuccess status do
      bringUp services inputs
      return status) := by
  rw [attempts, Attempt.performAll_append, ← registerEvents_eq, ← subscribeAll_eq, Exec.bind_assoc]
  rfl

section Run

variable {services} {apids : List Apid} (inputs state : TopologyState)

theorem init_run_good (all : Attempt.AllGood success (attempts services apids)) :
    (init services apids inputs).run state =
      ⟨success, ((bringUp services inputs).run state).state,
        (attempts services apids).map Attempt.call ++ ((bringUp services inputs).run state).trace⟩ := by
  rw [init_eq, Exec.run_bind, Attempt.run_performAll_good state all, ifSuccess, if_pos rfl]
  simp only [Exec.run_bind, Exec.run_pure, List.append_nil]

theorem init_run_bad {before after : List (Attempt Action Status)} {failed : Attempt Action Status}
    (split : attempts services apids = before ++ failed :: after)
    (all : Attempt.AllGood success before) (bad : failed.answer ≠ success) :
    (init services apids inputs).run state =
      ⟨failed.answer, state, before.map Attempt.call ++ [failed.call, failed.report]⟩ := by
  rw [init_eq, Exec.run_bind, split, Attempt.run_performAll_bad state all bad, ifSuccess, if_neg bad,
    Exec.run_pure, List.append_nil]

theorem init_value_iff : ((init services apids inputs).run state).value = success ↔
    Attempt.AllGood success (attempts services apids) := by
  by_cases all : Attempt.AllGood success (attempts services apids)
  · rw [init_run_good inputs state all]
    exact iff_of_true rfl all
  · obtain ⟨before, failed, after, split, good, bad⟩ := Attempt.exists_first_failure all
    rw [init_run_bad inputs state split good bad]
    exact iff_of_false bad all

end Run

end FprimeGds.Proofs.Bridge
