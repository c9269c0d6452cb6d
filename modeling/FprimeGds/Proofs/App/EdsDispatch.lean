import FprimeGds.Proofs.App.Handlers

/-! # What the EDS dispatcher makes of one message

A verdict comes with a status: the one of the rejection, or the one the called handler returns. Any
status but success is counted and reported, whichever of the two it came from.
-/

namespace FprimeGds.Proofs.App

open Machine Model Model.Cfe Model.App

/-- The status `EdsDispatch` returns. -/
def verdictStatus (services : TblServices) : Verdict → Status
  | .reject status => status
  | .indicate handler => handler.status services

/-- The global data when `EdsDispatch` returns. -/
def verdictUpdate (data : Data) : Verdict → Data
  | .reject _ => data
  | .indicate handler => handler.update data

/-- What can be observed of `EdsDispatch`. -/
def verdictSummary (data : Data) : Verdict → Summary
  | .reject _ => .empty
  | .indicate handler => handler.summary data

/-- The event that reports a status. -/
def complaintEid (codes : StatusCodes) (status : Status) : ℕ :=
  if status = codes.unknownMsgId then midErrEid
  else if status = codes.wrongMsgLength then cmdLenErrEid
  else ccErrEid

/-- What the dispatcher adds for a status that is not success. -/
def complaint (codes : StatusCodes) (status : Status) : Summary :=
  if status = success then .empty else ⟨[], [.errCounter], [complaintEid codes status], []⟩

def countComplaint (status : Status) (data : Data) : Data :=
  if status = success then data else { data with errCounter := data.errCounter + 1 }

variable (codes : StatusCodes) {config : Config} (verdict : Message config.stringValLen → Verdict)
  (services : TblServices) (message : Message config.stringValLen) (data : Data)

theorem edsDispatch_run :
    let ran := (edsDispatch config verdict services message).run data
    ran.value = verdictStatus services (verdict message) ∧
      ran.state = verdictUpdate data (verdict message) ∧
      summarize ran.trace = verdictSummary data (verdict message) := by
  unfold edsDispatch
  cases verdict message with
  | reject status => exact ⟨rfl, rfl, rfl⟩
  | indicate handler => exact dispatchTable_run config services message handler data

/-- The status alone decides what is added. -/
theorem edsTaskPipe_run :
    let ran := (edsTaskPipe codes config verdict services message).run data
    let status := verdictStatus services (verdict message)
    ran.state = countComplaint status (verdictUpdate data (verdict message)) ∧
      summarize ran.trace = verdictSummary data (verdict message) ++ complaint codes status := by
  intro ran status
  obtain ⟨value, state, summary⟩ := edsDispatch_run verdict services message data
  simp only [ran, edsTaskPipe, Exec.run_bind, summarize_append, value, state, summary]
  by_cases ok : status = success
  · rw [countComplaint, complaint, if_pos ok, if_pos ok, if_neg (not_not.mpr ok)]
    exact ⟨rfl, rfl⟩
  · rw [countComplaint, complaint, complaintEid, if_neg ok, if_neg ok, if_pos ok]
    split_ifs
    · exact ⟨rfl, rfl⟩
    · exact ⟨rfl, rfl⟩
    · exact ⟨rfl, rfl⟩

end FprimeGds.Proofs.App
