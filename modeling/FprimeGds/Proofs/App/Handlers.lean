import FprimeGds.Model.App.Disposition
import FprimeGds.Model.App.EdsDispatch

/-! # What each command handler does

One equation per handler for its status, its effect on the global data and what it lets be observed.
-/

namespace FprimeGds.Proofs.App

open Machine Model Model.Cfe Model.App

theorem getCrc_run (services : TblServices) (tableName : String) (data : Data) :
    ((getCrc services tableName).run data).state = data ∧
      summarize ((getCrc services tableName).run data).trace = .empty := by
  unfold getCrc
  split_ifs <;> exact ⟨rfl, rfl⟩

/-- The increment precedes every table service, so it happens whatever they answer. -/
theorem processCmd_run (services : TblServices) (data : Data) :
    ((processCmd services).run data).value = Handler.processCmd.status services ∧
      ((processCmd services).run data).state = Handler.processCmd.update data ∧
      summarize ((processCmd services).run data).trace = Handler.processCmd.summary data := by
  unfold processCmd Handler.status
  simp only [Exec.run_bind, Exec.run_ite, run_enter, run_incrementCmdCounter, Exec.run_get,
    Exec.run_perform, run_writeToSysLog, Exec.run_pure]
  split_ifs with failed unreleased
  · exact ⟨rfl, rfl, rfl⟩
  all_goals
    refine ⟨rfl, (getCrc_run services ..).1, ?_⟩
    simp only [summarize_append, (getCrc_run services ..).2]
    rfl

/-- Every entry of the dispatch table. -/
theorem dispatchTable_run (config : Config) (services : TblServices)
    (message : Message config.stringValLen) (handler : Handler) (data : Data) :
    ((sampleTcDispatchTable config services message handler).run data).value = handler.status services ∧
      ((sampleTcDispatchTable config services message handler).run data).state = handler.update data ∧
      summarize ((sampleTcDispatchTable config services message handler).run data).trace =
        handler.summary data := by
  cases handler with
  | processCmd => exact processCmd_run services data
  | sendHkCmd | noopCmd | resetCountersCmd | displayParamCmd => exact ⟨rfl, rfl, rfl⟩

/-- PROCESS succeeds if the table's address is there and can be given back. -/
theorem processStatus_eq_success_iff (services : TblServices) :
    Handler.processCmd.status services = success ↔
      success ≤ services.getAddress ∧ services.releaseAddress = success := by
  unfold Handler.status
  split_ifs with failed
  · refine iff_of_false (Int32.ne_of_lt failed) ?_
    rintro ⟨found, _⟩
    exact absurd failed (Int32.not_lt.mpr found)
  · exact (and_iff_right (Int32.not_lt.mp failed)).symm

end FprimeGds.Proofs.App
