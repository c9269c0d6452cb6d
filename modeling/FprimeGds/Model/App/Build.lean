import FprimeGds.Model.App.EdsDispatch

/-! # The two builds of the C application

`CMakeLists.txt` compiles the same `fprime_gds.c`, `fprime_gds_cmds.c` and `fprime_gds_utils.c` into both
builds and adds one of the two dispatchers. A build is therefore a dispatcher together with the state it
works on, which contains the global data.
-/

namespace FprimeGds.Model.App

open Cfe Machine

/-- A `FPRIME_GDS_TaskPipe`, and how the global data lie in its state. -/
structure Build (config : Config) (σ : Type) where
  data : σ → Data
  setData : Data → σ → σ
  data_setData : ∀ replaced state, data (setData replaced state) = replaced
  setData_data : ∀ state, setData (data state) state = state
  taskPipe : TblServices → Message config.stringValLen → Exec σ Action Unit

namespace Build

/-- `fprime_gds_dispatch.c` is compiled. -/
def plain (bus : SoftwareBus) (config : Config) : Build config PlainState where
  data := PlainState.data
  setData data state := { state with data := data }
  data_setData _ _ := rfl
  setData_data _ := rfl
  taskPipe := App.taskPipe bus config

/-- `fprime_gds_eds_dispatch.c` is compiled: `CFE_EDS_ENABLED`. -/
def eds (codes : StatusCodes) (config : Config) (verdict : Message config.stringValLen → Verdict) :
    Build config Data where
  data data := data
  setData data _ := data
  data_setData _ _ := rfl
  setData_data _ := rfl
  taskPipe := edsTaskPipe codes config verdict

/-- The EDS build has no state beside the global data. -/
theorem setData_eds {config : Config} (codes : StatusCodes)
    (verdict : Message config.stringValLen → Verdict) (replaced data : Data) :
    (eds codes config verdict).setData replaced data = replaced := rfl

end Build

end FprimeGds.Model.App
