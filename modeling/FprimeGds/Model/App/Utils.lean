import FprimeGds.Model.App.Data

/-! # The utility functions

`fprime_gds_utils.c` holds the check table services make of an image before they activate it, which is
handed to them when the table is registered, and the report of a table's CRC.
-/

namespace FprimeGds.Model.App

open Cfe Machine

/-- `FPRIME_GDS_PLATFORM_TBL_ELEMENT_1_MAX`. -/
def tblElement1Max : ℕ := 10

/-- `FPRIME_GDS_PLATFORM_TABLE_OUT_OF_RANGE_ERR_CODE`. -/
def tableOutOfRangeErrCode : Status := -1

def tblValidationFunc (table : ExampleTable) : Status :=
  if tblElement1Max < table.int1.toNat then tableOutOfRangeErrCode else success

/-- Call the function a table was registered with. -/
def TblCallback.call : TblCallback → ExampleTable → Status
  | .tblValidationFunc => App.tblValidationFunc

/-- The table image that is shipped. -/
def exampleTable : ExampleTable := ⟨1, 2⟩

/-- Tables whose first value is in range pass the check, and no others. -/
theorem tblValidationFunc_eq_success_iff (table : ExampleTable) :
    tblValidationFunc table = success ↔ table.int1.toNat ≤ tblElement1Max := by
  unfold tblValidationFunc
  split_ifs with beyond
  · exact iff_of_false (by decide) (not_le.mpr beyond)
  · exact iff_of_true rfl (not_lt.mp beyond)

example : tblValidationFunc exampleTable = success := by decide

/-- Report the CRC of a table. -/
def getCrc (services : TblServices) (tableName : String) : AppExec Unit := do
  Exec.perform (.tblGetInfo tableName)
  if services.getInfo ≠ success then
    writeToSysLog "Sample App: Error Getting Example Table Info" []
  else
    writeToSysLog "Sample App: CRC: 0x%08lX\n\n" [.number services.crc.toNat]

end FprimeGds.Model.App
