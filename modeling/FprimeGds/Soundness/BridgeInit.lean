import FprimeGds.Proofs.Bridge.Main

/-! # Bridge initialization is all or nothing

Where the first call fails decides everything initialization does: which calls are made, what is
reported and what is returned. The topology is touched only where no call fails. The table of APIDs
may be any list, and the calls may answer anything.
-/

namespace FprimeGds.Soundness.BridgeInit

open Machine Model Model.Cfe Model.Bridge Proofs.Bridge

/-- The call tells an operator something. -/
def isReport : Action → Bool
  | .writeToSysLog _ => true
  | .sendEvent _ => true
  | _ => false

/-- The call belongs to bringing the topology up. -/
def isBringUp : Action → Bool
  | .installDeleteHandler => true
  | .enter _ => true
  | .topology _ => true
  | .leave _ => true
  | _ => false

/-- `FPRIME_GDS_INIT_INF_EID`. -/
def announcement (services : InitServices) : Action :=
  .sendEvent ⟨initInfEid, .information, "F Prime GDS App Initialized.%s",
    [.string services.versionString]⟩

section Classified

variable (services : InitServices) (apids : List Apid) (inputs : TopologyState)

/-- The attempts are neither reports nor part of bringing up; what is made of a failure is a report. -/
theorem attempts_classified : ∀ attempt ∈ attempts services apids,
    isReport attempt.call = false ∧ isBringUp attempt.call = false ∧
      isReport attempt.report = true ∧ isBringUp attempt.report = false :=
  forall_attempts services ⟨rfl, rfl, rfl, rfl⟩ ⟨rfl, rfl, rfl, rfl⟩ (fun _ => ⟨rfl, rfl, rfl, rfl⟩) apids

theorem setupTopology_reports (state : TopologyState) :
    ((setupTopology inputs).run state).trace.filter isReport = [] := by
  obtain ⟨body, calls, same⟩ := setupTopology_body inputs
  have quiet : Exec.Performs (fun action => isReport action = false) (within .setupTopology body) :=
    .bind (.perform rfl) fun _ => .bind (calls.mono fun action ⟨call, same⟩ => same ▸ rfl) fun _ =>
      .perform rfl
  rw [same]
  exact quiet.filter_trace state

end Classified

/-- Every call is made and succeeds: the bridge is brought up, and announced. -/
structure BroughtUp (services : InitServices) (apids : List Apid) (inputs state : TopologyState)
    (ran : Ran TopologyState Action Status) : Prop where
  value : ran.value = success
  trace : ran.trace = (attempts services apids).map Attempt.call ++ [.installDeleteHandler] ++
    ((setupTopology inputs).run state).trace ++ [announcement services]
  reports : ran.trace.filter isReport = [announcement services]

/-- Calls succeed up to one that fails. It is the last, its answer is returned, and the only report is
about it. -/
structure Blamed (services : InitServices) (apids : List Apid) (ran : Ran TopologyState Action Status)
    (before : List (Attempt Action Status)) (failed : Attempt Action Status) : Prop where
  isFirst : before ++ [failed] <+: attempts services apids
  all : Attempt.AllGood success before
  bad : failed.answer ≠ success
  value : ran.value = failed.answer
  trace : ran.trace = before.map Attempt.call ++ [failed.call] ++ [failed.report]
  reports : ran.trace.filter isReport = [failed.report]
  down : ran.trace.filter isBringUp = []

section Outcomes

variable {services : InitServices} {apids : List Apid}

theorem init_broughtUp (all : Attempt.AllGood success (attempts services apids))
    (inputs state : TopologyState) :
    BroughtUp services apids inputs state ((init services apids inputs).run state) := by
  have raised : ((bringUp services inputs).run state).trace =
      [.installDeleteHandler] ++ ((setupTopology inputs).run state).trace ++ [announcement services] := rfl
  rw [init_run_good inputs state all, raised]
  refine ⟨rfl, ?_, ?_⟩
  · simp only [List.append_assoc]
  · rw [List.filter_append, Attempt.filter_calls fun attempt member =>
        (attempts_classified services apids attempt member).1,
      List.filter_append, List.filter_append, setupTopology_reports]
    rfl

theorem init_blamed (some : ¬ Attempt.AllGood success (attempts services apids))
    (inputs state : TopologyState) :
    ∃ before failed, Blamed services apids ((init services apids inputs).run state) before failed := by
  obtain ⟨before, failed, after, split, all, bad⟩ := Attempt.exists_first_failure some
  have isFirst : before ++ [failed] <+: attempts services apids := by
    refine ⟨after, ?_⟩
    rw [split, List.append_assoc, List.singleton_append]
  have classified := attempts_classified services apids
  rw [split, List.forall_mem_append, List.forall_mem_cons] at classified
  obtain ⟨earlier, atFailed, -⟩ := classified
  rw [init_run_bad inputs state split all bad]
  refine ⟨before, failed, isFirst, all, bad, rfl, ?_, ?_, ?_⟩
  · rw [List.append_assoc]
    rfl
  · rw [List.filter_append, Attempt.filter_calls fun attempt member => (earlier attempt member).1,
      List.filter_cons_of_neg (Bool.eq_false_iff.mp atFailed.1), List.filter_cons_of_pos atFailed.2.2.1]
    rfl
  · rw [List.filter_append, Attempt.filter_calls fun attempt member => (earlier attempt member).2.1,
      List.filter_cons_of_neg (Bool.eq_false_iff.mp atFailed.2.1),
      List.filter_cons_of_neg (Bool.eq_false_iff.mp atFailed.2.2.2)]
    rfl

end Outcomes

/-- Initialization either makes all its calls and brings the bridge up, or stops at the first failure,
returns its status and reports it and nothing else. -/
theorem init_all_or_nothing (services : InitServices) (apids : List Apid)
    (inputs state : TopologyState) :
    let ran := (init services apids inputs).run state
    if Attempt.AllGood success (attempts services apids) then
      BroughtUp services apids inputs state ran
    else ∃ before failed, Blamed services apids ran before failed := by
  intro ran
  split_ifs with all
  · exact init_broughtUp all inputs state
  · exact init_blamed all inputs state

end FprimeGds.Soundness.BridgeInit
