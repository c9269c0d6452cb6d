import FprimeGds.Soundness.Memoryless

/-! # Starting again

cFE may start an application again without loading it again, and then its globals and statics are as the
last run left them. Initialization zeroes the global data, and what the plain dispatcher keeps in statics
never shows. So every run is as the first one, and what is proved of a cold start holds of each.
-/

namespace FprimeGds.Soundness.Restarts

open Machine Model Model.Cfe Model.App Proofs.App Memoryless

/-! ## What a build keeps beside the global data -/

section Builds

variable {config : Config} {σ : Type} (build : Build config σ) (kept : σ → Prop)

/-- States with the same global data, whatever else they hold. -/
def Together (first second : σ) : Prop := (kept first ∧ kept second) ∧ build.data first = build.data second

/-- The dispatcher does not show what else they hold. -/
structure Hides : Prop where
  setData : ∀ data state, kept state → kept (build.setData data state)
  taskPipe : ∀ services message, Exec.Alike id (Together build kept) (build.taskPipe services message)
    (build.taskPipe services message)

variable {build kept}

theorem Hides.together_setData (hides : Hides build kept) {first second : σ} (data : Data)
    (begun : kept first ∧ kept second) :
    Together build kept (build.setData data first) (build.setData data second) := by
  refine ⟨⟨hides.setData data first begun.1, hides.setData data second begun.2⟩, ?_⟩
  rw [build.data_setData, build.data_setData]

theorem Hides.setRunStatus (hides : Hides build kept) (status : RunStatus) :
    Exec.Alike id (Together build kept) (build.setRunStatus status) (build.setRunStatus status) := by
  apply Exec.Alike.modify
  rintro first second ⟨begun, same⟩
  rw [same]
  exact hides.together_setData _ begun

theorem Hides.call (hides : Hides build kept) {α : Type} (function : AppExec α) :
    Exec.Alike id (Together build kept) (build.call function) (build.call function) := by
  rintro first second ⟨begun, same⟩
  unfold Build.call
  rw [Exec.run_relabel, Exec.run_within, Exec.run_relabel, Exec.run_within, same]
  exact ⟨rfl, hides.together_setData _ begun, rfl⟩

theorem Hides.receiveAndDispatch (hides : Hides build kept) (turn : Turn config) :
    Exec.Alike id (Together build kept) (build.receiveAndDispatch turn) (build.receiveAndDispatch turn) := by
  have shown (action : Action) : id (.app action : MainAction config) = .app (id action) := rfl
  refine .bind (.perform rfl) fun _ => .get_bind fun first second together => ?_
  rw [together.2]
  refine .bind (.perform rfl) fun _ => .bind (.perform rfl) fun _ => .ite (fun _ => ?_) fun _ => ?_
  · exact .bind (.perform rfl) fun _ => .relabel shown (hides.taskPipe _ _)
  · exact .bind (hides.call _) fun _ => hides.setRunStatus _

theorem Hides.mainLoop (hides : Hides build kept) (turns : List (Turn config)) :
    Exec.Alike id (Together build kept) (build.mainLoop turns) (build.mainLoop turns) := by
  induction turns with
  | nil => exact .pure _
  | cons turn rest ih =>
    refine .get_bind fun first second together => ?_
    rw [together.2]
    exact .bind (hides.setRunStatus _) fun _ => .ite (fun _ => .bind (hides.receiveAndDispatch turn) fun _ => ih)
      fun _ => .pure _

theorem Hides.afterInit (hides : Hides build kept) (status : Status) (turns : List (Turn config)) :
    Exec.Alike id (Together build kept) (build.afterInit status turns) (build.afterInit status turns) := by
  have task : Exec.Alike id (Together build kept) (build.mainTask turns) (build.mainTask turns) := by
    refine .bind (hides.mainLoop turns) fun _ => .ite (fun _ => .bind (.perform rfl) fun _ => ?_) fun _ => .pure _
    refine .get_bind fun first second together => ?_
    rw [together.2]
    exact .perform rfl
  exact .ite (fun _ => .bind (hides.setRunStatus _) fun _ => task) fun _ => task

/-- A function called first finds and leaves the global data. -/
theorem run_call_first {α β : Type} (action : MainAction config) (function : AppExec α)
    (rest : α → Exec σ (MainAction config) β) (state : σ) :
    (Exec.perform action >>= fun _ => build.call function >>= rest).run state =
      let ran := function.run (build.data state)
      let later := (rest ran.value).run (build.setData ran.state state)
      ⟨later.value, later.state, action :: (ran.trace.map .app ++ later.trace)⟩ := rfl

/-- Initialization leaves the same global data whatever it found, so nothing of a run depends on it. -/
theorem Hides.main (hides : Hides build kept) (services : InitServices) (turns : List (Turn config)) :
    Exec.Memoryless id kept (build.main services turns) := by
  rintro first second begun
  have same : (init config services).run (build.data first) = (init config services).run (build.data second) := by
    rw [init_run_zero, init_run_zero config services (build.data second)]
  unfold Build.main
  rw [run_call_first, run_call_first, same]
  generalize (init config services).run (build.data second) = initialized
  obtain ⟨values, together, traces⟩ := hides.afterInit initialized.value turns _ _
    (hides.together_setData initialized.state begun)
  rw [List.map_id, List.map_id] at traces
  refine ⟨values, together.1, ?_⟩
  dsimp only
  rw [traces]

end Builds

/-! ## The two builds -/

section Application

variable {config : Config}

theorem plain_hides (bus : SoftwareBus) : Hides (.plain bus config) (Coherent bus config) where
  setData _ _ coherent := coherent
  taskPipe services message := by
    rintro ⟨data, first⟩ ⟨_, second⟩ ⟨⟨warmFirst, warmSecond⟩, rfl⟩
    obtain ⟨firstState, firstTrace⟩ := taskPipe_run warmFirst services message
    obtain ⟨secondState, secondTrace⟩ := taskPipe_run warmSecond services message
    refine ⟨rfl, ⟨⟨?_, ?_⟩, ?_⟩, ?_⟩
    · exact .inr (congrArg PlainState.cache firstState)
    · exact .inr (congrArg PlainState.cache secondState)
    · exact congrArg PlainState.data (firstState.trans secondState.symm)
    · exact congrArg (List.map id) (firstTrace.trans secondTrace.symm)

/-- The EDS build holds nothing else. -/
theorem eds_hides (codes : StatusCodes) (verdict : Message config.stringValLen → Verdict) :
    Hides (.eds codes config verdict) fun _ => True where
  setData _ _ _ := trivial
  taskPipe services message := by
    rintro data _ ⟨_, rfl⟩
    exact ⟨rfl, ⟨⟨trivial, trivial⟩, rfl⟩, rfl⟩

/-- What one run of the entry point meets. -/
structure Life (config : Config) where
  services : InitServices
  turns : List (Turn config)

variable {σ : Type} {build : Build config σ} {kept : σ → Prop}

/-- The application, started again and again. -/
def runLives (build : Build config σ) (lives : List (Life config)) : Exec σ (MainAction config) Unit :=
  Exec.forEach (fun life => build.main life.services life.turns) lives

theorem Hides.runLives (hides : Hides build kept) {cold start : σ} (atRest : kept cold) (begun : kept start)
    (lives : List (Life config)) : ((runLives build lives).run start).trace =
      lives.flatMap fun life => ((build.main life.services life.turns).run cold).trace := by
  have each := Exec.forEach_memoryless (fun life : Life config => hides.main life.services life.turns)
    atRest begun lives
  simp only [List.map_id] at each
  exact each

/-- However often either build is started, and whatever the runs before have left, each run makes exactly
the calls it makes from a cold start. -/
theorem application_restarts (bus : SoftwareBus) (codes : StatusCodes) (config : Config)
    (verdict : Message config.stringValLen → Verdict) (lives : List (Life config)) (data : Data) :
    ((runLives (.plain bus config) lives).run (.cold bus data)).trace =
        lives.flatMap (fun life =>
          (((Build.plain bus config).main life.services life.turns).run (.cold bus .zero)).trace) ∧
      ((runLives (.eds codes config verdict) lives).run data).trace =
        lives.flatMap fun life =>
          (((Build.eds codes config verdict).main life.services life.turns).run .zero).trace :=
  ⟨(plain_hides bus).runLives (coherent_cold bus config .zero) (coherent_cold bus config data) lives,
    (eds_hides codes verdict).runLives trivial trivial lives⟩

end Application

end FprimeGds.Soundness.Restarts
