import FprimeGds.Proofs.App.Handlers

/-! # What the dispatchers make of one message

The cache of the plain dispatcher never shows: from the first message on it holds the configured
message IDs, so the dispatcher acts as if it compared with those directly. What either dispatcher does
to the global data and lets be observed is then a function of the message's disposition, or, for the
generated dispatch function, of its verdict and the status of the handler it called.
-/

namespace FprimeGds.Proofs.App

open Machine Model Model.Cfe Model.App

section Plain

variable (bus : SoftwareBus) (config : Config)

/-- The plain `FPRIME_GDS_TaskPipe` without its cache. -/
def uncachedTaskPipe (services : TblServices) (message : Message config.stringValLen) :
    AppExec Unit := do
  if message.msgId = config.sendHkMid then
    let _ ← sendHkCmd
  else if message.msgId = config.cmdMid then
    processGroundCommand config services message
  else
    sendEvent midErrEid .error "SAMPLE: invalid command packet,MID = 0x%x"
      [.number message.msgId.toNat]

variable {config} in
def runUncached (inputs : List (Input config)) : AppExec Unit :=
  Exec.forEach (fun input => uncachedTaskPipe config input.services input.message) inputs

/-- The cache is either cold, so that the next message fills it, or holds the configured IDs. -/
def Coherent (state : PlainState) : Prop :=
  bus.isValidMsgId state.cache.cmdMid = false ∨ state.cache = ⟨config.cmdMid, config.sendHkMid⟩

theorem coherent_cold (data : Data) : Coherent bus config (.cold bus data) :=
  .inl bus.reserved_invalid

variable {bus config}

theorem cacheMids_run {state : PlainState} (coherent : Coherent bus config state) :
    (cacheMids bus config).run state =
      ⟨(), { state with cache := ⟨config.cmdMid, config.sendHkMid⟩ }, []⟩ := by
  unfold cacheMids
  rw [Exec.run_get_bind]
  split_ifs with cold
  · rfl
  · rw [← coherent.resolve_left cold]
    rfl

/-- From the first message on the cache holds the configured message IDs. -/
theorem taskPipe_run {state : PlainState} (coherent : Coherent bus config state)
    (services : TblServices) (message : Message config.stringValLen) :
    ((taskPipe bus config services message).run state).state =
        ⟨((uncachedTaskPipe config services message).run state.data).state,
          config.cmdMid, config.sendHkMid⟩ ∧
      ((taskPipe bus config services message).run state).trace =
        ((uncachedTaskPipe config services message).run state.data).trace := by
  unfold taskPipe uncachedTaskPipe
  rw [Exec.run_bind, cacheMids_run coherent, Exec.run_get_bind]
  split_ifs with housekeeping command
  · exact ⟨rfl, rfl⟩
  · exact ⟨rfl, rfl⟩
  · exact ⟨rfl, rfl⟩

/-- The cache never shows, in runs of any length. -/
theorem runPlain_simulates {state : PlainState} (coherent : Coherent bus config state)
    (inputs : List (Input config)) :
    ((runPlain bus inputs).run state).state.data = ((runUncached inputs).run state.data).state ∧
      ((runPlain bus inputs).run state).trace = ((runUncached inputs).run state.data).trace := by
  have step : ∀ (input : Input config) (first : PlainState) (second : Data),
      Coherent bus config first ∧ first.data = second →
      let left := (taskPipe bus config input.services input.message).run first
      let right := (uncachedTaskPipe config input.services input.message).run second
      (Coherent bus config left.state ∧ left.state.data = right.state) ∧ left.trace = right.trace := by
    rintro input first _ ⟨warm, rfl⟩
    obtain ⟨states, traces⟩ := taskPipe_run warm input.services input.message
    dsimp only
    rw [states, traces]
    exact ⟨⟨.inr rfl, rfl⟩, rfl⟩
  have simulated := Exec.forEach_simulates _ step inputs ⟨coherent, rfl⟩
  exact ⟨simulated.1.2, simulated.2⟩

/-- A length check in front of a handler. -/
theorem verified_run (message : Message config.stringValLen) (expectedLength : ℕ)
    (handler : AppExec Status) (data : Data) :
    ((do
      if ← verifyCmdLength config message expectedLength then
        let _ ← handler) : AppExec Unit).run data =
      if expectedLength = message.size then ⟨(), (handler.run data).state, (handler.run data).trace⟩
      else ⟨(), { data with errCounter := data.errCounter + 1 },
        ((verifyCmdLength config message expectedLength).run data).trace⟩ := by
  unfold verifyCmdLength
  by_cases exact : expectedLength = message.size
  · simp only [exact, ne_eq, not_true_eq_false, if_true, if_false, Exec.run_bind, Exec.run_pure,
      List.nil_append, List.append_nil]
  · simp only [exact, ne_eq, not_false_eq_true, if_true, if_false, Exec.run_bind, Exec.run_pure,
      run_sendEvent, run_incrementErrCounter, Bool.false_eq_true, List.append_nil]

/-- One case of the command switch. -/
private theorem verifiedHandler_run (services : TblServices) (message : Message config.stringValLen)
    (handler : Handler) (data : Data) :
    let ran := ((do
      if ← verifyCmdLength config message (config.sizeOf handler) then
        let _ ← sampleTcDispatchTable config services message handler) : AppExec Unit).run data
    let outcome : Disposition :=
      if config.sizeOf handler = message.size then .execute handler else .wrongLength
    ran.state = outcome.update data ∧ summarize ran.trace = outcome.summary data := by
  intro ran outcome
  have split := verified_run message (config.sizeOf handler)
    (sampleTcDispatchTable config services message handler) data
  have table := dispatchTable_run config services message handler data
  by_cases exact : config.sizeOf handler = message.size
  · rw [if_pos exact] at split
    simp only [ran, outcome, split, if_pos exact]
    exact table.2
  · rw [if_neg exact] at split
    simp only [ran, outcome, split, if_neg exact]
    refine ⟨rfl, ?_⟩
    unfold verifyCmdLength
    rw [if_pos exact]
    rfl

/-- A ground command is executed by the handler of its code if the length is right. -/
theorem processGroundCommand_run (services : TblServices) (message : Message config.stringValLen)
    (data : Data) :
    let ran := (processGroundCommand config services message).run data
    let outcome : Disposition := match groundHandler message.fcnCode with
      | none => .unknownCode
      | some handler => if config.sizeOf handler = message.size then .execute handler else .wrongLength
    ran.state = outcome.update data ∧ summarize ran.trace = outcome.summary data := by
  unfold processGroundCommand groundHandler
  dsimp only
  split_ifs
  · exact verifiedHandler_run services message .noopCmd data
  · exact verifiedHandler_run services message .resetCountersCmd data
  · exact verifiedHandler_run services message .processCmd data
  · exact verifiedHandler_run services message .displayParamCmd data
  · exact ⟨rfl, rfl⟩

/-- The plain dispatcher carries out the disposition of the message. -/
theorem uncachedTaskPipe_run (services : TblServices) (message : Message config.stringValLen)
    (data : Data) :
    ((uncachedTaskPipe config services message).run data).state =
        (disposition config message).update data ∧
      summarize ((uncachedTaskPipe config services message).run data).trace =
        (disposition config message).summary data := by
  unfold uncachedTaskPipe disposition
  split_ifs with housekeeping command
  · exact ⟨rfl, rfl⟩
  · exact processGroundCommand_run services message data
  · exact ⟨rfl, rfl⟩

end Plain

end FprimeGds.Proofs.App
