import FprimeGds.Soundness.FlowControl

/-! # The downlink goes on, or never again

The sender waits for the status of one packet before it sends the next, so the downlink is never ahead
of downstream. As long as every packet had room for a primary header any further packet can get
through, whatever state the parties are in. The first that has not is the last packet accepted at all:
there is no way on from there, in however many steps.
-/

namespace FprimeGds.Soundness.DownlinkProgress

open Machine Model Model.CfsTlmStripper Model.Downlink Proofs.CfsTlmStripper FlowControl

variable {Rest : Type}

/-- At most one of the sender's credit, a packet downstream and a status under way. -/
def StopAndWait (state : State Rest) : Prop :=
  state.awaiting.length + state.statuses.length ≤ 1 ∧
    (state.maySend = true → state.awaiting = [] ∧ state.statuses = [])

/-- Any packet can be the next one accepted, in whatever storage it is sent. -/
def CanAccept (wiring : Wiring) (state : State Rest) : Prop :=
  ∀ (store : Store) (packet : Buffer) (context : FrameContext Rest), ∃ later progress,
    Relation.ReflTransGen (Step wiring) state later ∧
      (component wiring.isConnected).Runs store (.dataIn packet context) progress ∧
      later.accepted = state.accepted ++ [⟨packet, progress.outs⟩]

/-- Nothing is accepted any more. -/
def Stuck (wiring : Wiring) (state : State Rest) : Prop :=
  ∀ later, Relation.ReflTransGen (Step wiring) state later → later.accepted = state.accepted

/-- Packets with room for a primary header, and at most one packet after them. -/
def FormedButLast (accepted : List (Acceptance Rest)) : Prop :=
  ∃ formed last, accepted = formed ++ last ∧ last.length ≤ 1 ∧
    ∀ acceptance ∈ formed, priHdrSize ≤ acceptance.packet.size

section Steps

variable {wiring : Wiring} {state next later : State Rest}

/-- The sender sends with credit, and nothing else adds to the packets accepted. -/
theorem accepted_of_step (step : Step wiring state next) :
    next.accepted = state.accepted ∨
      state.maySend = true ∧ ∃ acceptance, next.accepted = state.accepted ++ [acceptance] := by
  cases step with
  | send maySend _ => exact .inr ⟨maySend, _, rfl⟩
  | answerDirectly _ _ | answerThroughStripper _ _ _ | receive _ | giveBack _ => exact .inl rfl

theorem stopAndWait_of_reachable (reached : Reachable wiring state) : StopAndWait state := by
  have single := (accounted_of_reachable reached).credit_le
  rw [credit] at single
  refine ⟨by omega, fun maySend => ?_⟩
  rw [maySend, Bool.toNat_true] at single
  exact ⟨List.length_eq_zero_iff.mp (by omega), List.length_eq_zero_iff.mp (by omega)⟩

theorem formedButLast_of_reachable (reached : Reachable wiring state) : FormedButLast state.accepted := by
  induction reached with
  | refl => exact ⟨[], [], rfl, Nat.zero_le 1, fun _ member => absurd member List.not_mem_nil⟩
  | tail earlier step ih =>
    rcases accepted_of_step step with same | ⟨maySend, acceptance, more⟩
    · rwa [same]
    · -- the credit was there, so all packets before this one were well formed
      exact ⟨_, [acceptance], more, le_refl 1, (live_iff earlier).mp (.inl maySend)⟩

/-! ## The way on -/

theorem exists_accept_of_maySend (maySend : state.maySend = true) : CanAccept wiring state := by
  intro store packet context
  obtain ⟨progress, ran, _⟩ := exists_outcome wiring.isConnected store (.dataIn packet context)
  exact ⟨_, progress, .single (.send maySend ran), ran, rfl⟩

/-- Going on without accepting anything changes nothing about what can be accepted. -/
theorem CanAccept.of_step (step : Step wiring state next) (same : next.accepted = state.accepted)
    (can : CanAccept wiring next) : CanAccept wiring state := by
  intro store packet context
  obtain ⟨later, progress, steps, ran, accepted⟩ := can store packet context
  exact ⟨later, progress, .head step steps, ran, same ▸ accepted⟩

theorem canAccept_of_statuses (arriving : state.statuses ≠ []) : CanAccept wiring state := by
  obtain ⟨condition, rest, arrives⟩ := List.exists_cons_of_ne_nil arriving
  exact .of_step (.receive arrives) rfl (exists_accept_of_maySend rfl)

/-- Downstream answers, on the way the topology gives its status. -/
theorem canAccept_of_awaiting (waiting : state.awaiting ≠ []) : CanAccept wiring state := by
  obtain ⟨packet, member⟩ := List.exists_mem_of_ne_nil _ waiting
  cases wiring with
  | direct =>
    have answer : Step .direct state
        { state.answered packet with statuses := state.statuses ++ [.success] } := .answerDirectly rfl member
    refine .of_step answer rfl (canAccept_of_statuses ?_)
    exact List.append_ne_nil_of_right_ne_nil _ (List.cons_ne_nil _ _)
  | throughStripper =>
    obtain ⟨progress, ran, _⟩ := exists_outcome Wiring.throughStripper.isConnected (fun _ => 0)
      (.comStatusIn 0 .success : Input Rest)
    refine .of_step (.answerThroughStripper rfl member ran) rfl (canAccept_of_statuses ?_)
    have passed := (outs_of_runs ran).2
    change statusesOut progress.outs = [Success.success] at passed
    change state.statuses ++ statusesOut progress.outs ≠ []
    rw [passed]
    exact List.append_ne_nil_of_right_ne_nil _ (List.cons_ne_nil _ _)

theorem canAccept_of_live (live : Live state) : CanAccept wiring state := by
  rcases live with maySend | waiting | arriving
  · exact exists_accept_of_maySend maySend
  · exact canAccept_of_awaiting waiting
  · exact canAccept_of_statuses arriving

/-- Without credit in any place no step brings it back. -/
theorem stuck_of_not_live (reached : Reachable wiring state) (starved : ¬ Live state) :
    Stuck wiring state := by
  intro later steps
  induction steps with
  | refl => rfl
  | @tail middle last earlier step ih =>
    have formed : WellFormed middle ↔ WellFormed state := by rw [WellFormed, WellFormed, ih]
    have silent : ¬ Live middle := by
      rwa [live_iff (reached.trans earlier), formed, ← live_iff reached]
    rcases accepted_of_step step with same | ⟨maySend, _⟩
    · rw [same, ih]
    · exact absurd (.inl maySend) silent

end Steps

/-- In every reachable state, under either wiring: one packet at a time is under way, no packet but the
last was short, any packet can still get through if none was, and nothing is ever accepted again
otherwise. -/
theorem downlink_goes_on_or_stops {wiring : Wiring} {state : State Rest} (reached : Reachable wiring state) :
    StopAndWait state ∧ FormedButLast state.accepted ∧
      if ∀ acceptance ∈ state.accepted, 6 ≤ acceptance.packet.size then CanAccept wiring state
      else Stuck wiring state := by
  refine ⟨stopAndWait_of_reachable reached, formedButLast_of_reachable reached, ?_⟩
  split_ifs with formed
  · exact canAccept_of_live ((live_iff reached).mpr formed)
  · exact stuck_of_not_live reached (mt (live_iff reached).mp formed)

/-- Five bytes sent first are the only packet ever. -/
theorem downlink_stops_after_five_bytes :
    ∃ state : State Unit, (state.accepted.map fun acceptance => acceptance.packet.size) = [5] ∧
      Stuck .direct state := by
  let data : Buffer := ⟨1, 0, 5⟩
  have ran : (dataInHandler data ⟨true, ()⟩).advance Output.yields (fun _ => 0) = some _ :=
    dataIn_malformed ⟨true, ()⟩ (fun _ => 0) (fun _ => rfl) (by decide)
  have reached : Reachable Wiring.direct (State.initial.sent data _) := .single (.send rfl ran)
  have outcome := (downlink_goes_on_or_stops reached).2.2
  rw [if_neg (by decide)] at outcome
  exact ⟨_, rfl, outcome⟩

end FprimeGds.Soundness.DownlinkProgress
