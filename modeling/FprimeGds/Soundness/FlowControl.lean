import FprimeGds.Model.Downlink
import FprimeGds.Proofs.CfsTlmStripper

/-! # Credit on the downlink

The sender's credit, the packets waiting downstream and the statuses under way are one token in three
places. Forwarding a packet keeps the token; dropping one loses it, because the stripper returns the
buffer of a malformed packet without reporting any status for it. From then on nothing is under way
and no step brings anything back.
-/

namespace FprimeGds.Soundness.FlowControl

open Machine Model Model.CfsTlmStripper Model.Downlink Proofs.CfsTlmStripper

variable {Rest : Type}

/-- The sender may send, or something is under way that will let it. -/
def Live (state : State Rest) : Prop :=
  state.maySend = true ∨ state.awaiting ≠ [] ∨ state.statuses ≠ []

/-- Every accepted packet was forwarded or answered with a status. -/
def Answered (state : State Rest) : Prop :=
  ∀ acceptance ∈ state.accepted, forwards acceptance.outs ≠ [] ∨ statusesOut acceptance.outs ≠ []

def NeverStarves (state : State Rest) : Prop := Live state ∧ Answered state

/-- Every packet sent so far had room for a primary header. -/
def WellFormed (state : State Rest) : Prop :=
  ∀ acceptance ∈ state.accepted, priHdrSize ≤ acceptance.packet.size

/-- The number of tokens in play. -/
def credit (state : State Rest) : ℕ :=
  state.maySend.toNat + state.awaiting.length + state.statuses.length

theorem live_iff_credit (state : State Rest) : Live state ↔ 0 < credit state := by
  rw [Live, credit, ← List.length_pos_iff, ← List.length_pos_iff]
  cases state.maySend with
  | true => simp only [true_or, Bool.toNat_true, true_iff]; omega
  | false => simp only [Bool.false_eq_true, false_or, Bool.toNat_false]; omega

theorem credit_deliver (state : State Rest) (outs : List (Output Rest)) :
    credit (state.deliver outs) =
      credit state + (forwards outs).length + (statusesOut outs).length := by
  simp only [credit, State.deliver, List.length_append]
  omega

theorem credit_answered {state : State Rest} {packet : Buffer} (member : packet ∈ state.awaiting) :
    credit (state.answered packet) + 1 = credit state := by
  have positive := List.length_pos_of_mem member
  simp only [credit, State.answered, List.length_erase_of_mem member]
  omega

/-- What each handler adds to the packets and statuses under way. -/
theorem outs_of_runs {wiring : Wiring} {store : Store} {input : Input Rest}
    {progress : Progress (Output Rest)}
    (ran : (component wiring.isConnected).Runs store input progress) :
    match input with
    | .dataIn data _ => (forwards progress.outs).length = (if priHdrSize ≤ data.size then 1 else 0) ∧
        statusesOut progress.outs = []
    | .dataReturnIn _ _ => forwards progress.outs = [] ∧ statusesOut progress.outs = []
    | .comStatusIn portNum condition => forwards progress.outs = [] ∧
        statusesOut progress.outs = if wiring.isConnected portNum then [condition] else [] := by
  have outcome := outcome_of_runs ran
  generalize progress.store = after, progress.outs = outs at outcome
  cases outcome with
  | forward room _ _ => exact ⟨(if_pos room).symm, rfl⟩
  | drop short => exact ⟨(if_neg (not_le.mpr short)).symm, rfl⟩
  | giveBack => exact ⟨rfl, rfl⟩
  | passStatus connected => exact ⟨rfl, (if_pos connected).symm⟩
  | ignoreStatus connected => exact ⟨rfl, (if_neg (Bool.eq_false_iff.mp connected)).symm⟩

/-- A packet is forwarded or not according to its size, and never answered with a status. -/
def Faithful (acceptance : Acceptance Rest) : Prop :=
  (forwards acceptance.outs).length = (if priHdrSize ≤ acceptance.packet.size then 1 else 0) ∧
    statusesOut acceptance.outs = []

instance (state : State Rest) : Decidable (WellFormed state) :=
  inferInstanceAs (Decidable (∀ acceptance ∈ state.accepted, priHdrSize ≤ acceptance.packet.size))

/-- One token while all packets are well formed, and none once one was not. -/
structure Accounted (state : State Rest) : Prop where
  balance : credit state = if WellFormed state then 1 else 0
  faithful : ∀ acceptance ∈ state.accepted, Faithful acceptance

theorem accounted_initial : Accounted (State.initial : State Rest) where
  balance := rfl
  faithful _ member := absurd member List.not_mem_nil

section Steps

variable {wiring : Wiring} {state next : State Rest}

theorem Accounted.credit_le (accounted : Accounted state) : credit state ≤ 1 := by
  rw [accounted.balance]
  split_ifs
  · exact le_refl 1
  · exact Nat.zero_le 1

/-- Handling an answer, a status or a returned buffer neither makes nor loses credit. -/
theorem Accounted.of_eq (accounted : Accounted state) (accepted : next.accepted = state.accepted)
    (same : credit next = credit state) : Accounted next := by
  have formed : WellFormed next ↔ WellFormed state := by rw [WellFormed, WellFormed, accepted]
  refine ⟨?_, accepted.symm ▸ accounted.faithful⟩
  rw [same, accounted.balance]
  exact if_congr formed.symm rfl rfl

theorem wellFormed_sent (packet : Buffer) (outs : List (Output Rest)) :
    WellFormed (state.sent packet outs) ↔ WellFormed state ∧ priHdrSize ≤ packet.size := by
  simp only [WellFormed, State.sent, List.forall_mem_append, List.forall_mem_singleton]

theorem credit_sent (maySend : state.maySend = true) (packet : Buffer) (outs : List (Output Rest)) :
    credit (state.sent packet outs) + 1 =
      credit state + (forwards outs).length + (statusesOut outs).length := by
  simp only [credit, State.sent, State.deliver, maySend, Bool.toNat_true, Bool.toNat_false,
    List.length_append]
  omega

/-- Sending spends the token, and only a forwarded packet brings it back. -/
theorem Accounted.send (accounted : Accounted state) (maySend : state.maySend = true)
    {packet : Buffer} {outs : List (Output Rest)} (faithful : Faithful ⟨packet, outs⟩) :
    Accounted (state.sent packet outs) := by
  have positive : 0 < credit state := (live_iff_credit state).mp (.inl maySend)
  have spent := credit_sent maySend packet outs
  rw [faithful.1, faithful.2, accounted.balance] at spent
  rw [accounted.balance] at positive
  refine ⟨?_, ?_⟩
  · -- credit was left, so every earlier packet was well formed
    have formed : WellFormed state := by
      by_contra broken
      rw [if_neg broken] at positive
      exact lt_irrefl 0 positive
    rw [if_pos formed, List.length_nil, add_zero, add_comm 1] at spent
    rw [if_congr ((wellFormed_sent packet outs).trans (and_iff_right formed)) rfl rfl]
    exact Nat.add_right_cancel spent
  · intro acceptance member
    rcases List.mem_append.mp member with earlier | last
    · exact accounted.faithful acceptance earlier
    · exact List.mem_singleton.mp last ▸ faithful

theorem Accounted.step (accounted : Accounted state) (step : Step wiring state next) :
    Accounted next := by
  cases step with
  | send maySend ran => exact accounted.send maySend (outs_of_runs ran)
  | @answerDirectly packet condition _ member =>
    refine accounted.of_eq rfl ?_
    have taken := credit_answered member
    simp only [credit, State.answered, List.length_append, List.length_singleton] at taken ⊢
    omega
  | @answerThroughStripper packet condition store progress wired member ran =>
    refine accounted.of_eq rfl ?_
    obtain ⟨none, one⟩ := outs_of_runs ran
    have taken := credit_answered member
    rw [credit_deliver, none, one, wired, ← taken]
    rfl
  | @receive condition rest arrived =>
    refine accounted.of_eq rfl ?_
    -- the status is the only token, so the sender had none
    have single := accounted.credit_le
    have spent : state.maySend = false := by
      by_contra left
      rw [credit, Bool.eq_true_of_not_eq_false left, arrived, List.length_cons, Bool.toNat_true] at single
      omega
    simp only [credit, spent, arrived, List.length_cons, Bool.toNat_true, Bool.toNat_false]
    omega
  | giveBack ran =>
    refine accounted.of_eq rfl ?_
    obtain ⟨none, silent⟩ := outs_of_runs ran
    rw [credit_deliver, none, silent]
    rfl

theorem accounted_of_reachable (reached : Reachable wiring state) : Accounted state := by
  induction reached with
  | refl => exact accounted_initial
  | tail _ step ih => exact ih.step step

/-- Credit survives exactly as long as every packet is well formed. -/
theorem live_iff (reached : Reachable wiring state) : Live state ↔ WellFormed state := by
  rw [live_iff_credit, (accounted_of_reachable reached).balance]
  split_ifs with formed
  · exact iff_of_true Nat.one_pos formed
  · exact iff_of_false (lt_irrefl 0) formed

theorem Faithful.answered_iff {acceptance : Acceptance Rest} (faithful : Faithful acceptance) :
    (forwards acceptance.outs ≠ [] ∨ statusesOut acceptance.outs ≠ []) ↔
      priHdrSize ≤ acceptance.packet.size := by
  rw [← List.length_pos_iff, faithful.1, faithful.2]
  split_ifs with room
  · exact iff_of_true (.inl Nat.one_pos) room
  · exact iff_of_false (by rintro (lost | other) <;> contradiction) room

theorem answered_iff (reached : Reachable wiring state) : Answered state ↔ WellFormed state := by
  have faithful := (accounted_of_reachable reached).faithful
  exact forall₂_congr fun acceptance member => (faithful acceptance member).answered_iff

/-- In every reachable state, under either wiring, the downlink has not starved if and only if no
packet shorter than a primary header was sent. -/
theorem neverStarves_iff (wiring : Wiring) (state : State Rest) (reached : Reachable wiring state) :
    NeverStarves state ↔ ∀ acceptance ∈ state.accepted, 6 ≤ acceptance.packet.size := by
  rw [NeverStarves, live_iff reached, answered_iff reached, and_self]
  rfl

end Steps

/-- A command packet goes through, and the status for it is still to come. -/
theorem neverStarves_command :
    ∃ state : State Unit, state.awaiting = [⟨1, 0, 8⟩] ∧ NeverStarves state := by
  let data : Buffer := ⟨1, 0, 8⟩
  have ran : (dataInHandler data ⟨true, ()⟩).advance Output.yields (fun _ => 0x18) = some _ :=
    dataIn_forwarded ⟨true, ()⟩ (fun _ => 0x18) (by decide) (by decide)
  have reached : Reachable Wiring.direct (State.initial.sent data _) := .single (.send rfl ran)
  exact ⟨_, rfl, (neverStarves_iff _ _ reached).mpr (by decide)⟩

/-- A five-byte packet is all it takes to stop the downlink for good. -/
theorem short_packet_starves :
    ∃ state : State Unit, Reachable .direct state ∧
      (state.accepted.map fun acceptance => acceptance.packet.size) = [5] ∧ ¬ NeverStarves state := by
  let data : Buffer := ⟨1, 0, 5⟩
  have ran : (dataInHandler data ⟨true, ()⟩).advance Output.yields (fun _ => 0) = some _ :=
    dataIn_malformed ⟨true, ()⟩ (fun _ => 0) (fun _ => rfl) (by decide)
  have reached : Reachable Wiring.direct (State.initial.sent data _) := .single (.send rfl ran)
  refine ⟨_, reached, rfl, ?_⟩
  rintro ⟨maySend | awaiting | statuses, _⟩
  · exact Bool.false_ne_true maySend
  · exact awaiting rfl
  · exact statuses rfl

end FprimeGds.Soundness.FlowControl
