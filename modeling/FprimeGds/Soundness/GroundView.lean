import FprimeGds.Soundness.Accounting
import FprimeGds.Soundness.DownlinkStream

/-! # What the ground reads is what the application counted

The two programs of this repository meet on the downlink: the application transmits housekeeping packets,
and these come to CfsTlmStripper among others, with a telemetry secondary header. The software bus and
the bridge between them are not part of this repository. Of them it is assumed that packets arrive
complete and that those of the application arrive in order, though some may be lost. Then the ground reads
off the stream the counters the application transmitted.
-/

namespace FprimeGds.Soundness.GroundView

open Machine Ccsds Model Model.Cfe Model.App Model.CfsTlmStripper Model.Downlink
open Proofs.App (Account Initializes initSteps)
open ApplicationRun Accounting DownstreamReads StripRefinement DownlinkStream

/-! ## One packet -/

section Packets

variable {apid : ℕ} {layout : HkTlmPayload → List UInt8}

/-- Telemetry of one application. -/
def isFrom (apid : ℕ) (packet : SpacePacket) : Bool := packet.header.isTelemetry && packet.header.apid == apid

/-- A packet carries a housekeeping payload behind both of its headers. -/
structure Carries (layout : HkTlmPayload → List UInt8) (packet : SpacePacket) (hkTlm : HkTlmPayload) : Prop where
  telemetry : packet.header.isTelemetry = true
  flagged : packet.header.hasSecHdr = true
  payload : packet.dataField.drop secHdrSize = layout hkTlm

/-- A layout that starts with the two counters. -/
def StartsWithCounters (layout : HkTlmPayload → List UInt8) : Prop :=
  ∀ hkTlm, ∃ rest, layout hkTlm = hkTlm.commandCounter :: hkTlm.commandErrorCounter :: rest

def counters (hkTlm : HkTlmPayload) : UInt8 × UInt8 := (hkTlm.commandCounter, hkTlm.commandErrorCounter)

/-- The counters a bare housekeeping packet shows. -/
def shown (packet : SpacePacket) : UInt8 × UInt8 := (packet.dataField.getD 0 0, packet.dataField.getD 1 0)

/-- Stripping leaves packet type and application alone. -/
theorem isFrom_downlinked (packet : SpacePacket) : isFrom apid (downlinked packet) = isFrom apid packet := by
  rw [downlinked]
  split_ifs
  · rw [isFrom, SpacePacket.removeSecHdr, PrimaryHeader.isTelemetry_clearSecHdr,
      PrimaryHeader.apid_clearSecHdr, PrimaryHeader.isTelemetry_setLength, PrimaryHeader.apid_setLength, isFrom]
  · rfl

theorem Carries.strippable (counted : StartsWithCounters layout) {packet : SpacePacket} {hkTlm : HkTlmPayload}
    (carries : Carries layout packet hkTlm) : Strippable packet.bytes := by
  obtain ⟨rest, starts⟩ := counted hkTlm
  have behind := congrArg List.length (carries.payload.trans starts)
  rw [List.length_drop, List.length_cons, List.length_cons] at behind
  refine ⟨beq_iff_eq.mp carries.telemetry, carries.flagged, ?_⟩
  rw [SpacePacket.bytes_length, SpacePacket.size, primaryHeaderSize]
  unfold secHdrSize at behind
  omega

/-- On the ground the packet shows what it carries. -/
theorem Carries.shown (counted : StartsWithCounters layout) {packet : SpacePacket} {hkTlm : HkTlmPayload}
    (carries : Carries layout packet hkTlm) : shown (downlinked packet) = counters hkTlm := by
  obtain ⟨rest, starts⟩ := counted hkTlm
  have bare : (downlinked packet).dataField = layout hkTlm := by
    rw [downlinked, if_pos (carries.strippable counted)]
    exact carries.payload
  rw [GroundView.shown, bare, starts]
  rfl

theorem shown_of_carries (counted : StartsWithCounters layout) {packets : List SpacePacket}
    {carried : List HkTlmPayload} (carries : List.Forall₂ (Carries layout) packets carried) :
    packets.map (fun packet => shown (downlinked packet)) = carried.map counters := by
  induction carries with
  | nil => rfl
  | cons first _ ih => rw [List.map_cons, List.map_cons, first.shown counted, ih]

end Packets

/-! ## The stream -/

section Stream

variable {Rest : Type} {isConnected : ℕ → Bool} {log : List (Call (Input Rest) (Output Rest))}

/-- The ground cuts the stream into packets and shows the counters in those of one application. -/
def groundReads (apid : ℕ) (stream : List UInt8) : Option (List (UInt8 × UInt8)) :=
  (SpacePacket.stream.split stream).map fun packets => (packets.filter (isFrom apid)).map shown

/-- Every packet is complete when the component accepts it, and those of one application carry these
housekeeping payloads in order. -/
structure Relays (layout : HkTlmPayload → List UInt8) (apid : ℕ) (log : List (Call (Input Rest) (Output Rest)))
    (carried : List HkTlmPayload) : Prop where
  complete : ∀ packet ∈ accepted log, packet.Complete
  carries : List.Forall₂ (Carries layout) ((accepted log).filter (isFrom apid)) carried

theorem groundReads_of_relays {layout : HkTlmPayload → List UInt8} (counted : StartsWithCounters layout)
    {apid : ℕ} {carried : List HkTlmPayload}
    (calls : ∀ call ∈ log, (component isConnected).Runs call.store call.input call.progress)
    (relays : Relays layout apid log carried) :
    groundReads apid (log.flatMap handedDownstream).flatten = some (carried.map counters) := by
  have same : isFrom apid ∘ downlinked = isFrom apid := funext isFrom_downlinked
  rw [groundReads, splits_of_complete calls relays.complete, Option.map_some, List.filter_map, same,
    List.map_map]
  exact congrArg some (shown_of_carries counted relays.carries)

/-- What is carried are some of the packets transmitted, so what is read is among what they show. -/
theorem reads_in_order {layout : HkTlmPayload → List UInt8} (counted : StartsWithCounters layout)
    {apid : ℕ} {carried transmitted reported : List HkTlmPayload}
    (calls : ∀ call ∈ log, (component isConnected).Runs call.store call.input call.progress)
    (relays : Relays layout apid log carried) (inOrder : carried.Sublist transmitted)
    (reports : transmitted = reported) :
    groundReads apid (log.flatMap handedDownstream).flatten = some (carried.map counters) ∧
      (carried.map counters).Sublist (reported.map counters) := by
  subst reports
  exact ⟨groundReads_of_relays counted calls relays, inOrder.map counters⟩

end Stream

/-! ## From commands to counters on the ground -/

section Application

variable {Rest : Type} {isConnected : ℕ → Bool} {config : Config}

/-- Whatever of the housekeeping packets of a run comes to the downlink, in either build the ground reads
its counters, and they are among those that the account of the messages delivered gives, in order. -/
theorem ground_reads_counters (codes : StatusCodes) (verdict : Message config.stringValLen → Verdict)
    (contract : GeneratedDispatch codes config verdict) (bus : SoftwareBus) (services : InitServices)
    (turns : List (Turn config)) (data : Data) (apid : ℕ)
    {environment : Environment (Input Rest) (Output Rest)} {log : List (Call (Input Rest) (Output Rest))}
    {store : Store} (ledger : Ledger (component isConnected) environment log store)
    (carried : List HkTlmPayload) :
    let stream := (log.flatMap handedDownstream).flatten
    let plain := (((Build.plain bus config).main services turns).run (.cold bus data)).trace
    let eds := (((Build.eds codes config verdict).main services turns).run data).trace
    let expected (account : Account config) :=
      (if Initializes services then account.packets (delivered turns) else []).map counters
    (Relays HkTlmPayload.bytes apid log carried → carried.Sublist (summarize (appActions plain)).transmitted →
      groundReads apid stream = some (carried.map counters) ∧
        (carried.map counters).Sublist (expected (plainAccount config))) ∧
    (Relays HkTlmPayload.edsBytes apid log carried → carried.Sublist (summarize (appActions eds)).transmitted →
      groundReads apid stream = some (carried.map counters) ∧
        (carried.map counters).Sublist (expected (edsAccount config))) := by
  have bytes : StartsWithCounters HkTlmPayload.bytes := fun _ => ⟨_, rfl⟩
  have edsBytes : StartsWithCounters HkTlmPayload.edsBytes := fun _ => ⟨_, rfl⟩
  refine ⟨fun relays inOrder => ?_, fun relays inOrder => ?_⟩
  · exact reads_in_order bytes ledger.runs relays inOrder (plain_reports services turns data bus)
  · exact reads_in_order edsBytes ledger.runs relays inOrder (eds_reports services turns data contract)

/-- A NOOP and a housekeeping request: the packet comes to the downlink, and the ground reads one command. -/
theorem ground_reads_counters_noop :
    let config : Config := ⟨0x1882, 0x1883, 0x883, 8, 16, 2⟩
    let bus : SoftwareBus := ⟨fun msgId => msgId != 0, 0, rfl⟩
    let services : InitServices := ⟨0, 0, 1, 0, 0, 0, 2, 0, ""⟩
    let turn (msgId : MsgId) : Turn config :=
      ⟨none, 0, ⟨⟨msgId, 0, 8, ⟨0, 0, ⟨#[0, 0], rfl⟩⟩⟩, ⟨0, ⟨0, 0⟩, 0, 0, 0⟩⟩⟩
    let plain := (((Build.plain bus config).main services [turn 0x1882, turn 0x1883]).run
      (.cold bus .zero)).trace
    ∃ (log : List (Call (Input Unit) (Output Unit))) (store : Store),
      Ledger (component fun _ => false) custody log store ∧
        Relays HkTlmPayload.bytes 0x83 log (summarize (appActions plain)).transmitted ∧
          groundReads 0x83 (log.flatMap handedDownstream).flatten = some [(1, 0)] := by
  intro config bus services turn plain
  let store := Store.ofBytes 3 [0x08, 0x83, 0xC0, 0x01, 0, 13, 0, 0, 0x10, 0, 0x80, 0, 0, 0, 0, 0, 1, 0, 0, 0]
  let data : Buffer := ⟨7, 3, 20⟩
  let context : FrameContext Unit := ⟨true, ()⟩
  have contract : GeneratedDispatch .documented config (referenceVerdict .documented config (-939524092)) :=
    referenceVerdict_generated _ _ (by decide) (by decide) (by decide)
  have strip : strips (store data.data) data.size = true := by decide
  have stripped : (component fun _ => false).Runs store (.dataIn data context) _ :=
    Proofs.CfsTlmStripper.dataIn_stripped context store strip
  have free : custody.admits store [] (.dataIn data context) :=
    fun _ member => absurd member List.not_mem_nil
  obtain ⟨log, after, ledger, packets⟩ : ∃ log after, Ledger (component fun _ => false) custody log after ∧
      accepted log = [⟨⟨0x08, 0x83, 0xC0, 0x01, 0, 13⟩, [0, 0, 0x10, 0, 0x80, 0, 0, 0, 0, 0, 1, 0, 0, 0]⟩] :=
    ⟨_, _, (Ledger.start store).call free stripped, by decide⟩
  have transmitted : (summarize (appActions plain)).transmitted = [⟨1, 0, ⟨#[0, 0], rfl⟩⟩] := by
    have reports : (summarize (appActions plain)).transmitted = _ := plain_reports services _ .zero bus
    have initializes : Initializes services := by
      simp only [Initializes, initSteps, List.forall_mem_cons]
      exact ⟨rfl, rfl, rfl, rfl, rfl, rfl, fun _ member => absurd member List.not_mem_nil⟩
    rw [reports, if_pos initializes]
    decide
  have relays : Relays HkTlmPayload.bytes 0x83 log (summarize (appActions plain)).transmitted := by
    rw [transmitted]
    refine ⟨?_, ?_⟩
    · rw [packets]
      decide
    · rw [packets]
      exact .cons ⟨rfl, rfl, rfl⟩ .nil
  refine ⟨log, after, ledger, relays, ?_⟩
  have reads := ((ground_reads_counters .documented _ contract bus services _ .zero 0x83 ledger _).1 relays
    (List.Sublist.refl _)).1
  rw [reads, transmitted]
  rfl

end Application

end FprimeGds.Soundness.GroundView
