import Mathlib.Logic.Relation
import FprimeGds.Model.CfsTlmStripper

/-! # The downlink around CfsTlmStripper

Three parties take turns: a flow-controlled sender, the stripper, and a downstream stage that answers
every packet with one communication status. The topology returns that status to the sender directly,
`aggregator.comStatusOut -> cfsBridge.comStatusIn`; it could also be wired through the stripper's own
status ports. Of the parties outside this repository nothing else is assumed: packets have any size
and content, answers come in any order and storage changes freely between the stripper's calls.
-/

namespace FprimeGds.Model.Downlink

open Machine CfsTlmStripper

/-- The way a status of the downstream stage takes to the sender. -/
inductive Wiring where
  | direct
  | throughStripper
deriving DecidableEq, Repr

namespace Wiring

/-- The status output ports of the stripper that are connected. -/
def isConnected : Wiring → ℕ → Bool
  | .direct, _ => false
  | .throughStripper, portNum => portNum == 0

end Wiring

variable {Rest : Type}

/-- The packets among some calls of the stripper that went on downstream. -/
def forwards (outs : List (Output Rest)) : List Buffer :=
  outs.filterMap fun
    | .dataOut data _ => some data
    | _ => none

/-- The statuses among some calls of the stripper. -/
def statusesOut (outs : List (Output Rest)) : List Success :=
  outs.filterMap fun
    | .comStatusOut _ condition => some condition
    | _ => none

/-- A packet the stripper accepted and the calls it made for it. -/
structure Acceptance (Rest : Type) where
  packet : Buffer
  outs : List (Output Rest)

/-- The sender's credit, the packets downstream has not answered, the statuses on their way to the
sender, and everything accepted so far. -/
structure State (Rest : Type) where
  maySend : Bool
  awaiting : List Buffer
  statuses : List Success
  accepted : List (Acceptance Rest)

namespace State

/-- Nothing sent yet. -/
def initial : State Rest := ⟨true, [], [], []⟩

/-- The stripper's calls reach the parties they are wired to. -/
def deliver (state : State Rest) (outs : List (Output Rest)) : State Rest :=
  { state with
    awaiting := state.awaiting ++ forwards outs
    statuses := state.statuses ++ statusesOut outs }

/-- The sender has used its credit on `packet`, and the stripper has made the calls `outs`. -/
def sent (state : State Rest) (packet : Buffer) (outs : List (Output Rest)) : State Rest :=
  { state.deliver outs with
    maySend := false
    accepted := state.accepted ++ [{ packet := packet, outs := outs }] }

/-- Downstream has dealt with `packet`. -/
def answered (state : State Rest) (packet : Buffer) : State Rest :=
  { state with awaiting := state.awaiting.erase packet }

end State

/-- One turn of one party. -/
inductive Step (wiring : Wiring) : State Rest → State Rest → Prop
  | send {state : State Rest} {store : Store} {data : Buffer} {context : FrameContext Rest}
      {progress : Progress (Output Rest)} : state.maySend = true →
      (component wiring.isConnected).Runs store (.dataIn data context) progress →
      Step wiring state (state.sent data progress.outs)
  | answerDirectly {state : State Rest} {packet : Buffer} {condition : Success} :
      wiring = .direct → packet ∈ state.awaiting →
      Step wiring state { state.answered packet with statuses := state.statuses ++ [condition] }
  | answerThroughStripper {state : State Rest} {packet : Buffer} {condition : Success}
      {store : Store} {progress : Progress (Output Rest)} :
      wiring = .throughStripper → packet ∈ state.awaiting →
      (component wiring.isConnected).Runs store (.comStatusIn 0 condition : Input Rest) progress →
      Step wiring state ((state.answered packet).deliver progress.outs)
  | receive {state : State Rest} {condition : Success} {rest : List Success} :
      state.statuses = condition :: rest →
      Step wiring state { state with maySend := true, statuses := rest }
  | giveBack {state : State Rest} {store : Store} {frameBuffer : Buffer}
      {context : FrameContext Rest} {progress : Progress (Output Rest)} :
      (component wiring.isConnected).Runs store (.dataReturnIn frameBuffer context) progress →
      Step wiring state (state.deliver progress.outs)

/-- The states of all runs from the start. -/
def Reachable (wiring : Wiring) (state : State Rest) : Prop :=
  Relation.ReflTransGen (Step wiring) .initial state

end FprimeGds.Model.Downlink
