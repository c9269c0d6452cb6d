import FprimeGds.ToMathlib.ByteMask
import FprimeGds.ToMathlib.ListPrefix
import FprimeGds.Machine.Store
import FprimeGds.Machine.CString
import FprimeGds.Machine.Code
import FprimeGds.Machine.Reentrant
import FprimeGds.Machine.Ledger
import FprimeGds.Machine.Lending
import FprimeGds.Machine.Exec
import FprimeGds.Machine.Refinement
import FprimeGds.Machine.Attempt
import FprimeGds.Machine.Relational
import FprimeGds.Machine.Monitor
import FprimeGds.Machine.Deletion
import FprimeGds.Machine.Tally
import FprimeGds.Machine.SelfDelimiting
import FprimeGds.Ccsds.SpacePacket
import FprimeGds.Ccsds.PacketStream
import FprimeGds.Model.Cfe
import FprimeGds.Model.CfsTlmStripper
import FprimeGds.Model.Downlink
import FprimeGds.Model.App.Data
import FprimeGds.Model.App.Utils
import FprimeGds.Model.App.Cmds
import FprimeGds.Model.App.Dispatch
import FprimeGds.Model.App.Disposition
import FprimeGds.Model.App.EdsDispatch
import FprimeGds.Model.App.Init
import FprimeGds.Model.App.Build
import FprimeGds.Model.App.Main
import FprimeGds.Model.Bridge.Topology
import FprimeGds.Model.Bridge.Main
import FprimeGds.Proofs.CfsTlmStripper
import FprimeGds.Proofs.App.Init
import FprimeGds.Proofs.App.Handlers
import FprimeGds.Proofs.App.Dispatch
import FprimeGds.Proofs.App.EdsDispatch
import FprimeGds.Proofs.App.Account
import FprimeGds.Proofs.App.Routine
import FprimeGds.Proofs.App.Main
import FprimeGds.Proofs.Bridge.Init
import FprimeGds.Proofs.Bridge.Main
import FprimeGds.Soundness.TelemetryStrip
import FprimeGds.Soundness.StripRefinement
import FprimeGds.Soundness.BufferOwnership
import FprimeGds.Soundness.FlowControl
import FprimeGds.Soundness.Housekeeping
import FprimeGds.Soundness.DispatcherAgreement
import FprimeGds.Soundness.EdsOutcome
import FprimeGds.Soundness.CachedMids
import FprimeGds.Soundness.DisplayParam
import FprimeGds.Soundness.MainLoop
import FprimeGds.Soundness.StartupReports
import FprimeGds.Soundness.BridgeInit
import FprimeGds.Soundness.BridgeLifecycle
import FprimeGds.Soundness.BridgeTeardown
import FprimeGds.Soundness.TopologyUse
import FprimeGds.Soundness.ApplicationRun
import FprimeGds.Soundness.Accounting
import FprimeGds.Soundness.ServiceUse
import FprimeGds.Soundness.DownstreamReads
import FprimeGds.Soundness.DownlinkProgress
import FprimeGds.Soundness.Memoryless
import FprimeGds.Soundness.TableLeases
import FprimeGds.Soundness.Reconciled
import FprimeGds.Soundness.DownlinkStream
import FprimeGds.Soundness.GroundView
import FprimeGds.Soundness.ContentBlind
import FprimeGds.Soundness.Restarts
