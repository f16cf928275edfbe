import LatticeNodes.Library.SecretCells
import LatticeNodes.Library.TransitionSystem
import LatticeNodes.Program.Diagnostics
import LatticeNodes.Program.ErrorDisplay
import LatticeNodes.Program.PirLoop
import LatticeNodes.Program.Sketch
import LatticeNodes.Analysis.AdapterAnswers
import LatticeNodes.Analysis.AdapterHistory
import LatticeNodes.Analysis.BeaconDedup
import LatticeNodes.Analysis.BeaconSpread
import LatticeNodes.Analysis.BeaconUptime
import LatticeNodes.Analysis.BestRoute
import LatticeNodes.Analysis.BootEpochs
import LatticeNodes.Analysis.CommandAddress
import LatticeNodes.Analysis.CommandAgreement
import LatticeNodes.Analysis.CopyOrder
import LatticeNodes.Analysis.DevMode
import LatticeNodes.Analysis.DeviceIdentity
import LatticeNodes.Analysis.DiagnosticLeak
import LatticeNodes.Analysis.EepromStore
import LatticeNodes.Analysis.Enrollment
import LatticeNodes.Analysis.EnrollmentAgreement
import LatticeNodes.Analysis.EnrollmentGate
import LatticeNodes.Analysis.EnrollmentRelay
import LatticeNodes.Analysis.ErrorSignalling
import LatticeNodes.Analysis.FloodCoverage
import LatticeNodes.Analysis.FloodOnce
import LatticeNodes.Analysis.FollowedMaster
import LatticeNodes.Analysis.KeypairCrc
import LatticeNodes.Analysis.LoopPasses
import LatticeNodes.Analysis.MotionReports
import LatticeNodes.Analysis.NanopbDecoding
import LatticeNodes.Analysis.NanopbEncoding
import LatticeNodes.Analysis.NearerMaster
import LatticeNodes.Analysis.PeerMirror
import LatticeNodes.Analysis.PeerSeeding
import LatticeNodes.Analysis.PendingWrites
import LatticeNodes.Analysis.PowerLoss
import LatticeNodes.Analysis.ProtobufFields
import LatticeNodes.Analysis.RadioRegistry
import LatticeNodes.Analysis.ReceiveFifo
import LatticeNodes.Analysis.Reconfiguration
import LatticeNodes.Analysis.RelayTimer
import LatticeNodes.Analysis.ReplayFifo
import LatticeNodes.Analysis.ReplayWindow
import LatticeNodes.Analysis.ResetGesture
import LatticeNodes.Analysis.RestartSafety
import LatticeNodes.Analysis.RoleButton
import LatticeNodes.Analysis.RoleFrames
import LatticeNodes.Analysis.RouteHealing
import LatticeNodes.Analysis.SchemaMigration
import LatticeNodes.Analysis.SelfEcho
import LatticeNodes.Analysis.SerialCapacity
import LatticeNodes.Analysis.SerialFraming
import LatticeNodes.Analysis.ServerFrames
import LatticeNodes.Analysis.TargetedCommand
import LatticeNodes.Analysis.TrafficBound
import LatticeNodes.Analysis.TrustAnchor
import LatticeNodes.Analysis.UplinkBridge
import LatticeNodes.Analysis.UplinkFlood
import LatticeNodes.Analysis.WatchdogLoop
