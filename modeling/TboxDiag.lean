import TboxDiag.UnlockGating
import TboxDiag.SessionEnd
import TboxDiag.BruteForce
import TboxDiag.Ownership
import TboxDiag.Exclusion
import TboxDiag.TesterIdentity
import TboxDiag.FrameAlignment
import TboxDiag.Pairing
import TboxDiag.Conformance
import TboxDiag.SessionGating
import TboxDiag.KeyTrials
import TboxDiag.StatusReport
import TboxDiag.Dependencies
import TboxDiag.RoutingTable
import TboxDiag.ControlType
import TboxDiag.SuppressBit
import TboxDiag.VinStore
import TboxDiag.ClientSockets
import TboxDiag.Polling
import TboxDiag.VerdictCounting
import TboxDiag.Activation
import TboxDiag.Addressing
import TboxDiag.SuppressedReply
import TboxDiag.WriteAtomicity
import TboxDiag.Reconnection
import TboxDiag.IpcAgreement
import TboxDiag.SeedSecrecy
import TboxDiag.VinLeak
import TboxDiag.UnlockHistory
import TboxDiag.LevelNaming
import TboxDiag.KeyRefusal
import TboxDiag.ProvRefusal
import TboxDiag.HexInput
import TboxDiag.RawCommand
import TboxDiag.MessageLength
import TboxDiag.SessionLease
import TboxDiag.Recovery
import TboxDiag.CliCommands
import TboxDiag.CliRuns
import TboxDiag.PrintedBytes
import TboxDiag.Restart
import TboxDiag.SecClientRuns
import TboxDiag.Acknowledgement
import TboxDiag.ClientUnlock
import TboxDiag.Lockout
import TboxDiag.Daemon
import TboxDiag.Startup
import TboxDiag.Availability
