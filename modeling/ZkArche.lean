import ZkArche.Primitives.Transcript
import ZkArche.Primitives.SmallSuite
import ZkArche.Foundation.Collections
import ZkArche.Server.Proofs
import ZkArche.Client.Proofs
import ZkArche.Server.Registry
import ZkArche.Server.Replay
import ZkArche.Server.State
import ZkArche.Server.Setup
import ZkArche.Server.Payload
import ZkArche.Server.Auth
import ZkArche.Server.Verification
import ZkArche.Server.AcceptedSession
import ZkArche.Server.Poisoning
import ZkArche.Foundation.Runs
import ZkArche.Foundation.Posix
import ZkArche.Foundation.Generations
import ZkArche.Server.Dispatch
import ZkArche.Server.Threads
import ZkArche.Server.Rebinding
import ZkArche.Server.HandleIndex
import ZkArche.Server.AtomicWrite
import ZkArche.Server.ReplayFile
import ZkArche.Server.ReplayWindow
import ZkArche.Server.Persistence
import ZkArche.Client.Files
import ZkArche.Client.Setup
import ZkArche.Client.Auth
import ZkArche.Protocol.Confirmation
import ZkArche.Foundation.Symbolic
import ZkArche.Primitives.SymbolicSuite
import ZkArche.Protocol.Traffic
import ZkArche.Foundation.Disjunction
import ZkArche.Protocol.RoleExtraction
import ZkArche.Client.RoleProof
import ZkArche.CImpl.Transcript
import ZkArche.Foundation.Windows
import ZkArche.Server.RateLimit
import ZkArche.Server.Ban
import ZkArche.Server.PeerIsolation
import ZkArche.CImpl.Sodium
import ZkArche.Foundation.Enrollments
import ZkArche.CServer.Handler
import ZkArche.CServer.Failures
import ZkArche.Server.SetupDialogue
import ZkArche.CImpl.SuiteSodium
import ZkArche.CServer.SetupDialogue
import ZkArche.CServer.Agreement
import ZkArche.Protocol.SameRegistry
import ZkArche.CServer.Sessions
import ZkArche.CServer.Restarts
import ZkArche.CServer.AcceptLoop
import ZkArche.CServer.Verification
import ZkArche.CServer.Payload
import ZkArche.CServer.Replies
import ZkArche.Server.Replies
import ZkArche.Protocol.Requests
import ZkArche.Protocol.SameRecords
import ZkArche.Protocol.SameReplies
import ZkArche.Protocol.SameBans
import ZkArche.Protocol.SameDecisions
import ZkArche.Protocol.FailedSave
import ZkArche.Client.TofuPin
import ZkArche.Server.StartUp
import ZkArche.Protocol.ReplayLoaders
import ZkArche.CServer.SaveSteps
import ZkArche.Protocol.StateFiles
import ZkArche.Protocol.EnrolledValues
import ZkArche.Foundation.Rounds
import ZkArche.Primitives.Turns
import ZkArche.Protocol.DeviceTurns
import ZkArche.Protocol.ServerTurns
import ZkArche.Protocol.HonestProofs
import ZkArche.Protocol.HonestSessions
import ZkArche.Server.RegistryCodec
import ZkArche.Primitives.Frames
import ZkArche.Edhoc.Request
import ZkArche.Edhoc.Delivery
import ZkArche.Mtls.Request
import ZkArche.Primitives.Decimal
import ZkArche.Server.Options
import ZkArche.CServer.Options
import ZkArche.Protocol.PairingTokens
import ZkArche.Protocol.PairingWindows
import ZkArche.Server.Limiter
import ZkArche.Benchmarks.Runner
import ZkArche.Mininet.FullSessions
import ZkArche.Mininet.Collection
import ZkArche.Benchmarks.Latency
import ZkArche.CImpl.Hkdf
import ZkArche.CServer.Exhaustion
import ZkArche.Benchmarks.Power
import ZkArche.Benchmarks.Enrollment
import ZkArche.CClient.DeviceFiles
import ZkArche.CClient.Proofs
import ZkArche.CClient.Auth
import ZkArche.CClient.Setup
import ZkArche.Protocol.SameProofs
import ZkArche.Protocol.CServerTurns
import ZkArche.Protocol.SameRequests
import ZkArche.Protocol.SameSessions
import ZkArche.Protocol.CDeviceTurns
import ZkArche.Client.Commands
import ZkArche.Interop.Commands
import ZkArche.Interop.Answers
import ZkArche.Interop.Peers
import ZkArche.Interop.Honest
import ZkArche.Interop.Devices
import ZkArche.Interop.Records
import ZkArche.Interop.Servers
import ZkArche.Interop.Runs
import ZkArche.Protocol.MutualAuthentication
import ZkArche.Protocol.NetworkSessions
