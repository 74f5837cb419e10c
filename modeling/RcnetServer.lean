import RcnetServer.Lib.UnorderedMap
import RcnetServer.Lib.TraceMachine
import RcnetServer.Lib.Lifecycle
import RcnetServer.Lib.Precedence
import RcnetServer.Lib.Isolation
import RcnetServer.Lib.BigEndian
import RcnetServer.Lib.BatchQueue
import RcnetServer.Lib.PrefixCode
import RcnetServer.Lib.Binary64
import RcnetServer.Lib.TimeWindows
import RcnetServer.Lib.StringLiterals
import RcnetServer.Lib.Refinement
import RcnetServer.Lib.Progress
import RcnetServer.Lib.WrappingCounter
import RcnetServer.Lib.LockOrder
import RcnetServer.Network.ByteStream
import RcnetServer.Network.Packets
import RcnetServer.Network.PacketCodec
import RcnetServer.Network.RoundTrip
import RcnetServer.Network.ReadProgram
import RcnetServer.Network.Parsers
import RcnetServer.Network.FieldCalls
import RcnetServer.Crypto
import RcnetServer.State
import RcnetServer.Protocol.ClientLife
import RcnetServer.Protocol.ClientHistory
import RcnetServer.Network.Host
import RcnetServer.Network.Incoming
import RcnetServer.Network.Fragments
import RcnetServer.Network.Encryption
import RcnetServer.Network.Compression
import RcnetServer.Network.Outgoing
import RcnetServer.Simulation.Handlers
import RcnetServer.Simulation.MatchFlow
import RcnetServer.Threading.Queues
import RcnetServer.Threading.StoppableQueues
import RcnetServer.Simulation.MetricsPublisher
import RcnetServer.BuildScripts.CaBundle
import RcnetServer.Services.Http
import RcnetServer.Services.HttpWorker
import RcnetServer.Services.NatsWorker
import RcnetServer.Game.World
import RcnetServer.System
import RcnetServer.System.Steps
import RcnetServer.System.Logs
import RcnetServer.System.Connections
import RcnetServer.System.Sessions
import RcnetServer.System.Connects
import RcnetServer.Properties.Mirror
import RcnetServer.System.Sending
import RcnetServer.Properties.SlotReuse
import RcnetServer.System.Handshake
import RcnetServer.Properties.EncryptionFlags
import RcnetServer.System.Authentication
import RcnetServer.Properties.OneAuthentication
import RcnetServer.System.Gating
import RcnetServer.System.MatchPhases
import RcnetServer.Properties.GameplayGate
import RcnetServer.System.KeyMaterial
import RcnetServer.Properties.AcknowledgedKeys
import RcnetServer.Properties.BoundIdentity
import RcnetServer.Properties.MatchStart
import RcnetServer.Properties.PendingInputs
import RcnetServer.Properties.MatchInit
import RcnetServer.Properties.Isolation
import RcnetServer.Properties.SignedAttestation
import RcnetServer.Properties.OutgoingQueue
import RcnetServer.Properties.ConnectionTable
import RcnetServer.Properties.ConnectionIds
import RcnetServer.Properties.MatchPhaseOrder
import RcnetServer.System.Snapshots
import RcnetServer.Properties.LastSentSnapshot
import RcnetServer.Properties.AckedSnapshots
import RcnetServer.Properties.SnapshotOrder
import RcnetServer.System.Rejections
import RcnetServer.Properties.RejectedClients
import RcnetServer.System.HttpWorker
import RcnetServer.Properties.Admission
import RcnetServer.Properties.ClientParsers
import RcnetServer.Properties.ReliableWireFormat
import RcnetServer.Properties.RejectedHellos
import RcnetServer.Properties.PacketEncryption
import RcnetServer.Properties.EncryptionFailures
import RcnetServer.Properties.SnapshotPatching
import RcnetServer.Properties.PacketCompression
import RcnetServer.Properties.AccountIdentity
import RcnetServer.Properties.WorkerQueues
import RcnetServer.Properties.FieldRoundTrip
import RcnetServer.Properties.ReaderBounds
import RcnetServer.Properties.FragmentCopies
import RcnetServer.Properties.MetricsGrid
import RcnetServer.Properties.CaBundle
import RcnetServer.System.Progress
import RcnetServer.Properties.ClientProtocol
import RcnetServer.Properties.WireContents
import RcnetServer.Properties.MatchAgreement
import RcnetServer.Properties.RequestResponse
import RcnetServer.Properties.ReliableStream
import RcnetServer.Properties.AckContexts
import RcnetServer.Properties.Quiescence
import RcnetServer.Properties.Refusals
import RcnetServer.Properties.GettingReady
import RcnetServer.Properties.MatchCanStart
import RcnetServer.Properties.SessionHistory
import RcnetServer.Properties.SequentialReplay
import RcnetServer.Properties.TokenOrigin
import RcnetServer.Properties.NatsThread
import RcnetServer.Properties.Spawning
import RcnetServer.Properties.ConnectionLifetime
import RcnetServer.System.Locks
import RcnetServer.Properties.LockDiscipline
