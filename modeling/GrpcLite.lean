import GrpcLite.Core.Admission
import GrpcLite.Core.Base64
import GrpcLite.Core.Bytes
import GrpcLite.Core.Checked
import GrpcLite.Core.Counting
import GrpcLite.Core.Exec
import GrpcLite.Core.Framing
import GrpcLite.Core.IntrusiveList
import GrpcLite.Core.Json
import GrpcLite.Core.LinkedQueue
import GrpcLite.Core.OrderedMap
import GrpcLite.Correctness.Accounting
import GrpcLite.Correctness.Authority
import GrpcLite.Correctness.BinaryMetadata
import GrpcLite.Correctness.CacheHygiene
import GrpcLite.Correctness.CallLives
import GrpcLite.Correctness.ChunkIndependence
import GrpcLite.Correctness.Classification
import GrpcLite.Correctness.Coalescing
import GrpcLite.Correctness.ConnectionKey
import GrpcLite.Correctness.CredentialsMetadata
import GrpcLite.Correctness.Deadlines
import GrpcLite.Correctness.Decoding
import GrpcLite.Correctness.EventFrame
import GrpcLite.Correctness.Expiry
import GrpcLite.Correctness.Goaway
import GrpcLite.Correctness.HeaderBuilder
import GrpcLite.Correctness.InFlightPayload
import GrpcLite.Correctness.Informational
import GrpcLite.Correctness.MetadataMerge
import GrpcLite.Correctness.OkResponse
import GrpcLite.Correctness.PreflightDrain
import GrpcLite.Correctness.ReadAheadQueue
import GrpcLite.Correctness.RequestHeaders
import GrpcLite.Correctness.ResponseMetadata
import GrpcLite.Correctness.ResponseRules
import GrpcLite.Correctness.SetupStatus
import GrpcLite.Correctness.StatusDetails
import GrpcLite.Correctness.StatusMessage
import GrpcLite.Correctness.StreamDelivery
import GrpcLite.Correctness.StreamEnds
import GrpcLite.Correctness.StreamIds
import GrpcLite.Correctness.StreamRuns
import GrpcLite.Correctness.TerminalStatus
import GrpcLite.Correctness.Timeouts
import GrpcLite.Correctness.Timeval
import GrpcLite.Correctness.TraceFrames
import GrpcLite.Correctness.TraceLines
import GrpcLite.Correctness.TraceMasking
import GrpcLite.Correctness.TrailersOnly
import GrpcLite.Correctness.UnaryRuns
import GrpcLite.Correctness.Upload
import GrpcLite.Drivers.LoadedCall
import GrpcLite.Drivers.Request
import GrpcLite.Drivers.ServerStreaming
import GrpcLite.Drivers.Unary
import GrpcLite.Drivers.Wrapper
import GrpcLite.Exchange.Call
import GrpcLite.Exchange.Callbacks
import GrpcLite.Exchange.Metadata
import GrpcLite.Exchange.Protocol
import GrpcLite.Exchange.RequestHeaders
import GrpcLite.Exchange.Response
import GrpcLite.Exchange.Status
import GrpcLite.Exchange.Upload
import GrpcLite.Protocol.Driving
import GrpcLite.Protocol.Invariant
import GrpcLite.Protocol.Ledger
import GrpcLite.Protocol.Reachable
import GrpcLite.Protocol.Wiring
import GrpcLite.Refinement.Attempts
import GrpcLite.Refinement.Delivery
import GrpcLite.Refinement.Details
import GrpcLite.Refinement.Evidence
import GrpcLite.Refinement.Exchanges
import GrpcLite.Refinement.Flags
import GrpcLite.Refinement.Frames
import GrpcLite.Refinement.Inputs
import GrpcLite.Refinement.Io
import GrpcLite.Refinement.LoadedCall
import GrpcLite.Refinement.Moves
import GrpcLite.Refinement.Operations
import GrpcLite.Refinement.Orderly
import GrpcLite.Refinement.Ownership
import GrpcLite.Refinement.Peer
import GrpcLite.Refinement.Persistent
import GrpcLite.Refinement.Pulling
import GrpcLite.Refinement.Queues
import GrpcLite.Refinement.Receiving
import GrpcLite.Refinement.Release
import GrpcLite.Refinement.Reports
import GrpcLite.Refinement.Requests
import GrpcLite.Refinement.Retries
import GrpcLite.Refinement.Rounds
import GrpcLite.Refinement.Sending
import GrpcLite.Refinement.ServerStreaming
import GrpcLite.Refinement.Session
import GrpcLite.Refinement.Severed
import GrpcLite.Refinement.Sound
import GrpcLite.Refinement.Stages
import GrpcLite.Refinement.Stillness
import GrpcLite.Refinement.Timing
import GrpcLite.Refinement.Unary
import GrpcLite.Refinement.Unsorted
import GrpcLite.Refinement.View
import GrpcLite.Refinement.Works
import GrpcLite.Surface.CallMetadata
import GrpcLite.Surface.Channel
import GrpcLite.Surface.ConnectionKey
import GrpcLite.Surface.StatusText
import GrpcLite.Surface.Timeval
import GrpcLite.Trace.Records
import GrpcLite.Transport.ActiveStreams
import GrpcLite.Transport.Connection
import GrpcLite.Transport.Environment
import GrpcLite.Transport.Io
import GrpcLite.Transport.Ownership
import GrpcLite.Transport.Persistent
import GrpcLite.Transport.PreflightDrain
import GrpcLite.Transport.Session
import GrpcLite.Transport.World
