import GrpcLite.Transport.Environment

/-!
# Connections

The connection record with the library's view of its streams beside it. A stream
entry keeps the call that owns the request bytes and whether the library has
closed the stream or accepted a reset for it. The socket, the session object and
the scratch buffer exist from creation to destruction and carry no state here.
-/

namespace GrpcLite

/-- What the library knows of one submitted stream. -/
structure StreamEntry where
  /-- Stream identifier. -/
  streamId : Int
  /-- Call whose bytes the stream sends: `data_provider.source.ptr`. -/
  source : CallId
  /-- Call registered for callbacks. -/
  userData : Option CallId := none
  /-- The library has closed the stream. -/
  closed : Bool := false
  /-- The library has accepted a reset of the stream. -/
  reset : Bool := false
  /-- DATA bytes received on the stream while it was open. -/
  data : Bytes := []
  deriving DecidableEq, Repr

/-- DATA bytes arrive for a stream, which counts while it is open. -/
def StreamEntry.receive (streamId : Int) (bytes : Bytes) (entry : StreamEntry) : StreamEntry :=
  if entry.streamId = streamId ∧ entry.closed = false then
    { entry with data := entry.data ++ bytes }
  else entry

namespace Streams

/-- Change the entry of one stream. -/
def modify (streamId : Int) (f : StreamEntry → StreamEntry) (streams : List StreamEntry) :
    List StreamEntry :=
  streams.map fun entry => if entry.streamId = streamId then f entry else entry

/-- DATA bytes arrive on a stream. -/
def append (streamId : Int) (bytes : Bytes) (streams : List StreamEntry) : List StreamEntry :=
  streams.map (StreamEntry.receive streamId bytes)

/-- The call registered for a stream: nothing for a closed or unknown stream. -/
def userData (streamId : Int) (streams : List StreamEntry) : Option CallId :=
  match streams.find? fun entry => entry.streamId = streamId && !entry.closed with
  | some entry => entry.userData
  | none => none

end Streams

/-- `struct _h2_connection`. -/
structure H2Connection where
  /-- The connection runs over TLS. -/
  ssl : Bool := false
  /-- No input or output is allowed any more. -/
  dead : Bool := false
  /-- A GOAWAY arrived: no new streams. -/
  draining : Bool := false
  /-- The connection left the persistent cache. -/
  detachedFromCache : Bool := false
  /-- Counter beside `activeStreams`. -/
  activeStreamCount : Nat := 0
  /-- Number of calls that own the connection. -/
  streamOwnerCount : Nat := 0
  /-- Registered calls, newest first. -/
  activeStreams : List CallId := []
  /-- Call whose receive loop is feeding the session. -/
  currentReadCall : Option CallId := none
  /-- Deadline of the write in progress; zero for none. -/
  currentWriteDeadlineAbsUs : Nat := 0
  /-- The write in progress ran into its deadline. -/
  currentWriteTimedOut : Bool := false
  /-- Coalesced bytes not yet written. -/
  writeBuffer : Bytes := []
  /-- Capacity of `writeBuffer`. -/
  writeBufferCap : Nat := 65536
  /-- Writes are coalesced. -/
  writeCoalescing : Bool := false
  /-- Deadline of the connection setup; zero afterwards. -/
  setupDeadlineAbsUs : Nat := 0
  /-- The setup ran into its deadline. -/
  setupTimedOut : Bool := false
  /-- Error that killed the connection. -/
  lastError : Int := 0
  /-- `errno` of the last failure. -/
  lastIoErrno : Nat := 0
  /-- `SSL_get_error` of the last TLS operation that did not complete. -/
  lastSslError : Nat := 0
  /-- Text of the last failure. -/
  lastErrorDetail : Option ErrorDetail := none
  /-- Error code of the last GOAWAY. -/
  lastGoawayErrorCode : Nat := 0
  /-- Last stream of the last GOAWAY. -/
  lastGoawayStreamId : Int := 0
  /-- Streams of the session. -/
  streams : List StreamEntry := []
  /-- The library may hold frames that it can send. -/
  outbound : Bool := false
  /-- Chunks that the library gave to the writer, oldest first. -/
  handed : List Bytes := []
  /-- Largest length that `writeBuffer` has had. -/
  writeBufferPeak : Nat := 0
  /-- Bytes given to the socket or to TLS. -/
  wire : Bytes := []
  /-- Number of times the object was destroyed. -/
  destroyed : Nat := 0
  deriving DecidableEq, Repr

namespace H2Connection

/-- `mark_connection_dead`. -/
def markDead (conn : H2Connection) (errorCode : Int) : H2Connection :=
  { conn with
    dead := true
    lastError := errorCode
    lastIoErrno := if errorCode > 0 then errorCode.toNat else conn.lastIoErrno
    lastErrorDetail := conn.lastErrorDetail <|> some (
      if errorCode > 0 then .strerror errorCode.toNat
      else if errorCode < 0 then .nghttp2 errorCode
      else .connectionClosed) }

/-- `mark_connection_draining`. -/
def markDraining (conn : H2Connection) (lastStreamId : Int) (errorCode : Nat) : H2Connection :=
  { conn with
    draining := true, lastGoawayStreamId := lastStreamId, lastGoawayErrorCode := errorCode }

/-- `connection_usable`. -/
def usable (conn : H2Connection) : Bool := !conn.dead && !conn.draining

/-- `connection_io_allowed`. -/
def ioAllowed (conn : H2Connection) : Bool := !conn.dead

/-- Change the entry of one stream. -/
def mapStream (conn : H2Connection) (streamId : Int) (f : StreamEntry → StreamEntry) :
    H2Connection :=
  { conn with streams := Streams.modify streamId f conn.streams }

/-- The library receives an event of a stream. -/
def receive (conn : H2Connection) (streamId : Int) (event : StreamEvent) : H2Connection :=
  { conn with streams := Streams.append streamId event.bytes conn.streams }

/-- `nghttp2_session_get_stream_user_data`. -/
def userData (conn : H2Connection) (streamId : Int) : Option CallId :=
  Streams.userData streamId conn.streams

/-- The call whose request the library would read for a stream: none once the stream is
closed or its reset accepted. -/
def requestSource (conn : H2Connection) (streamId : Int) : Option CallId :=
  (conn.streams.find? fun entry =>
    entry.streamId = streamId && !entry.closed && !entry.reset).map StreamEntry.source

/-- Record a failure of input or output. -/
def noteFailure (conn : H2Connection) (errno : Nat) (detail : ErrorDetail) : H2Connection :=
  { conn with lastIoErrno := errno, lastErrorDetail := some detail }

/-- The flag that a write past its deadline raises. -/
def markWriteTimedOut (conn : H2Connection) : H2Connection :=
  if conn.currentWriteDeadlineAbsUs > 0 then { conn with currentWriteTimedOut := true }
  else { conn with setupTimedOut := true }

/-- The deadline that the write callbacks use. -/
def writeDeadline (conn : H2Connection) : Nat :=
  if conn.currentWriteDeadlineAbsUs > 0 then conn.currentWriteDeadlineAbsUs
  else conn.setupDeadlineAbsUs

end H2Connection

end GrpcLite
