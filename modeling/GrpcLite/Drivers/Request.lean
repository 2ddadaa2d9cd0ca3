import GrpcLite.Transport.Persistent

/-!
# Requests

What the two call drivers share: the request with its limits, the exceptions,
the submission to the library and the classification of a failed read. The
request headers enter through the outcome of `append_custom_request_headers`,
which depends on the metadata alone.
-/

namespace GrpcLite

/-- What a driver is asked to send and under which limits. -/
structure CallRequest where
  /-- Connection key of the channel. -/
  key : Bytes
  /-- The channel uses TLS. -/
  ssl : Bool := false
  /-- The request message. -/
  message : Bytes := []
  /-- Absolute deadline in microseconds; zero for none. -/
  deadlineAbsUs : Nat := 0
  /-- Configured receive limit; minus one for none, zero for the default. -/
  maxReceiveMessageLength : Int := 0
  /-- Limit on the response metadata. -/
  maxResponseMetadataBytes : Nat := 65536
  /-- The channel inputs and the method path are valid. -/
  inputsValid : Bool := true
  /-- `append_custom_request_headers` accepts the metadata. -/
  headersValid : Bool := true
  deriving DecidableEq, Repr

/-- `effective_max_receive_message_bytes`. -/
def effectiveMaxReceiveMessageBytes (maxReceiveMessageLength : Int) : Nat :=
  if maxReceiveMessageLength = -1 then 2 ^ 64 - 1
  else if maxReceiveMessageLength > 0 then maxReceiveMessageLength.toNat
  else 64 * 1024 * 1024

/-- The exceptions that the drivers throw. -/
inductive Failure
  /-- `invalid grpc_lite connection`. -/
  | invalidConnection
  /-- Invalid channel inputs or method path. -/
  | invalidInputs
  /-- `gRPC request message exceeds 32-bit frame length`. -/
  | requestTooLong
  /-- The exception of `append_custom_request_headers`. -/
  | invalidMetadata
  /-- `nghttp2_submit_request failed`. -/
  | submitFailed
  /-- `failed to register HTTP/2 stream`. -/
  | registerFailed
  /-- `nghttp2_session_mem_recv failed`. -/
  | memRecvFailed
  /-- No attempt left a result. -/
  | noResult
  deriving DecidableEq, Repr

/-- The fields that both drivers initialise alike. -/
def CallRequest.startCall (req : CallRequest) (k : ConnId) (retryAttempt : Nat) : GrpcCall :=
  GrpcCall.setMessageHeader
    { connection := some k
      retryAttempt := retryAttempt
      decodeResponseIncrementally := true
      directResponsePayload := true
      queueResponsePayloads := true
      request := req.message
      maxReceiveMessageBytes := effectiveMaxReceiveMessageBytes req.maxReceiveMessageLength
      maxResponseMetadataBytes := req.maxResponseMetadataBytes
      deadlineAbsUs := req.deadlineAbsUs }
    req.message.length

/-- The condition under which a failed read counts as an expired deadline. -/
def socketTimeout (nread : Int) (errno deadlineAbsUs : Nat) : Bool :=
  decide (nread < 0) && (decide (errno = Errno.eagain) || decide (errno = Errno.etimedout)) &&
    decide (deadlineAbsUs > 0)

namespace Proc

/-- A new call object. -/
def newCall (start : GrpcCall) : Proc CallId := do
  let w ← get
  set { w with
    nextCall := w.nextCall + 1
    calls := Function.update w.calls w.nextCall { call := start, start := start, live := true } }
  return w.nextCall

/-- `nghttp2_submit_request` with the call as data source. The library gives every stream
a new positive identifier. -/
def submitRequest (k : ConnId) (c : CallId) : Proc Int := do
  log k .submitRequest
  let streams := (← conn k).streams
  let rv ← onEnv <| Env.ask fun
    | .submitRequest rv =>
      if rv < 0 ∨ (rv > 0 ∧ streams.all fun entry => entry.streamId < rv) then some rv else none
    | _ => none
  input c (.submitted rv)
  Exec.when (rv > 0) do
    setConn k fun conn =>
      { conn with streams := conn.streams ++ [{ streamId := rv, source := c }] }
    noteOutbound k true
  return rv

/-- A fatal submission kills the connection, which leaves the cache at once. -/
def noteSubmitFailure (k : ConnId) (rv : Int) : Proc Unit :=
  Exec.when (Nghttp2.isFatal rv) do
    markConnectionDead k rv
    detachPersistentConnectionByPtr k

/-- The text of the connection a call points at. -/
def connectionDetail (c : CallId) : Proc (Option ErrorDetail) := do
  match (← call c).connection with
  | some k => return (← conn k).lastErrorDetail
  | none => return none

/-- The handling of a read that returned nothing: true when the deadline ended the call. -/
def noteReadFailure (k : ConnId) (c : CallId) (nread : Int) : Proc Bool := do
  let errno := (← get).env.errno
  let conn ← conn k
  Exec.when (nread < 0) (input c (.ioError errno conn.lastSslError conn.lastErrorDetail))
  return socketTimeout nread errno (← call c).deadlineAbsUs

/-- The session calls behind a successful read, with the call as the reader. -/
def feedSession (k : ConnId) (c : CallId) : Proc Int := do
  setConn k fun conn => { conn with currentReadCall := some c }
  let rv ← sessionMemRecv k
  setConn k fun conn => { conn with currentReadCall := none }
  return rv

/-- The flush behind a successful read: the failure of the send, zero for none. -/
def flushAfterRead (k : ConnId) (c : CallId) : Proc Int := do
  if ← sessionWantWrite k then sendPendingH2Frames k (some c) else return 0

end Proc

end GrpcLite
