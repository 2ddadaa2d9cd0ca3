import GrpcLite.Drivers.ServerStreaming
import GrpcLite.Drivers.Unary

/-!
# The call objects of the official wrapper

`Grpc\Call`: storing a request, performing it as a unary call or opening it as a
server stream, the transparent retry of both, and `startBatch` on top. The
functions take the object and give it back changed.
-/

namespace GrpcLite

/-- The texts beside a status that the wrapper reports. -/
inductive CallDetails
  /-- The details of an exchange. -/
  | exchange (details : StatusDetails)
  /-- The text of a setup failure. -/
  | setup (details : SetupDetails)
  /-- `Cancelled`. -/
  | cancelled
  /-- `CallCredentials require a secure channel`. -/
  | requireSecureChannel
  deriving DecidableEq, Repr

/-- The status object. -/
structure CallStatus where
  /-- Status code. -/
  code : Int
  /-- Text beside the code. -/
  details : CallDetails
  /-- The trailing metadata. -/
  metadata : List (Bytes × Bytes)
  deriving DecidableEq, Repr

/-- `grpc_lite_call_obj`, with the channel fields it uses. -/
structure CallObj where
  /-- Connection key of the channel. -/
  key : Bytes
  /-- The channel uses TLS. -/
  ssl : Bool := false
  /-- The channel inputs and the method path are valid. -/
  inputsValid : Bool := true
  /-- Configured receive limit of the channel. -/
  maxReceiveMessageLength : Int := 0
  /-- Limit on the response metadata of the channel. -/
  maxResponseMetadataBytes : Nat := 65536
  /-- `deadline_us` of the call. -/
  deadlineUs : Int := 0
  /-- The call has credentials with a plugin. -/
  credentialsPlugin : Bool := false
  /-- The stored metadata is acceptable to `append_custom_request_headers`. -/
  metadataValid : Bool := true
  /-- The stored request message. -/
  requestPayload : Option Bytes := none
  /-- `Call::cancel` was called. -/
  cancelled : Bool := false
  /-- The unary call was performed. -/
  unaryPerformed : Bool := false
  /-- The unary response. -/
  unaryResponsePayload : Option Bytes := none
  /-- The server stream was opened. -/
  serverStreamingOpened : Bool := false
  /-- The resource of the server stream. -/
  serverStreamingResource : Option CallId := none
  /-- Stored initial metadata. -/
  initialMetadata : List (Bytes × Bytes) := []
  /-- Stored trailing metadata. -/
  trailingMetadata : List (Bytes × Bytes) := []
  /-- The initial metadata is final. -/
  initialMetadataReady : Bool := false
  /-- Stored status. -/
  status : Option CallStatus := none
  /-- The status is final. -/
  statusReady : Bool := false
  /-- Transport calls made for this object, oldest first. -/
  attempts : List CallId := []
  deriving DecidableEq, Repr

namespace CallObj

/-- `Call::__construct` behind its checks, with the fields of the channel and the deadline. -/
def construct (key : Bytes) (ssl inputsValid : Bool) (maxReceiveMessageLength : Int)
    (maxResponseMetadataBytes : Nat) (deadlineUs : Int) : CallObj where
  key := key
  ssl := ssl
  inputsValid := inputsValid
  maxReceiveMessageLength := maxReceiveMessageLength
  maxResponseMetadataBytes := maxResponseMetadataBytes
  deadlineUs := deadlineUs

/-- `ZEND_LONG_MAX`. -/
def zendLongMax : Int := 2 ^ 63 - 1

/-- `grpc_lite_call_deadline_abs_us`. -/
def deadlineAbsUs (call : CallObj) : Nat :=
  if call.deadlineUs ≤ 0 ∨ call.deadlineUs = zendLongMax then 0 else call.deadlineUs.toNat

/-- What the drivers are asked to send. -/
def request (call : CallObj) (message : Bytes) : CallRequest where
  key := call.key
  ssl := call.ssl
  message := message
  deadlineAbsUs := call.deadlineAbsUs
  maxReceiveMessageLength := call.maxReceiveMessageLength
  maxResponseMetadataBytes := call.maxResponseMetadataBytes
  inputsValid := call.inputsValid
  headersValid := call.metadataValid

/-- `grpc_lite_mark_call_failed`. -/
def markFailed (call : CallObj) (code : Int) (details : CallDetails) : CallObj :=
  { call with
    initialMetadata := [], trailingMetadata := [], status := some ⟨code, details, []⟩
    initialMetadataReady := true, statusReady := true }

/-- `grpc_lite_mark_unary_failed`. -/
def markUnaryFailed (call : CallObj) (code : Int) (details : CallDetails) : CallObj :=
  { call.markFailed code details with unaryPerformed := true, unaryResponsePayload := none }

/-- `grpc_lite_mark_call_cancelled`. -/
def markCancelled (call : CallObj) : CallObj :=
  if call.statusReady then call
  else { call.markFailed Status.cancelled .cancelled with unaryPerformed := true }

/-- The object after an attempt that created the calls from `first` up to `next`. -/
def noteAttempts (call : CallObj) (first next : CallId) : CallObj :=
  { call with attempts := call.attempts ++ List.range' first (next - first) }

end CallObj

/-- What `grpc_lite_server_streaming_next_for_call` gives. -/
inductive CallNext
  /-- A message; the first one brings the initial metadata. -/
  | message (payload : Bytes) (initialMetadata : List (Bytes × Bytes))
  /-- The end of the stream. -/
  | done (status : CallStatus) (initialMetadata trailingMetadata : List (Bytes × Bytes))
  deriving DecidableEq, Repr

/-- What a pull of the driver gives to the wrapper. -/
def NextResult.toCallNext : NextResult → CallNext
  | .message payload initialMetadata => .message payload initialMetadata
  | .done status initialMetadata trailingMetadata _ =>
    .done ⟨status.code, .exchange status.details, trailingMetadata⟩ initialMetadata
      trailingMetadata

/-- `result->outcome.transparent_retryable_unprocessed`, false for a message. -/
def NextResult.retryable : NextResult → Bool
  | .message _ _ => false
  | .done _ _ _ outcome => outcome.transparentRetryableUnprocessed

namespace Proc

/-- `grpc_lite_fail_if_call_credentials_require_secure_channel`. -/
def requiresSecureChannel (call : CallObj) : Bool := call.credentialsPlugin && !call.ssl

/-- `grpc_lite_merge_call_credentials_metadata`: the object with merged metadata, none for
FAILURE. The plugin answers without a `startBatch` or `cancel` on the same call. -/
def mergeCallCredentialsMetadata (call : CallObj) : Proc (Option CallObj) := do
  if !call.credentialsPlugin then return some call
  let answer ← onEnv <| Env.ask fun
    | .credentials metadataValid => some metadataValid
    | _ => none
  return answer.map fun valid => { call with metadataValid := valid }

/-! ## Unary calls -/

/-- How the attempts of a unary call end. -/
inductive UnaryAttempts
  /-- No connection could be opened. -/
  | setupFailure (code : Int) (error : SetupError)
  /-- The driver threw an exception. -/
  | failure (failure : Failure)
  /-- The last attempt has a result on a connection. -/
  | result (k : ConnId) (result : UnaryResult)
  deriving DecidableEq, Repr

/-- The attempt loop of `grpc_lite_perform_call_unary`, by attempts left. -/
def unaryAttempts (req : CallRequest) (retryAttempt : Nat) : Nat → Proc UnaryAttempts
  | 0 => return .failure .noResult
  | left + 1 => do
    match ← getPersistentConnection req.key req.deadlineAbsUs req.ssl with
    | .error error =>
      return .setupFailure (← setupFailureStatus error req.deadlineAbsUs) error
    | .ok k =>
      match ← unaryCallPerformOnConnection k req retryAttempt with
      | .error failure => return .failure failure
      | .ok result =>
        if !result.outcome.transparentRetryableUnprocessed then return .result k result
        Exec.when (result.outcome.refusedKind = .goaway)
          (removeUnusablePersistentConnection req.key k)
        unaryAttempts req (retryAttempt + 1) left

/-- The eviction behind the attempts; `remove_unusable_persistent_connection` repeats the
check of its caller. -/
def evictUnusable (key : Bytes) : UnaryAttempts → Proc Unit
  | .result k _ => removeUnusablePersistentConnection key k
  | _ => return

/-- The attempts and the eviction of a connection that is not usable any more. -/
def performUnary (req : CallRequest) : Proc UnaryAttempts := do
  let outcome ← unaryAttempts req 0 2
  evictUnusable req.key outcome
  return outcome

/-- The object behind the attempts of a unary call: false for FAILURE. -/
def storeUnary (call : CallObj) : UnaryAttempts → Bool × CallObj
  | .setupFailure code error => (true, call.markUnaryFailed code (.setup (.connection error)))
  | .failure _ => (false, call)
  | .result _ result =>
    (true, { call with
      initialMetadata := result.initialMetadata
      trailingMetadata := result.trailingMetadata
      status := some
        ⟨result.status.code, .exchange result.status.details, result.trailingMetadata⟩
      initialMetadataReady := true
      statusReady := true
      unaryResponsePayload := if result.status.code = Status.ok then result.body else none
      unaryPerformed := true })

/-- `grpc_lite_perform_call_unary`: false for FAILURE. -/
def performCallUnary (call : CallObj) : Proc (Bool × CallObj) := do
  match call.requestPayload with
  | none => return (false, call)
  | some message =>
    if requiresSecureChannel call then
      return (true, { call.markFailed Status.unauthenticated .requireSecureChannel with
        unaryPerformed := true })
    match ← mergeCallCredentialsMetadata call with
    | none => return (false, call)
    | some call =>
      let first := (← get).nextCall
      let outcome ← performUnary (call.request message)
      let next := (← get).nextCall
      return storeUnary (call.noteAttempts first next) outcome

/-! ## Server streams -/

/-- The destructor of the resource an object holds. -/
def dropResource (call : CallObj) : Proc Unit := do
  match call.serverStreamingResource with
  | some c => destroyServerStreamingCallState c
  | none => return

/-- The object behind an opened stream: false for FAILURE. -/
def storeOpened (call : CallObj) : Except Failure OpenResult → Bool × CallObj
  | .error _ => (false, call)
  | .ok (.opened c) =>
    (true, { call with serverStreamingOpened := true, serverStreamingResource := some c })
  | .ok (.setupFailure code details) =>
    (true, { call with serverStreamingOpened := true }.markFailed code (.setup details))

/-- `grpc_lite_open_call_stream_attempt` behind its metadata preparation. -/
def openPrepared (call : CallObj) (message : Bytes) (retryAttempt : Nat) :
    Proc (Bool × CallObj) := do
  dropResource call
  let call := { call with serverStreamingResource := none }
  let first := (← get).nextCall
  let opened ← serverStreamingCallOpenResource (call.request message) retryAttempt
  let next := (← get).nextCall
  return storeOpened (call.noteAttempts first next) opened

/-- `grpc_lite_open_call_stream_attempt`: false for FAILURE. -/
def openCallStreamAttempt (call : CallObj) (retryAttempt : Nat) (prepareMetadata : Bool) :
    Proc (Bool × CallObj) := do
  if call.serverStreamingOpened then return (true, call)
  match call.requestPayload with
  | none => return (false, call)
  | some message =>
    if !prepareMetadata then openPrepared call message retryAttempt
    else if requiresSecureChannel call then
      return (true, call.markFailed Status.unauthenticated .requireSecureChannel)
    else
      match ← mergeCallCredentialsMetadata call with
      | none => return (false, call)
      | some call => openPrepared call message retryAttempt

/-- `grpc_lite_retry_call_stream`. -/
def retryCallStream (call : CallObj) : Proc (Bool × CallObj) :=
  openCallStreamAttempt { call with serverStreamingOpened := false } 1 false

/-- The loop of `grpc_lite_server_streaming_next_for_call`: none for FAILURE. An opened
object without a status holds a resource; without one the source throws. -/
def nextForCallLoop : Nat → CallObj → Proc (Option CallNext × CallObj)
  | 0, _ => Exec.block
  | fuel + 1, call => do
    let (opened, call) ← openCallStreamAttempt call 0 true
    if !opened then return (none, call)
    match call.statusReady, call.status with
    | true, some status =>
      return (some (.done status call.initialMetadata call.trailingMetadata), call)
    | _, _ =>
      match call.serverStreamingResource with
      | none => return (none, call)
      | some c =>
        let result ← serverStreamingCallNextResource c
        if !result.retryable || call.initialMetadataReady then
          return (some result.toCallNext, call)
        let (opened, call) ← retryCallStream call
        if !opened then return (none, call)
        nextForCallLoop fuel call

/-- `grpc_lite_server_streaming_next_for_call`. Every round but the last opens a stream,
which takes an answer. -/
def serverStreamingNextForCall (call : CallObj) : Proc (Option CallNext × CallObj) := do
  nextForCallLoop ((← get).env.script.length + 2) call

/-! ## Batches -/

/-- The operations of one batch. -/
structure Batch where
  /-- `OP_SEND_INITIAL_METADATA`, by whether the metadata is acceptable. -/
  sendInitialMetadata : Option Bool := none
  /-- `OP_SEND_MESSAGE`: none inside for an operand of the wrong type. -/
  sendMessage : Option (Option Bytes) := none
  /-- `OP_RECV_INITIAL_METADATA`. -/
  recvInitialMetadata : Bool := false
  /-- `OP_RECV_MESSAGE`. -/
  recvMessage : Bool := false
  /-- `OP_RECV_STATUS_ON_CLIENT`. -/
  recvStatusOnClient : Bool := false
  deriving DecidableEq, Repr

/-- The event object that a batch returns; an absent property is none. -/
structure BatchEvent where
  /-- Initial metadata. -/
  metadata : Option (List (Bytes × Bytes)) := none
  /-- The message, null inside for none. -/
  message : Option (Option Bytes) := none
  /-- The status. -/
  status : Option CallStatus := none
  deriving DecidableEq, Repr

/-- `grpc_lite_store_send_batch`: false for FAILURE. -/
def storeSendBatch (call : CallObj) (ops : Batch) : Bool × CallObj :=
  let call := match ops.sendInitialMetadata with
    | some valid => { call with metadataValid := valid }
    | none => call
  match ops.sendMessage with
  | none => (true, call)
  | some none => (false, call)
  | some (some message) =>
    (true, { call with requestPayload := some message, unaryResponsePayload := none })

/-- The event of a batch, with the message of a pull. -/
def batchEvent (call : CallObj) (ops : Batch) (message : Option Bytes) : BatchEvent where
  metadata := if ops.recvInitialMetadata then some call.initialMetadata else none
  message := if ops.recvMessage then some message else none
  status := if ops.recvStatusOnClient then call.status else none

/-- The object behind a result of `grpc_lite_server_streaming_next_for_call`. -/
def storeNext (call : CallObj) : CallNext → CallObj
  | .message _ initialMetadata =>
    if call.initialMetadataReady then call
    else { call with initialMetadata := initialMetadata, initialMetadataReady := true }
  | .done status initialMetadata trailingMetadata =>
    let call := if call.initialMetadataReady then call
      else { call with initialMetadata := initialMetadata, initialMetadataReady := true }
    { call with
      trailingMetadata := trailingMetadata
      status := some { status with metadata := trailingMetadata }
      statusReady := true }

/-- A bound on the messages that the rest of an answer can bring. -/
def answerWeight : Answer → Nat
  | .memRecv events _ => 1 + (events.map fun
      | .stream _ (.data bytes) => bytes.length
      | _ => 0).sum
  | _ => 1

/-- A bound on the pulls that a drain can make. -/
def drainBound (call : CallObj) (w : World) : Nat :=
  (w.env.script.map answerWeight).sum + 2 + match call.serverStreamingResource with
    | some c => (w.calls c).call.responseQueue.length
    | none => 0

/-- The drain of a batch that wants the status of an open stream. The messages are
dropped; of them the first does not make the initial metadata ready. -/
def drainForStatus : Nat → CallObj → Proc (Bool × CallObj)
  | 0, _ => Exec.block
  | fuel + 1, call => do
    match ← serverStreamingNextForCall call with
    | (none, call) => return (false, call)
    | (some (.message _ _), call) => drainForStatus fuel call
    | (some (.done status initialMetadata trailingMetadata), call) =>
      return (true, storeNext call (.done status initialMetadata trailingMetadata))

/-- `Call::startBatch` behind the checks for a cancelled or finished call: none for an
exception. -/
def runBatch (call : CallObj) (ops : Batch) : Proc (Option BatchEvent × CallObj) := do
  if ops.recvStatusOnClient then
    if !call.unaryPerformed && !call.serverStreamingOpened then
      let (ok, call) ← performCallUnary call
      if !ok then return (none, call)
      return (some (batchEvent call ops call.unaryResponsePayload), call)
    else if call.serverStreamingOpened && !call.statusReady then
      let (ok, call) ← drainForStatus (drainBound call (← get)) call
      if !ok then return (none, call)
      return (some (batchEvent call ops (if call.unaryPerformed then call.unaryResponsePayload
        else none)), call)
    else return (some (batchEvent call ops call.unaryResponsePayload), call)
  else if ops.recvMessage && !call.unaryPerformed then
    match ← serverStreamingNextForCall call with
    | (none, call) => return (none, call)
    | (some next, call) =>
      let message := match next with
        | .message payload _ => some payload
        | .done _ _ _ => none
      let call := storeNext call next
      return (some (batchEvent call ops message), call)
  else return (some (batchEvent call ops (if call.unaryPerformed then call.unaryResponsePayload
    else none)), call)

/-- `Call::startBatch`: none for an exception. -/
def startBatch (call : CallObj) (ops : Batch) : Proc (Option BatchEvent × CallObj) := do
  let (stored, call) := storeSendBatch call ops
  if !stored then return (none, call)
  if call.cancelled then
    let call := call.markCancelled
    return (some (batchEvent call ops none), call)
  if call.statusReady then return (some (batchEvent call ops none), call)
  runBatch call ops

/-- The cancellation of the resource that an opened object holds. -/
def cancelResource (call : CallObj) : Proc Unit := do
  match call.serverStreamingOpened, call.serverStreamingResource with
  | true, some c => serverStreamingCallCancelResource c
  | _, _ => return

/-- `Call::cancel`. -/
def cancelCall (call : CallObj) : Proc CallObj := do
  cancelResource call
  return { call with cancelled := true }

/-- `Call::setCredentials`, by whether the credentials have a plugin. -/
def setCredentials (call : CallObj) (plugin : Bool) : CallObj :=
  { call with credentialsPlugin := plugin }

/-- `Channel::close`. -/
def channelClose (key : Bytes) : Proc Unit := do
  match ← findEntry key with
  | some entry => discardPersistentConnection key entry.connection
  | none => return

end Proc

end GrpcLite
