import GrpcLite.Drivers.Wrapper
import GrpcLite.Surface.CallMetadata

/-!
# Call objects with their metadata

`Grpc\Call` with the contents of its stored metadata. The functions do what those of
the call object do; beside it they store the metadata of a batch, merge what the
credentials plugin returned, and note what every request handed to a driver carries. The note is
taken when the driver is back, also when it failed: the driver was given `call->metadata` as it is
at the submission, and nothing changes the stored metadata before the note, since the plugin runs
ahead of the driver and does not call back into the same call.
-/

namespace GrpcLite

/-- A request that was handed to a driver. -/
structure SentRequest where
  /-- The metadata that userland set last. -/
  userland : MetadataMap
  /-- What the plugin returned since then, oldest first. -/
  returned : List MetadataMap
  /-- The metadata that the driver was given. -/
  metadata : MetadataMap
  /-- The calls that the library accepted for it. -/
  submitted : List CallId
  deriving DecidableEq

/-- A call object with the contents of its metadata. -/
structure LoadedCall where
  /-- The object. -/
  call : CallObj
  /-- `call->metadata`. -/
  metadata : MetadataMap := .empty
  /-- The metadata that userland set last. -/
  userland : MetadataMap := .empty
  /-- What the plugin returned since then, oldest first. -/
  returned : List MetadataMap := []
  /-- Requests handed to the drivers, oldest first. -/
  sent : List SentRequest := []

/-- A batch with the metadata of its `OP_SEND_INITIAL_METADATA`, and what the plugin returns if it
is asked while the batch runs. -/
structure LoadedBatch where
  /-- The operations. -/
  ops : Proc.Batch
  /-- The operand of `OP_SEND_INITIAL_METADATA`. -/
  metadata : MetadataMap := .empty
  /-- The array that the plugin returns. -/
  returns : MetadataMap := .empty

namespace LoadedCall

/-- `grpc_lite_merge_call_credentials_metadata`. -/
def mergeCallCredentialsMetadata (s : LoadedCall) (returns : MetadataMap) :
    Proc (Option LoadedCall) := do
  match ← Proc.mergeCallCredentialsMetadata s.call with
  | none => return none
  | some call =>
    if s.call.credentialsPlugin then
      return some { s with
        call := call
        metadata := s.metadata.mergeMetadataAppendValues returns
        returned := s.returned ++ [returns] }
    else return some { s with call := call }

/-- Note the request of a driver that is back: it was given the stored metadata, and its calls are
those from `first` on that nghttp2 gave a stream id. -/
def noteSent (s : LoadedCall) (first : CallId) (w : World) : LoadedCall :=
  { s with sent := s.sent ++ [⟨s.userland, s.returned, s.metadata,
      (List.range' first (w.nextCall - first)).filter fun c =>
        (w.calls c).call.streamId > 0⟩] }

/-- `grpc_lite_perform_call_unary`. -/
def performCallUnary (s : LoadedCall) (returns : MetadataMap) : Proc (Bool × LoadedCall) := do
  match s.call.requestPayload with
  | none => return (false, s)
  | some message =>
    if Proc.requiresSecureChannel s.call then
      return (true, { s with
        call := { s.call.markFailed Status.unauthenticated .requireSecureChannel with
          unaryPerformed := true } })
    match ← s.mergeCallCredentialsMetadata returns with
    | none => return (false, s)
    | some s =>
      let first := (← get).nextCall
      let outcome ← Proc.performUnary (s.call.request message)
      let w ← get
      let s := s.noteSent first w
      let (ok, call) := Proc.storeUnary (s.call.noteAttempts first w.nextCall) outcome
      return (ok, { s with call := call })

/-- `grpc_lite_open_call_stream_attempt` behind its metadata preparation. -/
def openPrepared (s : LoadedCall) (message : Bytes) (retryAttempt : Nat) :
    Proc (Bool × LoadedCall) := do
  Proc.dropResource s.call
  let s := { s with call := { s.call with serverStreamingResource := none } }
  let first := (← get).nextCall
  let opened ← Proc.serverStreamingCallOpenResource (s.call.request message) retryAttempt
  let w ← get
  let s := s.noteSent first w
  let (ok, call) := Proc.storeOpened (s.call.noteAttempts first w.nextCall) opened
  return (ok, { s with call := call })

/-- `grpc_lite_open_call_stream_attempt`. -/
def openCallStreamAttempt (s : LoadedCall) (returns : MetadataMap) (retryAttempt : Nat)
    (prepareMetadata : Bool) : Proc (Bool × LoadedCall) := do
  if s.call.serverStreamingOpened then return (true, s)
  match s.call.requestPayload with
  | none => return (false, s)
  | some message =>
    if !prepareMetadata then s.openPrepared message retryAttempt
    else if Proc.requiresSecureChannel s.call then
      return (true, { s with
        call := s.call.markFailed Status.unauthenticated .requireSecureChannel })
    else
      match ← s.mergeCallCredentialsMetadata returns with
      | none => return (false, s)
      | some s => s.openPrepared message retryAttempt

/-- `grpc_lite_retry_call_stream`. -/
def retryCallStream (s : LoadedCall) (returns : MetadataMap) : Proc (Bool × LoadedCall) :=
  openCallStreamAttempt { s with call := { s.call with serverStreamingOpened := false } } returns
    1 false

/-- The pull of a round of `grpc_lite_server_streaming_next_for_call`; a stream that may be retried
is opened again, and the next round follows. -/
def pullOrRetry (s : LoadedCall) (returns : MetadataMap)
    (nextRound : LoadedCall → Proc (Option CallNext × LoadedCall)) :
    Proc (Option CallNext × LoadedCall) := do
  match s.call.serverStreamingResource with
  | none => return (none, s)
  | some c =>
    let result ← Proc.serverStreamingCallNextResource c
    if !result.retryable || s.call.initialMetadataReady then
      return (some result.toCallNext, s)
    let (opened, s) ← s.retryCallStream returns
    if !opened then return (none, s)
    nextRound s

/-- The loop of `grpc_lite_server_streaming_next_for_call`. -/
def nextForCallLoop (returns : MetadataMap) :
    Nat → LoadedCall → Proc (Option CallNext × LoadedCall)
  | 0, _ => Exec.block
  | fuel + 1, s => do
    let (opened, s) ← s.openCallStreamAttempt returns 0 true
    if !opened then return (none, s)
    match s.call.statusReady, s.call.status with
    | true, some status =>
      return (some (.done status s.call.initialMetadata s.call.trailingMetadata), s)
    | _, _ => s.pullOrRetry returns (nextForCallLoop returns fuel)

/-- `grpc_lite_server_streaming_next_for_call`. -/
def serverStreamingNextForCall (s : LoadedCall) (returns : MetadataMap) :
    Proc (Option CallNext × LoadedCall) := do
  nextForCallLoop returns ((← get).env.script.length + 2) s

/-- `grpc_lite_store_send_batch`. -/
def storeSendBatch (s : LoadedCall) (batch : LoadedBatch) : Bool × LoadedCall :=
  let (stored, call) := Proc.storeSendBatch s.call batch.ops
  (stored,
    if batch.ops.sendInitialMetadata.isSome then
      { s with
        call := call, metadata := batch.metadata, userland := batch.metadata, returned := [] }
    else { s with call := call })

/-- The drain of a batch that wants the status of an open stream. -/
def drainForStatus (returns : MetadataMap) : Nat → LoadedCall → Proc (Bool × LoadedCall)
  | 0, _ => Exec.block
  | fuel + 1, s => do
    match ← s.serverStreamingNextForCall returns with
    | (none, s) => return (false, s)
    | (some (.message _ _), s) => drainForStatus returns fuel s
    | (some (.done status initialMetadata trailingMetadata), s) =>
      return (true, { s with
        call := Proc.storeNext s.call (.done status initialMetadata trailingMetadata) })

/-- `Call::startBatch` behind the checks for a cancelled or finished call. -/
def runBatch (s : LoadedCall) (batch : LoadedBatch) :
    Proc (Option Proc.BatchEvent × LoadedCall) := do
  let ops := batch.ops
  if ops.recvStatusOnClient then
    if !s.call.unaryPerformed && !s.call.serverStreamingOpened then
      let (ok, s) ← s.performCallUnary batch.returns
      if !ok then return (none, s)
      return (some (Proc.batchEvent s.call ops s.call.unaryResponsePayload), s)
    else if s.call.serverStreamingOpened && !s.call.statusReady then
      let (ok, s) ← drainForStatus batch.returns (Proc.drainBound s.call (← get)) s
      if !ok then return (none, s)
      return (some (Proc.batchEvent s.call ops (if s.call.unaryPerformed then
        s.call.unaryResponsePayload else none)), s)
    else return (some (Proc.batchEvent s.call ops s.call.unaryResponsePayload), s)
  else if ops.recvMessage && !s.call.unaryPerformed then
    match ← s.serverStreamingNextForCall batch.returns with
    | (none, s) => return (none, s)
    | (some next, s) =>
      let message := match next with
        | .message payload _ => some payload
        | .done _ _ _ => none
      let s := { s with call := Proc.storeNext s.call next }
      return (some (Proc.batchEvent s.call ops message), s)
  else return (some (Proc.batchEvent s.call ops (if s.call.unaryPerformed then
    s.call.unaryResponsePayload else none)), s)

/-- `Call::startBatch`. -/
def startBatch (s : LoadedCall) (batch : LoadedBatch) :
    Proc (Option Proc.BatchEvent × LoadedCall) := do
  let (stored, s) := s.storeSendBatch batch
  if !stored then return (none, s)
  if s.call.cancelled then
    let s := { s with call := s.call.markCancelled }
    return (some (Proc.batchEvent s.call batch.ops none), s)
  if s.call.statusReady then return (some (Proc.batchEvent s.call batch.ops none), s)
  s.runBatch batch

/-- `Call::cancel`. -/
def cancelCall (s : LoadedCall) : Proc LoadedCall := do
  let call ← Proc.cancelCall s.call
  return { s with call := call }

end LoadedCall

end GrpcLite
