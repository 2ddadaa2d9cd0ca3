import GrpcLite.Drivers.Request

/-!
# The unary driver

`grpc_lite_unary_call_perform_core_on_connection`: the request is submitted, the
receive loop runs until the stream closes or an error ends it, and the result is
built from the flags of the call.
-/

namespace GrpcLite

/-- `grpc_lite_unary_result`. -/
structure UnaryResult where
  /-- The response message. -/
  body : Option Bytes
  /-- Status code and details. -/
  status : StatusResult
  /-- Initial metadata. -/
  initialMetadata : List (Bytes × Bytes)
  /-- Trailing metadata. -/
  trailingMetadata : List (Bytes × Bytes)
  /-- Whether the request may be sent again. -/
  outcome : AttemptOutcome
  deriving DecidableEq, Repr

/-- The call of the unary driver, which accepts one message. -/
def CallRequest.unaryCall (req : CallRequest) (k : ConnId) (retryAttempt : Nat) : GrpcCall :=
  { req.startCall k retryAttempt with maxResponseMessages := 1 }

/-- The truncation check behind the unary receive loop. -/
def GrpcCall.unaryTruncated (call : GrpcCall) : Bool :=
  call.streamClosed && !call.responseMessageTooLarge && !call.compressedResponseSeen &&
    !call.streamResetSeen && !call.locallyCancelled && call.midMessage

namespace Proc

/-- The connection died under the call. -/
def breakCall (k : ConnId) (c : CallId) (errorCode : Int) : Proc Unit := do
  markConnectionDead k errorCode
  noteConnectionBroken c

/-- The end of a receive loop whose read returned nothing: an expired deadline resets the
stream only, anything else kills the connection. -/
def endUnaryRead (k : ConnId) (c : CallId) (nread : Int) : Proc Unit := do
  if ← noteReadFailure k c nread then
    markTimedOut c
    cancelGrpcCallStream c
  else
    let errno := (← get).env.errno
    breakCall k c (if nread = 0 then 0 else errno)

/-- The receive loop: false when the session failed. -/
def unaryRecvLoop (k : ConnId) (c : CallId) : Nat → Proc Bool
  | 0 => Exec.block
  | fuel + 1 => do
    let call ← call c
    if call.streamClosed then return true
    log k .read
    let nread ← onPort k (Port.connectionRecv recvScratchSize call.deadlineAbsUs)
    if nread ≤ 0 then
      endUnaryRead k c nread
      return true
    let rv ← feedSession k c
    if rv < 0 then
      markConnectionDead k rv
      return false
    let rv ← flushAfterRead k c
    if rv ≠ 0 then
      breakCall k c rv
      return true
    unaryRecvLoop k c fuel

/-- The label `build_unary_result`. -/
def buildUnaryResult (k : ConnId) (c : CallId) : Proc UnaryResult := do
  let truncated := (← call c).unaryTruncated
  Exec.when truncated (input c .truncated)
  let status := resolveGrpcCallStatus (← connectionDetail c) (← call c) false
  let body := (← call c).unaryTakeResponsePayload.1
  input c .take
  let call ← call c
  clearConnectionCallOwner k c
  releaseCall c
  destroyDetachedConnectionIfUnowned k
  return {
    body := body
    status := status
    initialMetadata := call.metadataMap false
    trailingMetadata := call.metadataMap true
    outcome := attemptOutcomeFromCall call false }

/-- The exits of the unary driver that throw: the call is released and an unowned detached
connection destroyed. -/
def abandonUnaryCall (k : ConnId) (c : CallId) (failure : Failure) :
    Proc (Except Failure UnaryResult) := do
  clearConnectionCallOwner k c
  releaseCall c
  destroyDetachedConnectionIfUnowned k
  return .error failure

/-- The driver from the submitted request on. -/
def unaryExchange (k : ConnId) (c : CallId) : Proc (Except Failure UnaryResult) := do
  let rv ← submitRequest k c
  if rv < 0 then
    noteSubmitFailure k rv
    abandonUnaryCall k c .submitFailed
  else if !(← registerGrpcCallStream k c) then
    markGrpcCallStreamRegistrationFailed k c
    detachPersistentConnectionByPtr k
    abandonUnaryCall k c .registerFailed
  else
    let rv ← sendPendingH2Frames k (some c)
    if rv ≠ 0 then
      breakCall k c rv
      return .ok (← buildUnaryResult k c)
    else if ← unaryRecvLoop k c ((← get).env.script.length + 1) then
      return .ok (← buildUnaryResult k c)
    else
      detachPersistentConnectionByPtr k
      abandonUnaryCall k c .memRecvFailed

/-- `grpc_lite_unary_call_perform_core_on_connection`. -/
def unaryCallPerformOnConnection (k : ConnId) (req : CallRequest) (retryAttempt : Nat) :
    Proc (Except Failure UnaryResult) := do
  if !(← conn k).usable then return .error .invalidConnection
  if req.message.length > 2 ^ 32 - 1 then return .error .requestTooLong
  let c ← newCall (req.unaryCall k retryAttempt)
  if (← onEnv (Env.remainingTimeoutUsForDeadline req.deadlineAbsUs)) < 0 then
    markTimedOut c
    return .ok (← buildUnaryResult k c)
  if (← onEnv (Env.remainingTimeoutUsForDeadline req.deadlineAbsUs)) < 0 then
    markTimedOut c
    clearConnectionCallOwner k c
    return .ok (← buildUnaryResult k c)
  if !req.headersValid then
    clearConnectionCallOwner k c
    releaseCall c
    return .error .invalidMetadata
  unaryExchange k c

end Proc

end GrpcLite
