import GrpcLite.Drivers.Request

/-!
# The server-streaming driver

Opening a stream, pulling its messages one by one, cancelling it and destroying
it. The state of a stream is the call with the fields beside it in `TrackedCall`.
-/

namespace GrpcLite

/-- Why a stream could not be opened without an exception. -/
inductive SetupDetails
  /-- The error of `get_persistent_connection`. -/
  | connection (error : SetupError)
  /-- `HTTP/2 transport deadline exceeded`. -/
  | deadlineExceeded
  /-- `nghttp2_submit_request failed`. -/
  | submitFailed
  /-- `failed to register HTTP/2 stream`. -/
  | registerFailed
  /-- `nghttp2_session_send failed`. -/
  | sendFailed
  deriving DecidableEq, Repr

/-- What opening a stream leaves behind. -/
inductive OpenResult
  /-- The resource of the stream. -/
  | opened (c : CallId)
  /-- `setup_failure`: a status code and its text. -/
  | setupFailure (code : Int) (details : SetupDetails)
  deriving DecidableEq, Repr

/-- `grpc_lite_streaming_next_result`. -/
inductive NextResult
  /-- A message; the first one brings the initial metadata. -/
  | message (payload : Bytes) (initialMetadata : List (Bytes × Bytes))
  /-- The end of the stream. -/
  | done (status : StatusResult) (initialMetadata trailingMetadata : List (Bytes × Bytes))
    (outcome : AttemptOutcome)
  deriving DecidableEq, Repr

/-- The truncation check behind the loop of a pull. -/
def GrpcCall.streamTruncated (call : GrpcCall) : Bool :=
  !call.responseMessageTooLarge && !call.compressedResponseSeen && !call.streamResetSeen &&
    !call.locallyCancelled && !call.connectionBroken && call.midMessage

/-- The loop condition of a pull. -/
def TrackedCall.wantsRead (tc : TrackedCall) : Bool :=
  tc.call.responseQueue.isEmpty && !tc.call.streamClosed && !tc.completed &&
    !tc.call.validationFailed

/-- The status code of a failed connection setup. -/
def setupFailureCode (error : SetupError) (deadlineAbsUs now : Nat) : Int :=
  if (deadlineAbsUs > 0 ∧ now ≥ deadlineAbsUs) ∨ error = .deadlineExceeded then
    Status.deadlineExceeded
  else Status.unavailable

namespace Proc

/-- `state->completed = true`. -/
def markCompleted (c : CallId) : Proc Unit := setCall c fun tc => { tc with completed := true }

/-- `server_streaming_call_terminate_with_cancel`. Without a connection its middle does
nothing, as the two functions there check themselves. -/
def terminateWithCancel (c : CallId) : Proc Unit := do
  input c .freeQueue
  cancelGrpcCallStream c
  detachUnlessUsable c
  markCompleted c

/-! ## Opening -/

/-- The clock behind a failed connection setup, which is read only under a deadline. -/
def setupFailureStatus (error : SetupError) (deadlineAbsUs : Nat) : Proc Int := do
  if deadlineAbsUs > 0 then return setupFailureCode error deadlineAbsUs (← monotonicUs)
  return setupFailureCode error 0 0

/-- A setup failure behind the creation of the state. -/
def failOpen (c : CallId) (code : Int) (details : SetupDetails) :
    Proc (Except Failure OpenResult) := do
  destroyServerStreamingCallState c
  return .ok (.setupFailure code details)

/-- `server_streaming_call_open_resource` from the submission of the request on. -/
def openExchange (k : ConnId) (c : CallId) : Proc (Except Failure OpenResult) := do
  let rv ← submitRequest k c
  if rv < 0 then
    noteSubmitFailure k rv
    failOpen c Status.unavailable .submitFailed
  else if !(← registerGrpcCallStream k c) then
    markGrpcCallStreamRegistrationFailed k c
    failOpen c Status.unavailable .registerFailed
  else
    let rv ← sendPendingH2Frames k (some c)
    if rv ≠ 0 then
      let timedOut := (← call c).timedOut
      markConnectionDead k rv
      if timedOut then failOpen c Status.deadlineExceeded .deadlineExceeded
      else failOpen c Status.unavailable .sendFailed
    else return .ok (.opened c)

/-- `server_streaming_call_open_resource` on a connection. -/
def openOnConnection (k : ConnId) (req : CallRequest) (retryAttempt : Nat) :
    Proc (Except Failure OpenResult) := do
  if (← onEnv (Env.remainingTimeoutUsForDeadline req.deadlineAbsUs)) < 0 then
    return .ok (.setupFailure Status.deadlineExceeded .deadlineExceeded)
  let c ← newCall (req.startCall k retryAttempt)
  if (← onEnv (Env.remainingTimeoutUsForDeadline req.deadlineAbsUs)) < 0 then
    failOpen c Status.deadlineExceeded .deadlineExceeded
  else if !req.headersValid then
    destroyServerStreamingCallState c
    return .error .invalidMetadata
  else openExchange k c

/-- `server_streaming_call_open_resource`. -/
def serverStreamingCallOpenResource (req : CallRequest) (retryAttempt : Nat) :
    Proc (Except Failure OpenResult) := do
  if !req.inputsValid then return .error .invalidInputs
  if req.message.length > 2 ^ 32 - 1 then return .error .requestTooLong
  match ← getPersistentConnection req.key req.deadlineAbsUs req.ssl with
  | .error error =>
    return .ok (.setupFailure (← setupFailureStatus error req.deadlineAbsUs) (.connection error))
  | .ok k => openOnConnection k req retryAttempt

/-! ## Pulling -/

/-- The deadline check of a round; the clock is read only under a deadline. -/
def deadlinePassed (deadlineAbsUs : Nat) : Proc Bool := do
  if deadlineAbsUs > 0 then return decide ((← monotonicUs) ≥ deadlineAbsUs)
  return false

/-- The stream has no connection on which input and output is allowed. -/
def breakUnread (c : CallId) : Proc Unit := do
  noteConnectionBroken c
  markCompleted c

/-- The connection died under the stream. -/
def breakStream (k : ConnId) (c : CallId) (errorCode : Int) : Proc Bool := do
  markConnectionDead k errorCode
  noteConnectionBroken c
  markCompleted c
  return false

/-- The deadline of the stream passed. -/
def expireStream (c : CallId) : Proc Bool := do
  markTimedOut c
  cancelActiveServerStreamingCallState c
  markCompleted c
  return false

/-- A round of a pull behind a successful read: true when the loop goes on. -/
def feedRound (k : ConnId) (c : CallId) : Proc Bool := do
  let rv ← feedSession k c
  if rv < 0 then
    markConnectionDead k rv
    markCompleted c
    return false
  let rv ← flushAfterRead k c
  if rv ≠ 0 then breakStream k c rv else return true

/-- The end of a pull whose read returned nothing. -/
def endPullRead (k : ConnId) (c : CallId) (nread : Int) : Proc Bool := do
  if ← noteReadFailure k c nread then expireStream c
  else
    let errno := (← get).env.errno
    breakStream k c (if nread = 0 then 0 else errno)

/-- A round of a pull: true when the loop goes on. -/
def pullRound (k : ConnId) (c : CallId) : Proc Bool := do
  if !(← conn k).ioAllowed then
    breakUnread c
    return false
  let deadline := (← call c).deadlineAbsUs
  if ← deadlinePassed deadline then expireStream c
  else
    let rv ← sendPendingH2Frames k (some c)
    if rv ≠ 0 then breakStream k c rv
    else
      log k .read
      let nread ← onPort k (Port.connectionRecv recvScratchSize deadline)
      if nread ≤ 0 then endPullRead k c nread else feedRound k c

/-- The loop of a pull; every round takes an answer, so the script bounds the rounds. -/
def pullLoop (c : CallId) : Nat → Proc Unit
  | 0 => Exec.block
  | fuel + 1 => do
    let tc ← tracked c
    if !tc.wantsRead then return
    match tc.call.connection with
    | none => breakUnread c
    | some k => if ← pullRound k c then pullLoop c fuel

/-- The pop of a pull: the payload with the initial metadata of a first message. -/
def popMessage (c : CallId) (payload : Bytes) : Proc NextResult := do
  input c .dequeue
  setCall c fun tc =>
    { tc with
      deliveredMessages := tc.deliveredMessages + 1
      delivered := tc.delivered ++ [payload] }
  let tc ← tracked c
  return .message payload (if tc.deliveredMessages = 1 then tc.call.metadataMap false else [])

/-- The end of a stream: `server_streaming_call_fill_status_result`, then the owner is
cleared. -/
def finishStream (c : CallId) : Proc NextResult := do
  let truncated := (← call c).streamTruncated
  Exec.when truncated (input c .truncated)
  markCompleted c
  let tc ← tracked c
  let result := NextResult.done (resolveGrpcCallStatus (← connectionDetail c) tc.call tc.cancelled)
    (tc.call.metadataMap false) (tc.call.metadataMap true)
    (attemptOutcomeFromCall tc.call (decide (tc.deliveredMessages > 0)))
  clearConnectionServerStreamingCallStateOwner c
  return result

/-- `server_streaming_call_next_resource_core`. -/
def serverStreamingCallNextResource (c : CallId) : Proc NextResult := do
  pullLoop c ((← get).env.script.length + 1)
  let failed := (← call c).validationFailed
  Exec.when failed do
    terminateWithCancel c
    detachUnlessUsable c
  match (← call c).responseQueue with
  | payload :: _ => popMessage c payload
  | [] => finishStream c

/-! ## Cancelling -/

/-- `server_streaming_call_cancel_resource`. -/
def serverStreamingCallCancelResource (c : CallId) : Proc Unit := do
  let tc ← tracked c
  match tc.call.connection with
  | none => return
  | some k =>
    if !tc.completed && (← conn k).ioAllowed then
      setCall c fun tc => { tc with cancelled := true }
      input c .userCancelled
      terminateWithCancel c
      clearConnectionServerStreamingCallStateOwner c

end Proc

end GrpcLite
