import GrpcLite.Exchange.Protocol

/-!
# Status resolution

The ordered cascade that turns the flags of a call into a status code, the
details beside it and the outcome that decides about a transparent retry.
-/

namespace GrpcLite

/-- The switch over the error code of a received RST_STREAM. -/
def resetStatus (code : Nat) : Int :=
  match code with
  | 8 => Status.cancelled
  | 7 => Status.unavailable
  | 11 => Status.resourceExhausted
  | 12 => Status.permissionDenied
  | 0 | 1 | 2 | 3 | 4 | 5 | 6 | 9 | 10 | 13 => Status.internal
  | _ => Status.unknown

/-- The switch over an HTTP status that came without a grpc-status. -/
def httpStatusCode (httpStatus : Int) : Int :=
  match httpStatus with
  | 400 => Status.internal
  | 401 => Status.unauthenticated
  | 403 => Status.permissionDenied
  | 404 => Status.unimplemented
  | 429 | 502 | 503 | 504 => Status.unavailable
  | _ => if httpStatus < 0 then Status.unavailable else Status.unknown

/-- `grpc_lite_status_code_from_call`. -/
def statusCodeFromCall (call : GrpcCall) (cancelled : Bool) : Int :=
  if call.timedOut then Status.deadlineExceeded
  else if cancelled then Status.cancelled
  else if call.invalidGrpcStatus then Status.unknown
  else if call.grpcStatus < 0 ∧ call.httpStatus ≠ 200 then httpStatusCode call.httpStatus
  else if call.invalidContentType then Status.unknown
  else if call.responseMessageTooLarge || call.metadataTooLarge ||
      call.responseQueueLimitExceeded then Status.resourceExhausted
  else if call.malformedResponseFrame then Status.internal
  else if call.compressedResponseSeen || call.unsupportedResponseEncoding then Status.internal
  else if call.grpcStatus ≥ 0 then call.grpcStatus
  else if call.streamRefusedSeen then Status.unavailable
  else if call.streamResetSeen then resetStatus call.streamErrorCode
  else if call.connectionBroken then Status.unavailable
  else if call.streamClosed ∧ call.streamErrorCode = Nghttp2.noError ∧ call.httpStatus = 200 ∧
      !call.initialHeadersEndStream ∧ !call.trailingHeadersSeen then Status.internal
  else Status.unknown

/-! ## Details -/

/-- The texts that a status can carry. -/
inductive StatusDetails
  /-- The received grpc-message. -/
  | grpcMessage (message : Bytes)
  /-- `HTTP/2 transport deadline exceeded`. -/
  | deadlineExceeded
  /-- `HTTP/2 stream refused by GOAWAY`. -/
  | refusedByGoaway
  /-- The text of a failed input or output. -/
  | ioError (detail : ErrorDetail)
  /-- `HTTP status %d without grpc-status`. -/
  | httpStatus (status : Int)
  /-- `invalid gRPC content-type: %s`. -/
  | invalidContentTypeValue (value : Bytes)
  /-- `invalid gRPC content-type`. -/
  | invalidContentType
  /-- `invalid grpc-status trailer`. -/
  | invalidGrpcStatus
  /-- `HTTP/2 stream reset: %u`. -/
  | streamReset (code : Nat)
  /-- `server streaming read-ahead queue limit exceeded`. -/
  | readAheadLimit
  /-- `received message exceeds maximum size`. -/
  | messageTooLarge
  /-- `malformed gRPC response frame`. -/
  | malformedFrame
  /-- `unsupported grpc-encoding: %s`. -/
  | unsupportedEncodingValue (value : Bytes)
  /-- `unsupported grpc-encoding`. -/
  | unsupportedEncoding
  /-- `compressed gRPC messages are not supported`. -/
  | compressedMessage
  /-- `server closed the stream without sending trailers`. -/
  | missingTrailers
  /-- `Cancelled`. -/
  | cancelled
  /-- The empty string. -/
  | empty
  deriving DecidableEq, Repr

/-- The switch over the status code at the end of `grpc_lite_status_details_from_call`. -/
def codeDetails (call : GrpcCall) (code : Int) : StatusDetails :=
  if code = Status.deadlineExceeded then .deadlineExceeded
  else if code = Status.unavailable then
    if call.streamResetSeen then .streamReset call.streamErrorCode else .empty
  else if code = Status.resourceExhausted then
    if call.responseQueueLimitExceeded then .readAheadLimit else .messageTooLarge
  else if code = Status.internal then
    if call.malformedResponseFrame then .malformedFrame
    else if call.unsupportedResponseEncoding then
      match call.grpcEncoding with
      | some value => if value.length > 0 then .unsupportedEncodingValue value
          else .unsupportedEncoding
      | none => .unsupportedEncoding
    else if call.compressedResponseSeen then .compressedMessage
    else if call.streamResetSeen then .streamReset call.streamErrorCode
    else if call.streamClosed ∧ call.grpcStatus < 0 then .missingTrailers
    else .malformedFrame
  else if code = Status.cancelled then .cancelled
  else .empty

/-- `grpc_lite_status_details_from_call`; `connectionDetail` is the connection's
`last_error_detail`, none when the call points at no connection. -/
def statusDetailsFromCall (connectionDetail : Option ErrorDetail) (call : GrpcCall)
    (code : Int) : StatusDetails :=
  match call.grpcMessage with
  | some message =>
    if message.length > 0 then .grpcMessage message else afterMessage
  | none => afterMessage
where
  /-- The cascade behind an absent or empty grpc-message. -/
  afterMessage : StatusDetails :=
    if code = Status.deadlineExceeded ∧ call.timedOut then .deadlineExceeded
    else if call.streamRefusedSeen then .refusedByGoaway
    else
      match call.lastIoErrorDetail, connectionDetail with
      | some detail, _ => .ioError detail
      | none, some detail => .ioError detail
      | none, none =>
        if call.httpStatus ≠ 200 then .httpStatus call.httpStatus
        else if call.invalidContentType then
          match call.contentType with
          | some value => if value.length > 0 then .invalidContentTypeValue value
              else .invalidContentType
          | none => .invalidContentType
        else if call.invalidGrpcStatus then .invalidGrpcStatus
        else codeDetails call code

/-- `grpc_lite_status_result`. -/
structure StatusResult where
  /-- Status code. -/
  code : Int
  /-- Text beside the code. -/
  details : StatusDetails
  deriving DecidableEq, Repr

/-- `resolve_grpc_call_status`. -/
def resolveGrpcCallStatus (connectionDetail : Option ErrorDetail) (call : GrpcCall)
    (cancelled : Bool) : StatusResult where
  code := statusCodeFromCall call cancelled
  details := statusDetailsFromCall connectionDetail call (statusCodeFromCall call cancelled)

/-! ## Retry outcome -/

/-- `grpc_lite_refused_kind`. -/
inductive RefusedKind
  /-- The stream was not refused. -/
  | none
  /-- A GOAWAY refused the stream. -/
  | goaway
  /-- The peer reset the stream with REFUSED_STREAM. -/
  | rstStream
  deriving DecidableEq, Repr

/-- `grpc_lite_attempt_outcome`. -/
structure AttemptOutcome where
  /-- The request may be submitted once more. -/
  transparentRetryableUnprocessed : Bool := false
  /-- How the stream was refused. -/
  refusedKind : RefusedKind := .none
  /-- The server had started to respond. -/
  responseStarted : Bool := false
  deriving DecidableEq, Repr

/-- `grpc_lite_call_response_started`. -/
def callResponseStarted (call : GrpcCall) : Bool :=
  (decide (call.httpStatus ≥ 0) || decide (call.metadataEntryCount > 0) || call.grpcStatusSeen ||
    call.initialGrpcStatusSeen || decide (call.grpcStatus ≥ 0)) ||
  (call.metadataTooLarge || call.contentTypeSeen || call.invalidContentType ||
    call.unsupportedResponseEncoding || call.invalidGrpcStatus ||
    call.responseQueueLimitExceeded || call.grpcMessage.isSome) ||
  (decide (call.responseMessageCount > 0) || !call.responseQueue.isEmpty) ||
  (call.responseHeaderLen != 0 || call.responsePayloadLen != 0 ||
    call.responsePayloadOffset != 0 || call.responsePayload.isSome) ||
  decide (call.body.length > 0)

/-- `grpc_lite_refused_kind_from_call`. -/
def refusedKindFromCall (call : GrpcCall) : RefusedKind :=
  if call.streamRefusedSeen then .goaway
  else if call.streamResetSeen ∧ call.streamErrorCode = Nghttp2.refusedStream then .rstStream
  else .none

/-- `grpc_lite_attempt_outcome_from_call`. -/
def attemptOutcomeFromCall (call : GrpcCall) (userlandResponseObserved : Bool) :
    AttemptOutcome where
  refusedKind := refusedKindFromCall call
  responseStarted := callResponseStarted call
  transparentRetryableUnprocessed :=
    decide (refusedKindFromCall call ≠ .none) && decide (call.retryAttempt = 0) &&
      !callResponseStarted call && !userlandResponseObserved

end GrpcLite
