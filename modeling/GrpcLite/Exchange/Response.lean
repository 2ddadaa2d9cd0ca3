import GrpcLite.Exchange.Status

/-!
# Response decoding

The resumable parser that turns DATA bytes into queued messages, the read-ahead
limits, the response metadata store, and the older parser that only validates
message lengths. Library answers to RST_STREAM submissions are an explicit list,
read in order and zero once exhausted.
-/

namespace GrpcLite

/-- What a callback works on: its call, the answers the library will give to
RST_STREAM submissions, and the submissions made with their answers. -/
structure CallbackState where
  /-- The call of the stream. -/
  call : GrpcCall
  /-- Answers to the next submissions; zero once exhausted. -/
  rstAnswers : List Int := []
  /-- Error code and answer of every submission so far. -/
  rstSubmitted : List (Nat × Int) := []
  deriving DecidableEq, Repr

/-- What the read-ahead check sees of the connection and the configuration. -/
structure ReadAhead where
  /-- The connection is being read by another call. -/
  foreignReader : Bool
  /-- `effective_server_streaming_read_ahead_max_messages`. -/
  maxMessages : Nat
  /-- `effective_server_streaming_read_ahead_max_bytes`. -/
  maxBytes : Nat
  deriving DecidableEq, Repr

namespace CallbackState

/-- `grpc_protocol_submit_rst_stream_in_callback`. A fatal answer also kills the
connection; the caller reads that from `rstSubmitted`. -/
def submitRstStream (s : CallbackState) (errorCode : Nat) : CallbackState × Int :=
  if s.call.streamId ≤ 0 then (s, 0)
  else
    let rv := s.rstAnswers.headD 0
    ({ s with
        rstAnswers := s.rstAnswers.tail
        rstSubmitted := s.rstSubmitted ++ [(errorCode, rv)] },
      if Nghttp2.isFatal rv then Nghttp2.errCallbackFailure else 0)

/-- Forget the position inside the current message. -/
def resetMessage (call : GrpcCall) : GrpcCall :=
  { call with responseHeaderLen := 0, responsePayloadLen := 0, responsePayloadOffset := 0 }

/-- Decode no further body bytes. -/
def discardBody (call : GrpcCall) : GrpcCall := { call with discardResponseBody := true }

/-! ## The queue -/

/-- `server_streaming_read_ahead_limit_would_exceed`. -/
def readAheadLimitWouldExceed (ra : ReadAhead) (call : GrpcCall) (payloadLen : Nat) : Bool :=
  call.queueResponsePayloads && call.connection.isSome && ra.foreignReader &&
    (decide (call.responseQueueCount ≥ ra.maxMessages) || decide (payloadLen > ra.maxBytes) ||
      decide (call.responseQueueBytes > ra.maxBytes - payloadLen))

/-- `mark_server_streaming_read_ahead_limit_exceeded`. -/
def markReadAheadLimitExceeded (s : CallbackState) : CallbackState × Int :=
  submitRstStream
    { s with call := discardBody (resetMessage { s.call with responseQueueLimitExceeded := true }) }
    Nghttp2.cancel

/-- Append a payload to the response queue. -/
def pushPayload (call : GrpcCall) (payload : Bytes) : GrpcCall :=
  { call with
    responseQueue := call.responseQueue ++ [payload]
    responseQueueCount := call.responseQueueCount + 1
    responseQueueBytes := call.responseQueueBytes + payload.length }

/-- `enqueue_response_payload`. -/
def enqueueResponsePayload (ra : ReadAhead) (s : CallbackState) (payload : Bytes) :
    CallbackState × Int :=
  if readAheadLimitWouldExceed ra s.call payload.length then markReadAheadLimitExceeded s
  else ({ s with call := pushPayload s.call payload }, 0)

/-! ## The direct parser -/

/-- `grpc_protocol_flag_compressed_message`. -/
def flagCompressedMessage (call : GrpcCall) : GrpcCall :=
  match call.grpcEncoding with
  | some encoding =>
    if Protocol.isIdentityEncoding encoding then
      discardBody { call with compressedResponseSeen := true }
    else discardBody { call with unsupportedResponseEncoding := true }
  | none => discardBody { call with compressedResponseSeen := true }

/-- `ZSTR_MAX_LEN`. -/
def zstrMaxLen : Nat := 2 ^ 64 - 1 - 32

/-- How one round of the parser loop ends. -/
inductive Round
  /-- The loop goes on at an offset. -/
  | next (s : CallbackState) (offset : Nat)
  /-- The parser returns. -/
  | done (s : CallbackState) (rv : Int)
  deriving DecidableEq, Repr

/-- The common tail of the rejecting branches: discard the body, forget the
message and reset the stream. -/
def rejectFrame (s : CallbackState) (mark : GrpcCall → GrpcCall) (offset : Nat) : Round :=
  let r := submitRstStream { s with call := resetMessage (discardBody (mark s.call)) }
    Nghttp2.cancel
  if r.2 ≠ 0 then .done r.1 Nghttp2.errCallbackFailure else .next r.1 offset

/-- `zend_string_realloc` to the needed size, then `memcpy` of the new bytes. -/
def growPayload (payload : Bytes) (offset : Nat) (src : Bytes) : Bytes :=
  if src.length > 0 then
    writeAt (if offset + src.length > payload.length then resize payload (offset + src.length)
      else payload) offset src
  else payload

/-- Leave a complete message behind. -/
def endMessage (s : CallbackState) : CallbackState :=
  { s with call := { resetMessage s.call with responsePayload := none } }

/-- A complete message: reset the position and hand the payload over. -/
def finishMessage (ra : ReadAhead) (s : CallbackState) (payload : Bytes) (offset : Nat) : Round :=
  if s.call.queueResponsePayloads then
    let r := enqueueResponsePayload ra (endMessage s) payload
    if r.2 ≠ 0 then .done r.1 (-1) else .next r.1 offset
  else .next (endMessage s) offset

/-- The payload part of a round. -/
def payloadRound (ra : ReadAhead) (data : Bytes) (s : CallbackState) (offset : Nat) : Round :=
  match s.call.responsePayload with
  | none => .next s offset
  | some payload =>
    let need := s.call.responsePayloadLen - s.call.responsePayloadOffset
    let take := min need (data.length - offset)
    let payload := growPayload payload s.call.responsePayloadOffset ((data.drop offset).take take)
    let s := { s with call := { s.call with
      responsePayload := some payload
      responsePayloadOffset := s.call.responsePayloadOffset + take } }
    if s.call.responsePayloadOffset = s.call.responsePayloadLen then
      finishMessage ra s payload (offset + take)
    else .next s (offset + take)

/-- Store the declared length and count the header against a limit on messages. -/
def countHeader (s : CallbackState) (len : Nat) : CallbackState :=
  { s with call := { s.call with
    responsePayloadLen := len
    responseMessageCount := s.call.responseMessageCount +
      if s.call.maxResponseMessages > 0 then 1 else 0 } }

/-- A complete message header: the rejections in the order of the source, then the
payload that follows. -/
def headerRound (ra : ReadAhead) (data : Bytes) (s : CallbackState) (offset : Nat) : Round :=
  let buf := s.call.responseHeaderBuf
  let flag := buf.getD 0 0
  let len := be32 (buf.getD 1 0) (buf.getD 2 0) (buf.getD 3 0) (buf.getD 4 0)
  let s := countHeader s len
  if s.call.maxResponseMessages > 0 ∧ s.call.responseMessageCount > s.call.maxResponseMessages then
    rejectFrame s (fun call => { call with malformedResponseFrame := true }) offset
  else if len > s.call.maxReceiveMessageBytes then
    rejectFrame s (fun call => { call with responseMessageTooLarge := true }) offset
  else if len > zstrMaxLen then
    rejectFrame s (fun call => { call with responseMessageTooLarge := true }) offset
  else if flag > 1 then
    rejectFrame s (fun call => { call with malformedResponseFrame := true }) offset
  else if flag = 1 then rejectFrame s flagCompressedMessage offset
  else if readAheadLimitWouldExceed ra s.call len then
    let r := markReadAheadLimitExceeded s
    .done r.1 r.2
  else
    payloadRound ra data
      { s with call := { s.call with
          responsePayloadOffset := 0
          responsePayload := some (List.replicate (min (data.length - offset) len) 0) } }
      offset

/-- One round of the parser loop. -/
def directRound (ra : ReadAhead) (data : Bytes) (s : CallbackState) (offset : Nat) : Round :=
  if s.call.responseHeaderLen < 5 then
    let take := min (5 - s.call.responseHeaderLen) (data.length - offset)
    let s := { s with call := { s.call with
      responseHeaderBuf :=
        writeAt s.call.responseHeaderBuf s.call.responseHeaderLen ((data.drop offset).take take)
      responseHeaderLen := s.call.responseHeaderLen + take } }
    if s.call.responseHeaderLen < 5 then .next s (offset + take)
    else headerRound ra data s (offset + take)
  else payloadRound ra data s offset

/-- The flags that stop the parser loop. -/
def decodingStopped (call : GrpcCall) : Bool :=
  call.responseMessageTooLarge || call.compressedResponseSeen ||
    call.unsupportedResponseEncoding || call.malformedResponseFrame

/-- The parser loop. Every round of a reachable state consumes a byte, so the fuel
of `processResponseDataDirect` is never the reason to stop. -/
def directLoop (ra : ReadAhead) (data : Bytes) : Nat → CallbackState → Nat → CallbackState × Int
  | 0, s, _ => (s, 0)
  | fuel + 1, s, offset =>
    if offset < data.length ∧ !decodingStopped s.call then
      match directRound ra data s offset with
      | .next s' offset' => directLoop ra data fuel s' offset'
      | .done s' rv => (s', rv)
    else (s, 0)

/-- DATA behind a grpc-status: the status is no longer trusted. -/
def rejectDataAfterStatus (s : CallbackState) : CallbackState × Int :=
  submitRstStream { s with call := discardBody { s.call with invalidGrpcStatus := true } }
    Nghttp2.cancel

/-- `grpc_protocol_process_response_data_direct`. -/
def processResponseDataDirect (ra : ReadAhead) (s : CallbackState) (data : Bytes) :
    CallbackState × Int :=
  if s.call.grpcStatusSeen then rejectDataAfterStatus s
  else if s.call.discardResponseBody then (s, 0)
  else directLoop ra data data.length s 0

/-! ## The older length-validating parser -/

/-- A rejection of the older parser returns at once and keeps the position. -/
def rejectLength (s : CallbackState) (mark : GrpcCall → GrpcCall) : Round :=
  let r := submitRstStream { s with call := discardBody (mark s.call) } Nghttp2.cancel
  .done r.1 r.2

/-- The payload part of a round of the older parser, which only counts bytes. -/
def lengthPayloadRound (data : Bytes) (s : CallbackState) (offset : Nat) : Round :=
  if s.call.responsePayloadLen > 0 then
    let take := min (s.call.responsePayloadLen - s.call.responsePayloadOffset)
      (data.length - offset)
    let call := { s.call with responsePayloadOffset := s.call.responsePayloadOffset + take }
    if call.responsePayloadOffset = call.responsePayloadLen then
      .next { s with call := resetMessage call } (offset + take)
    else .next { s with call := call } (offset + take)
  else .next s offset

/-- A complete message header in the older parser. -/
def lengthHeaderRound (data : Bytes) (s : CallbackState) (offset : Nat) : Round :=
  let buf := s.call.responseHeaderBuf
  let flag := buf.getD 0 0
  let len := be32 (buf.getD 1 0) (buf.getD 2 0) (buf.getD 3 0) (buf.getD 4 0)
  let s := countHeader s len
  if s.call.maxResponseMessages > 0 ∧ s.call.responseMessageCount > s.call.maxResponseMessages then
    rejectLength s (fun call => { call with malformedResponseFrame := true })
  else if flag > 1 then rejectLength s (fun call => { call with malformedResponseFrame := true })
  else if flag = 1 then rejectLength s flagCompressedMessage
  else if len > s.call.maxReceiveMessageBytes then
    rejectLength { s with call := { s.call with responsePayloadOffset := 0 } }
      (fun call => { call with responseMessageTooLarge := true })
  else if len = 0 then .next { s with call := resetMessage s.call } offset
  else
    lengthPayloadRound data { s with call := { s.call with responsePayloadOffset := 0 } } offset

/-- One round of the older parser. -/
def lengthRound (data : Bytes) (s : CallbackState) (offset : Nat) : Round :=
  if s.call.responseHeaderLen < 5 then
    let take := min (5 - s.call.responseHeaderLen) (data.length - offset)
    let s := { s with call := { s.call with
      responseHeaderBuf :=
        writeAt s.call.responseHeaderBuf s.call.responseHeaderLen ((data.drop offset).take take)
      responseHeaderLen := s.call.responseHeaderLen + take } }
    if s.call.responseHeaderLen < 5 then .next s (offset + take)
    else lengthHeaderRound data s (offset + take)
  else lengthPayloadRound data s offset

/-- The loop of the older parser. -/
def lengthLoop (data : Bytes) : Nat → CallbackState → Nat → CallbackState × Int
  | 0, s, _ => (s, 0)
  | fuel + 1, s, offset =>
    if offset < data.length ∧ !s.call.responseMessageTooLarge then
      match lengthRound data s offset with
      | .next s' offset' => lengthLoop data fuel s' offset'
      | .done s' rv => (s', rv)
    else (s, 0)

/-- `grpc_protocol_validate_response_message_lengths`. -/
def validateResponseMessageLengths (s : CallbackState) (data : Bytes) : CallbackState × Int :=
  if s.call.grpcStatusSeen then rejectDataAfterStatus s
  else lengthLoop data data.length s 0

/-! ## Metadata -/

/-- `GRPC_LITE_MAX_RESPONSE_METADATA_ENTRIES`. -/
def maxResponseMetadataEntries : Nat := 128

/-- `grpc_protocol_add_response_metadata_entry`. -/
def addResponseMetadataEntry (s : CallbackState) (name value : Bytes) (trailing : Bool) :
    CallbackState × Int :=
  let entryBytes := name.length + value.length
  if name.length = 0 ∨ name.head? = some 58 then (s, 0)
  else if s.call.metadataTooLarge ∨ s.call.metadataEntryCount ≥ maxResponseMetadataEntries ∨
      entryBytes > s.call.maxResponseMetadataBytes ∨
      s.call.metadataBytes > s.call.maxResponseMetadataBytes - entryBytes then
    let s := { s with call := discardBody { s.call with metadataTooLarge := true } }
    if s.call.connection.isSome then submitRstStream s Nghttp2.cancel else (s, 0)
  else
    ({ s with call := { s.call with
        metadata := s.call.metadata ++ [⟨name, value, trailing⟩]
        metadataEntryCount := s.call.metadataEntryCount + 1
        metadataBytes := s.call.metadataBytes + entryBytes } }, 0)

end CallbackState

namespace GrpcCall

/-- `grpc_protocol_mark_response_metadata_as_trailing`. -/
def markResponseMetadataAsTrailing (call : GrpcCall) : GrpcCall :=
  { call with metadata := call.metadata.map fun entry => { entry with trailing := true } }

/-- `free_queued_response_payloads`. -/
def freeQueuedResponsePayloads (call : GrpcCall) : GrpcCall :=
  { call with responseQueue := [], responseQueueCount := 0, responseQueueBytes := 0 }

/-- `grpc_lite_unary_take_response_payload`. -/
def unaryTakeResponsePayload (call : GrpcCall) : Option Bytes × GrpcCall :=
  match call.responseQueue with
  | [] => (none, call)
  | payload :: rest =>
    (some payload, { call with
      responseQueue := rest
      responseQueueCount := call.responseQueueCount - 1
      responseQueueBytes := if call.responseQueueBytes ≥ payload.length then
        call.responseQueueBytes - payload.length else call.responseQueueBytes })

/-- The pop at the end of a pull of a server stream. -/
def dequeueResponsePayload (call : GrpcCall) : Option (Bytes × GrpcCall) :=
  match call.responseQueue with
  | [] => none
  | payload :: rest =>
    some (payload, { call with
      responseQueue := rest
      responseQueueCount := call.responseQueueCount - 1
      responseQueueBytes := call.responseQueueBytes - payload.length })

/-- The stored fields of one of the two metadata maps, as `grpc_protocol_copy_metadata_map`
selects them; `-bin` values are decoded when the map is read. -/
def metadataMap (call : GrpcCall) (trailing : Bool) : List (Bytes × Bytes) :=
  (call.metadata.filter fun entry => entry.trailing == trailing).map fun entry =>
    (entry.key, entry.value)

end GrpcCall

end GrpcLite
