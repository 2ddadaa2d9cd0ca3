import GrpcLite.Core.Bytes

/-!
# The state of one exchange

`GrpcCall` is the record that the transport keeps for one request stream. Sizes
and error codes are natural numbers, the two received statuses are integers with
minus one for "not received", and the linked lists of the response queue and of
the metadata are lists with their counters beside them.
-/

namespace GrpcLite

/-- Identity of an `h2_connection` object. -/
abbrev ConnId := Nat

/-- Identity of a `grpc_call` object. -/
abbrev CallId := Nat

/-- An ASCII literal as bytes. -/
def ascii (s : List Char) : Bytes := s.map fun c => UInt8.ofNat c.toNat

/-! ## Status codes and error codes -/

namespace Status

/-- The status codes that the transport itself assigns. -/
def ok : Int := 0
@[inherit_doc ok] def cancelled : Int := 1
@[inherit_doc ok] def unknown : Int := 2
@[inherit_doc ok] def deadlineExceeded : Int := 4
@[inherit_doc ok] def permissionDenied : Int := 7
@[inherit_doc ok] def resourceExhausted : Int := 8
@[inherit_doc ok] def unimplemented : Int := 12
@[inherit_doc ok] def internal : Int := 13
@[inherit_doc ok] def unavailable : Int := 14
@[inherit_doc ok] def unauthenticated : Int := 16

end Status

namespace Nghttp2

/-- HTTP/2 error code NO_ERROR. -/
def noError : Nat := 0
/-- HTTP/2 error code PROTOCOL_ERROR. -/
def protocolError : Nat := 1
/-- HTTP/2 error code REFUSED_STREAM. -/
def refusedStream : Nat := 7
/-- HTTP/2 error code CANCEL. -/
def cancel : Nat := 8

/-- Library error INVALID_ARGUMENT. -/
def errInvalidArgument : Int := -501
/-- Library error CALLBACK_FAILURE. -/
def errCallbackFailure : Int := -902

/-- `nghttp2_is_fatal`: errors after which a session may only be deleted. -/
def isFatal (rv : Int) : Bool := decide (rv < -900)

end Nghttp2

/-- The texts that `last_error_detail` and `last_io_error_detail` can hold. -/
inductive ErrorDetail
  /-- `strerror(errno)`. -/
  | strerror (errno : Nat)
  /-- `nghttp2 error: ...`. -/
  | nghttp2 (rv : Int)
  /-- `connection closed`. -/
  | connectionClosed
  /-- `HTTP/2 transport deadline exceeded`. -/
  | deadlineExceeded
  /-- `SSL_write length exceeds INT_MAX`. -/
  | sslWriteTooLong
  /-- `SSL_write poll failed: ...`. -/
  | sslWritePollFailed (errno : Nat)
  /-- `SSL_write failed: SSL_get_error=...`. -/
  | sslWriteFailed (sslError : Nat)
  /-- `send poll failed: ...`. -/
  | sendPollFailed (errno : Nat)
  /-- `send failed: ...`. -/
  | sendFailed (errno : Nat)
  /-- `SSL_read poll failed: ...`. -/
  | sslReadPollFailed (errno : Nat)
  /-- `SSL_read failed: SSL_get_error=...`. -/
  | sslReadFailed (sslError : Nat)
  /-- `recv poll failed: ...`. -/
  | recvPollFailed (errno : Nat)
  /-- `recv failed: ...`. -/
  | recvFailed (errno : Nat)
  /-- `failed to register HTTP/2 stream`. -/
  | registerFailed
  /-- `persistent connection closed by peer before reuse`. -/
  | closedBeforeReuse
  /-- `persistent TLS connection closed by peer before reuse`. -/
  | tlsClosedBeforeReuse
  /-- `persistent TLS connection preflight failed: SSL_get_error=...`. -/
  | tlsPreflightFailed (sslError : Nat)
  /-- `persistent TLS connection preflight read failed: SSL_get_error=...`. -/
  | tlsPreflightReadFailed (sslError : Nat)
  /-- `nghttp2_session_mem_recv failed during persistent preflight: ...`. -/
  | preflightMemRecvFailed (rv : Int)
  /-- `nghttp2_session_send failed during persistent preflight: ...`. -/
  | preflightSendFailed (rv : Int)
  /-- `persistent preflight drain limit exceeded`. -/
  | preflightDrainLimit
  deriving DecidableEq, Repr

/-! ## The call record -/

/-- One stored response metadata field. -/
structure MetadataEntry where
  /-- Field name as received. -/
  key : Bytes
  /-- Field value as received. -/
  value : Bytes
  /-- Whether the field belongs to the trailing metadata. -/
  trailing : Bool
  deriving DecidableEq, Repr

/-- `struct _grpc_call`, without the benchmark fields. -/
structure GrpcCall where
  /-- Connection carrying the stream, if the call still points at one. -/
  connection : Option ConnId := none
  /-- HTTP/2 stream identifier, or the negative result of the submission. -/
  streamId : Int := 0
  /-- Number of transparent retries before this attempt. -/
  retryAttempt : Nat := 0
  /-- The call is in its connection's list of active streams. -/
  streamRegistered : Bool := false
  /-- The call is counted in its connection's `stream_owner_count`. -/
  connectionOwned : Bool := false
  /-- The stream is closed as far as the call knows. -/
  streamClosed : Bool := false
  /-- Last parsed grpc-status; minus one for none or an invalid one. -/
  grpcStatus : Int := -1
  /-- Decoded grpc-message. -/
  grpcMessage : Option Bytes := none
  /-- Error code of the stream's reset or closure. -/
  streamErrorCode : Nat := 0
  /-- The peer sent RST_STREAM. -/
  streamResetSeen : Bool := false
  /-- This side submitted RST_STREAM outside a callback. -/
  locallyCancelled : Bool := false
  /-- The connection died under the stream. -/
  connectionBroken : Bool := false
  /-- A GOAWAY refused the stream. -/
  streamRefusedSeen : Bool := false
  /-- Last `:status`; minus one for none. -/
  httpStatus : Int := -1
  /-- A compressed message arrived without a declared encoding. -/
  compressedResponseSeen : Bool := false
  /-- A message length was above the receive limit. -/
  responseMessageTooLarge : Bool := false
  /-- The framing of the body was violated. -/
  malformedResponseFrame : Bool := false
  /-- The response metadata was above its limits. -/
  metadataTooLarge : Bool := false
  /-- A content-type field arrived. -/
  contentTypeSeen : Bool := false
  /-- The content-type rule was violated. -/
  invalidContentType : Bool := false
  /-- A compressed message arrived under an unsupported encoding. -/
  unsupportedResponseEncoding : Bool := false
  /-- A message was dropped because of the read-ahead limits. -/
  responseQueueLimitExceeded : Bool := false
  /-- Last content-type. -/
  contentType : Option Bytes := none
  /-- Last grpc-encoding. -/
  grpcEncoding : Option Bytes := none
  /-- Body bytes are no longer decoded. -/
  discardResponseBody : Bool := false
  /-- The grpc-status rules were violated. -/
  invalidGrpcStatus : Bool := false
  /-- A grpc-status field arrived. -/
  grpcStatusSeen : Bool := false
  /-- A status field arrived in the response header block. -/
  initialGrpcStatusSeen : Bool := false
  /-- The response header block ended the stream. -/
  initialHeadersEndStream : Bool := false
  /-- A trailing header block ended the stream. -/
  trailingHeadersSeen : Bool := false
  /-- Complete message headers counted against `maxResponseMessages`. -/
  responseMessageCount : Nat := 0
  /-- Number of accepted messages; zero for no limit. -/
  maxResponseMessages : Nat := 0
  /-- Largest accepted message length. -/
  maxReceiveMessageBytes : Nat := 0
  /-- The deadline of the call expired. -/
  timedOut : Bool := false
  /-- `errno` of the last failed input or output. -/
  lastIoErrno : Nat := 0
  /-- `SSL_get_error` of the last failed TLS operation. -/
  lastSslError : Nat := 0
  /-- Text of the last failed input or output. -/
  lastIoErrorDetail : Option ErrorDetail := none
  /-- Absolute deadline in microseconds; zero for none. -/
  deadlineAbsUs : Nat := 0
  /-- Switch of the direct decoding path: messages are decoded as they arrive. -/
  decodeResponseIncrementally : Bool := false
  /-- Switch of the direct decoding path: bytes go straight into the payload. -/
  directResponsePayload : Bool := false
  /-- Switch of the direct decoding path: complete payloads are queued. -/
  queueResponsePayloads : Bool := false
  /-- Decoded messages that were not taken yet. -/
  responseQueue : List Bytes := []
  /-- Counter beside the queue: its entries. -/
  responseQueueCount : Nat := 0
  /-- Counter beside the queue: its payload bytes. -/
  responseQueueBytes : Nat := 0
  /-- Stored response metadata. -/
  metadata : List MetadataEntry := []
  /-- Counter beside the metadata: its entries. -/
  metadataEntryCount : Nat := 0
  /-- Counter beside the metadata: its name and value bytes. -/
  metadataBytes : Nat := 0
  /-- Limit of `metadataBytes`. -/
  maxResponseMetadataBytes : Nat := 0
  /-- Buffer of the message header being read. -/
  responseHeaderBuf : Bytes := List.replicate 5 0
  /-- Valid bytes of `responseHeaderBuf`. -/
  responseHeaderLen : Nat := 0
  /-- Declared length of the message being read. -/
  responsePayloadLen : Nat := 0
  /-- Received bytes of the message being read. -/
  responsePayloadOffset : Nat := 0
  /-- String into which the message is being read. -/
  responsePayload : Option Bytes := none
  /-- Raw bytes of the legacy path. -/
  body : Bytes := []
  /-- Five-byte header of the request message. -/
  grpcHeader : Bytes := []
  /-- The request message. -/
  request : Bytes := []
  /-- Bytes of header and request already sent. -/
  requestOffset : Nat := 0
  deriving DecidableEq, Repr

namespace GrpcCall

/-- The flags that end a pull of a server stream, in the order of the source. -/
def validationFailed (call : GrpcCall) : Bool :=
  call.responseMessageTooLarge || call.compressedResponseSeen || call.malformedResponseFrame ||
    call.invalidContentType || call.unsupportedResponseEncoding || call.metadataTooLarge ||
    call.responseQueueLimitExceeded

/-- Bytes of an unfinished message are held. -/
def midMessage (call : GrpcCall) : Bool :=
  call.responseHeaderLen != 0 || call.responsePayload.isSome || call.responsePayloadOffset != 0

/-- `grpc_protocol_set_message_header`. -/
def setMessageHeader (call : GrpcCall) (payloadLen : Nat) : GrpcCall :=
  { call with grpcHeader := [0, UInt8.ofNat (payloadLen / 2 ^ 24), UInt8.ofNat (payloadLen / 2 ^ 16),
      UInt8.ofNat (payloadLen / 2 ^ 8), UInt8.ofNat payloadLen] }

/-- `remaining_request_bytes`. -/
def remainingRequestBytes (call : GrpcCall) : Nat :=
  call.grpcHeader.length + call.request.length - call.requestOffset

end GrpcCall

end GrpcLite
