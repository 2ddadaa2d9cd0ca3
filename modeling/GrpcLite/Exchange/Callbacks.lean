import GrpcLite.Exchange.Response

/-!
# Session callbacks of one stream

What the header, data, frame and close callbacks do to the call of their stream.
The bookkeeping of the connection around them (lists of active streams, library
state) belongs to the transport.
-/

namespace GrpcLite

/-- Category of a header block. -/
inductive HeaderCategory
  /-- The first block of a response. -/
  | response
  /-- A later block of the same stream. -/
  | headers
  /-- Any other block that names the stream. -/
  | other
  deriving DecidableEq, Repr

namespace HeaderName

/-- The header field names the transport interprets. -/
def grpcStatus : Bytes := ascii ['g', 'r', 'p', 'c', '-', 's', 't', 'a', 't', 'u', 's']
@[inherit_doc grpcStatus]
def grpcMessage : Bytes := ascii ['g', 'r', 'p', 'c', '-', 'm', 'e', 's', 's', 'a', 'g', 'e']
@[inherit_doc grpcStatus]
def grpcStatusDetailsBin : Bytes :=
  ascii ['g', 'r', 'p', 'c', '-', 's', 't', 'a', 't', 'u', 's', '-', 'd', 'e', 't', 'a', 'i', 'l',
    's', '-', 'b', 'i', 'n']
@[inherit_doc grpcStatus]
def status : Bytes := ascii [':', 's', 't', 'a', 't', 'u', 's']
@[inherit_doc grpcStatus]
def contentType : Bytes :=
  ascii ['c', 'o', 'n', 't', 'e', 'n', 't', '-', 't', 'y', 'p', 'e']
@[inherit_doc grpcStatus]
def grpcEncoding : Bytes :=
  ascii ['g', 'r', 'p', 'c', '-', 'e', 'n', 'c', 'o', 'd', 'i', 'n', 'g']

end HeaderName

/-- One callback of the library for one stream. -/
inductive StreamEvent
  /-- `on_header_callback`: one field of a header block. -/
  | header (cat : HeaderCategory) (name value : Bytes)
  /-- `on_frame_recv_callback` for a complete HEADERS frame. -/
  | headersEnd (cat : HeaderCategory) (endStream : Bool)
  /-- `on_data_chunk_recv_callback`. -/
  | data (bytes : Bytes)
  /-- `on_frame_recv_callback` for RST_STREAM. -/
  | rstStream (code : Nat)
  /-- `on_frame_recv_callback` for PUSH_PROMISE. -/
  | pushPromise
  /-- `on_stream_close_callback`. -/
  | closed (code : Nat)
  deriving DecidableEq, Repr

/-- The event is the close of the stream. -/
def StreamEvent.isClose : StreamEvent → Bool
  | .closed _ => true
  | _ => false

/-- The body bytes that an event brings. -/
def StreamEvent.bytes : StreamEvent → Bytes
  | .data bytes => bytes
  | _ => []

namespace CallbackState

/-- The effect of the grpc-status field. -/
def headerGrpcStatus (cat : HeaderCategory) (value : Bytes) (call : GrpcCall) : GrpcCall :=
  let call := if cat = .response then { call with initialGrpcStatusSeen := true } else call
  let call := if call.grpcStatusSeen then { call with invalidGrpcStatus := true } else call
  let call := { call with grpcStatusSeen := true, grpcStatus := Protocol.parseStatusValue value }
  let call := if call.grpcStatus < 0 then { call with invalidGrpcStatus := true } else call
  if cat = .response then call.markResponseMetadataAsTrailing else call

/-- The effect of the fields that are stored as metadata as well. -/
def headerField (cat : HeaderCategory) (name value : Bytes) (call : GrpcCall) : GrpcCall :=
  if name = HeaderName.grpcStatusDetailsBin then
    if cat = .response then { call with initialGrpcStatusSeen := true } else call
  else if name = HeaderName.status then
    { call with httpStatus := Protocol.httpStatusValue value }
  else if name = HeaderName.contentType then
    let call := { call with contentTypeSeen := true, contentType := some value }
    if Protocol.isValidContentType value then call
    else discardBody { call with invalidContentType := true }
  else if name = HeaderName.grpcEncoding then { call with grpcEncoding := some value }
  else call

/-- `on_header_callback`. -/
def onHeader (s : CallbackState) (cat : HeaderCategory) (name value : Bytes) :
    CallbackState × Int :=
  let trailing := decide (cat ≠ .response) || decide (s.call.grpcStatus ≥ 0) ||
    decide (name = HeaderName.grpcStatusDetailsBin)
  if name = HeaderName.grpcStatus then
    ({ s with call := headerGrpcStatus cat value s.call }, 0)
  else if name = HeaderName.grpcMessage then
    let call := if cat = .response then { s.call with initialGrpcStatusSeen := true } else s.call
    ({ s with call := { call with grpcMessage := some (Protocol.decodeMessage value) } }, 0)
  else
    let r := addResponseMetadataEntry { s with call := headerField cat name value s.call }
      name value trailing
    (r.1, if r.2 ≠ 0 then Nghttp2.errCallbackFailure else 0)

/-- `on_data_chunk_recv_callback`. -/
def onDataChunkRecv (ra : ReadAhead) (s : CallbackState) (data : Bytes) : CallbackState × Int :=
  if data.length = 0 then (s, 0)
  else if s.call.directResponsePayload && s.call.decodeResponseIncrementally &&
      s.call.queueResponsePayloads then
    let r := processResponseDataDirect ra s data
    (r.1, if r.2 ≠ 0 then Nghttp2.errCallbackFailure else 0)
  else
    let r := validateResponseMessageLengths s data
    if r.2 ≠ 0 then (r.1, Nghttp2.errCallbackFailure)
    else if r.1.call.discardResponseBody then (r.1, 0)
    else ({ r.1 with call := { r.1.call with body := r.1.call.body ++ data } }, 0)

/-- The HEADERS branches of `on_frame_recv_callback`. -/
def onHeadersFrame (cat : HeaderCategory) (endStream : Bool) (call : GrpcCall) : GrpcCall :=
  match cat with
  | .response =>
    let call := { call with initialHeadersEndStream := endStream }
    let call :=
      if !call.contentTypeSeen && !(call.grpcStatusSeen && endStream) then
        discardBody { call with invalidContentType := true }
      else call
    if call.initialGrpcStatusSeen && !endStream then
      discardBody { call with invalidGrpcStatus := true }
    else call
  | .headers => if endStream then { call with trailingHeadersSeen := true } else call
  | .other => call

/-- The PUSH_PROMISE branch of `on_frame_recv_callback`. -/
def onPushPromise (s : CallbackState) : CallbackState × Int :=
  submitRstStream { s with call := discardBody { s.call with malformedResponseFrame := true } }
    Nghttp2.protocolError

/-- What the callback of an event does to the call of its stream. -/
def onEvent (ra : ReadAhead) (s : CallbackState) : StreamEvent → CallbackState × Int
  | .header cat name value => onHeader s cat name value
  | .headersEnd cat endStream => ({ s with call := onHeadersFrame cat endStream s.call }, 0)
  | .data bytes => onDataChunkRecv ra s bytes
  | .rstStream code =>
    ({ s with call := { s.call with streamResetSeen := true, streamErrorCode := code } }, 0)
  | .pushPromise => onPushPromise s
  | .closed code =>
    ({ s with call := { s.call with streamClosed := true, streamErrorCode := code } }, 0)

end CallbackState

/-- What a GOAWAY does to the call of a stream above its last one. -/
def GrpcCall.onRefused (call : GrpcCall) : GrpcCall :=
  { call with
    streamErrorCode := Nghttp2.refusedStream, streamRefusedSeen := true, streamClosed := true }

end GrpcLite
