import GrpcLite.Surface.Channel
import GrpcLite.Transport.Session

/-!
# The trace file

A process with a trace file appends a record for every frame, every read or write
of the transport, every request header and every finished call. A record is a line
of fields, and the directive of a field says how its value is printed.
-/

namespace GrpcLite

/-! ## Words of the format strings -/

/-- The names of the fields. -/
inductive TraceKey
  | monotonicUs | pid | event | streamId | frameType | frameTypeId | flags | framePayloadLen
  | chunkLen | rpcMethod | settingsCount | settings | windowSizeIncrement | errorCode
  | headerBlockLen | payloadHex | offset | remainingLen | lastStreamId | requestedLen | resultLen
  | sslError | errno | index | name | valueLen | sensitive | valueSha256 | value | fd | dead
  | transportImpl | rpcKind | elapsedUs | statusCode | requestBytes | responseBytes
  | persistentReused
  deriving DecidableEq, Repr

/-- The text of a name. -/
def TraceKey.text : TraceKey → Bytes
  | .monotonicUs => ascii "monotonic_us".toList
  | .pid => ascii "pid".toList
  | .event => ascii "event".toList
  | .streamId => ascii "stream_id".toList
  | .frameType => ascii "frame_type".toList
  | .frameTypeId => ascii "frame_type_id".toList
  | .flags => ascii "flags".toList
  | .framePayloadLen => ascii "frame_payload_len".toList
  | .chunkLen => ascii "chunk_len".toList
  | .rpcMethod => ascii "rpc_method".toList
  | .settingsCount => ascii "settings_count".toList
  | .settings => ascii "settings".toList
  | .windowSizeIncrement => ascii "window_size_increment".toList
  | .errorCode => ascii "error_code".toList
  | .headerBlockLen => ascii "header_block_len".toList
  | .payloadHex => ascii "payload_hex".toList
  | .offset => ascii "offset".toList
  | .remainingLen => ascii "remaining_len".toList
  | .lastStreamId => ascii "last_stream_id".toList
  | .requestedLen => ascii "requested_len".toList
  | .resultLen => ascii "result_len".toList
  | .sslError => ascii "ssl_error".toList
  | .errno => ascii "errno".toList
  | .index => ascii "index".toList
  | .name => ascii "name".toList
  | .valueLen => ascii "value_len".toList
  | .sensitive => ascii "sensitive".toList
  | .valueSha256 => ascii "value_sha256".toList
  | .value => ascii "value".toList
  | .fd => ascii "fd".toList
  | .dead => ascii "dead".toList
  | .transportImpl => ascii "transport_impl".toList
  | .rpcKind => ascii "rpc_kind".toList
  | .elapsedUs => ascii "elapsed_us".toList
  | .statusCode => ascii "status_code".toList
  | .requestBytes => ascii "request_bytes".toList
  | .responseBytes => ascii "response_bytes".toList
  | .persistentReused => ascii "persistent_reused".toList

/-- The quoted words of the format strings. -/
inductive TraceWord
  | connectionDestroy | frameOut | connectionPreface | chunkUnparsed | frameIn | requestHeader
  | rpcEnd | grpcLite | unary | serverStreaming
  deriving DecidableEq, Repr

/-- The text of a word. -/
def TraceWord.text : TraceWord → Bytes
  | .connectionDestroy => ascii "transport.connection_destroy".toList
  | .frameOut => ascii "wire.frame_out".toList
  | .connectionPreface => ascii "wire.connection_preface".toList
  | .chunkUnparsed => ascii "wire.chunk_unparsed".toList
  | .frameIn => ascii "wire.frame_in".toList
  | .requestHeader => ascii "wire.request_header".toList
  | .rpcEnd => ascii "rpc.end".toList
  | .grpcLite => ascii "grpc-lite".toList
  | .unary => ascii "unary".toList
  | .serverStreaming => ascii "server_streaming".toList

/-- The events that reads and writes of the transport are traced under. -/
inductive IoEvent
  | tlsPreflightRead | tlsPreflightReadRetry | socketPreflightRead | tlsWrite | tlsWriteRetry
  | socketWrite | tlsRead | tlsReadRetry | socketRead
  deriving DecidableEq, Repr

/-- The name of an event. -/
def IoEvent.text : IoEvent → Bytes
  | .tlsPreflightRead => ascii "wire.tls_preflight_read".toList
  | .tlsPreflightReadRetry => ascii "wire.tls_preflight_read_retry".toList
  | .socketPreflightRead => ascii "wire.socket_preflight_read".toList
  | .tlsWrite => ascii "wire.tls_write".toList
  | .tlsWriteRetry => ascii "wire.tls_write_retry".toList
  | .socketWrite => ascii "wire.socket_write".toList
  | .tlsRead => ascii "wire.tls_read".toList
  | .tlsReadRetry => ascii "wire.tls_read_retry".toList
  | .socketRead => ascii "wire.socket_read".toList

namespace Trace

/-! ## Printing -/

/-- `hex[n]`. -/
def hexChar (n : Nat) : UInt8 := (ascii "0123456789abcdef".toList).getD n 0

/-- One byte in `grpc_lite_trace_json_string`. -/
def jsonByte (ch : UInt8) : Bytes :=
  if ch = 92 then [92, 92]
  else if ch = 34 then [92, 34]
  else if ch = 8 then [92, 98]
  else if ch = 12 then [92, 102]
  else if ch = 10 then [92, 110]
  else if ch = 13 then [92, 114]
  else if ch = 9 then [92, 116]
  else if ch < 0x20 then [92, 117, 48, 48, hexChar (ch.toNat / 16), hexChar (ch.toNat % 16)]
  else [ch]

/-- `grpc_lite_trace_json_string`. -/
def jsonString (bytes : Bytes) : Bytes := 34 :: (bytes.flatMap jsonByte ++ [34])

/-- `grpc_lite_trace_hex`. -/
def hex (bytes : Bytes) : Bytes :=
  34 :: ((bytes.flatMap fun b => [hexChar (b.toNat / 16), hexChar (b.toNat % 16)]) ++ [34])

/-- `%.*s` with a length that is cast to `int`: a negative one counts as none, and a zero byte
ends the text. The length of a string that can be printed at all is not changed by the cast. -/
def printfString (s : Bytes) : Bytes :=
  if s.length % 2 ^ 32 < 2 ^ 31 then Surface.cString (s.take (s.length % 2 ^ 32))
  else Surface.cString s

/-- `grpc_lite_trace_header_value_is_sensitive`. -/
def headerValueIsSensitive (name : Bytes) : Bool :=
  name == ascii "authorization".toList || name == ascii "x-goog-user-project".toList ||
    name == ascii "x-goog-request-params".toList ||
    name == ascii "google-cloud-resource-prefix".toList

/-- `grpc_lite_h2_frame_type_name`. -/
def h2FrameTypeName : Nat → Bytes
  | 0 => ascii "DATA".toList
  | 1 => ascii "HEADERS".toList
  | 2 => ascii "PRIORITY".toList
  | 3 => ascii "RST_STREAM".toList
  | 4 => ascii "SETTINGS".toList
  | 5 => ascii "PUSH_PROMISE".toList
  | 6 => ascii "PING".toList
  | 7 => ascii "GOAWAY".toList
  | 8 => ascii "WINDOW_UPDATE".toList
  | 9 => ascii "CONTINUATION".toList
  | _ => ascii "UNKNOWN".toList

/-- `grpc_lite_h2_setting_name`. -/
def h2SettingName : Nat → Bytes
  | 1 => ascii "HEADER_TABLE_SIZE".toList
  | 2 => ascii "ENABLE_PUSH".toList
  | 3 => ascii "MAX_CONCURRENT_STREAMS".toList
  | 4 => ascii "INITIAL_WINDOW_SIZE".toList
  | 5 => ascii "MAX_FRAME_SIZE".toList
  | 6 => ascii "MAX_HEADER_LIST_SIZE".toList
  | _ => ascii "UNKNOWN".toList

/-- One entry of a settings list: its identifier and its value. -/
def settingText (entry : Nat × Nat) : Bytes :=
  ascii "\x7b\"id\":".toList ++ decimal entry.1 ++ ascii ",\"name\":".toList ++
    jsonString (h2SettingName entry.1) ++ ascii ",\"value\":".toList ++ decimal entry.2 ++ [125]

/-- The entries of a settings list, a comma in front of each but the first. -/
def settingsText : List (Nat × Nat) → Bytes
  | [] => []
  | [entry] => settingText entry
  | entry :: entries => settingText entry ++ 44 :: settingsText entries

end Trace

/-- A value with the directive that prints it. -/
inductive TraceValue
  /-- `%u`, `%zu` or `PRIu64`. -/
  | unsigned (n : Nat)
  /-- `%d`, `%ld` or `%zd`. -/
  | signed (i : Int)
  /-- `true`, `false` or `null`. -/
  | keyword (b : Option Bool)
  /-- A quoted word of the format string. -/
  | word (w : TraceWord)
  /-- `"%.*s"`: a string as it is, between quotes. -/
  | verbatim (s : Bytes)
  /-- `grpc_lite_trace_json_string`. -/
  | string (s : Bytes)
  /-- `grpc_lite_trace_hex`. -/
  | hex (bytes : Bytes)
  /-- The entries of a settings list. -/
  | settings (entries : List (Nat × Nat))
  deriving DecidableEq, Repr

/-- What is printed for a value. -/
def TraceValue.text : TraceValue → Bytes
  | .unsigned n => decimal n
  | .signed i => signedDecimal i
  | .keyword none => ascii "null".toList
  | .keyword (some true) => ascii "true".toList
  | .keyword (some false) => ascii "false".toList
  | .word w => 34 :: (w.text ++ [34])
  | .verbatim s => 34 :: (Trace.printfString s ++ [34])
  | .string s => Trace.jsonString s
  | .hex bytes => Trace.hex bytes
  | .settings entries => 91 :: (Trace.settingsText entries ++ [93])

/-- The fields of a record. -/
abbrev TraceLine := List (TraceKey × TraceValue)

namespace TraceLine

/-- A field: its quoted name, a colon and its value. -/
def fieldText (field : TraceKey × TraceValue) : Bytes :=
  34 :: (field.1.text ++ 34 :: 58 :: field.2.text)

/-- The fields, a comma in front of each but the first. -/
def fieldsText : TraceLine → Bytes
  | [] => []
  | [field] => fieldText field
  | field :: fields => fieldText field ++ 44 :: fieldsText fields

/-- A record without the end of its line. -/
def text (line : TraceLine) : Bytes := 123 :: (line.fieldsText ++ [125])

end TraceLine

/-! ## The process and its file -/

/-- What the trace functions are told: the two cached environment variables, the process number,
how each attempt to open the file ends, the readings of the clock and `SHA256`. -/
structure TraceEnv where
  /-- `grpc_lite_trace_file_path_cache`. -/
  filePath : Option Bytes
  /-- `grpc_lite_trace_wire_bytes_cache`. -/
  wireBytes : Bool
  /-- `getpid()`. -/
  pid : Int
  /-- Whether each `fopen` succeeds. -/
  fopen : Nat → Bool
  /-- Each reading of `monotonic_us()`. -/
  monotonicUs : Nat → Nat
  /-- `SHA256`. -/
  sha256 : Bytes → Bytes

/-- `grpc_lite_trace_cache_init`, with the two environment variables. -/
def TraceEnv.cacheInit (env : TraceEnv) (path wireBytes : Option Bytes) : TraceEnv :=
  { env with
    filePath := if env.filePath = none ∧ (path.getD []).length > 0 then path else env.filePath
    wireBytes := (wireBytes.getD []).head?.any fun b => b != 48 }

/-- `grpc_lite_trace_cache_shutdown`. -/
def TraceEnv.cacheShutdown (env : TraceEnv) : TraceEnv :=
  { env with filePath := none, wireBytes := false }

/-- A record: the time and the process come first. -/
def TraceEnv.line (env : TraceEnv) (nowUs : Nat) (event : TraceValue) (fields : TraceLine) :
    TraceLine :=
  (.monotonicUs, .unsigned nowUs) :: (.pid, .signed env.pid) :: (.event, event) :: fields

/-- The records of the file, with the number of attempts to open it and of readings of the clock
so far. -/
structure TraceLog where
  /-- The records in the order of the file. -/
  lines : List TraceLine := []
  /-- Attempts to open the file. -/
  opened : Nat := 0
  /-- Readings of the clock. -/
  readings : Nat := 0

/-- The fields of a `grpc_call` that a record shows. -/
structure TracedCall where
  /-- `method_path`. -/
  methodPath : Option Bytes
  /-- `stream_id`. -/
  streamId : Int
  deriving DecidableEq, Repr

/-- What a record shows of a connection. -/
structure TracedConnection where
  /-- `nghttp2_session_get_stream_user_data`. -/
  streamUserData : Int → Option TracedCall
  /-- `current_io_call`. -/
  currentIoCall : Option TracedCall
  /-- `fd`. -/
  fd : Int
  /-- `dead`. -/
  dead : Bool

/-- `grpc_call_from_stream_id`. -/
def TracedConnection.callFromStreamId (connection : TracedConnection) (streamId : Int) :
    Option TracedCall :=
  if streamId ≤ 0 then none else connection.streamUserData streamId

namespace Trace

/-! ## Frames -/

/-- A byte of a buffer. -/
def byteAt (data : Bytes) (i : Nat) : UInt8 := data.getD i 0

/-- `grpc_lite_read_be32` at an offset. -/
def readBe32 (data : Bytes) (off : Nat) : Nat :=
  be32 (byteAt data off) (byteAt data (off + 1)) (byteAt data (off + 2)) (byteAt data (off + 3))

/-- `grpc_lite_read_be16` at an offset. -/
def readBe16 (data : Bytes) (off : Nat) : Nat := be32 0 0 (byteAt data off) (byteAt data (off + 1))

/-- The length field of a frame header. -/
def frameLen (data : Bytes) : Nat := be32 0 (byteAt data 0) (byteAt data 1) (byteAt data 2)

/-- The type field of a frame header. -/
def frameType (data : Bytes) : Nat := (byteAt data 3).toNat

/-- The flags of a frame header. -/
def frameFlags (data : Bytes) : Nat := (byteAt data 4).toNat

/-- The stream identifier of a frame header, without the reserved bit. -/
def frameStreamId (data : Bytes) : Nat :=
  be32 (byteAt data 5 &&& 0x7f) (byteAt data 6) (byteAt data 7) (byteAt data 8)

/-- The payload behind a frame header. -/
def framePayload (data : Bytes) : Bytes := (data.drop 9).take (frameLen data)

/-- The entries of a settings payload. -/
def settingsEntries (payload : Bytes) : List (Nat × Nat) :=
  (List.range (payload.length / 6)).map fun i =>
    (readBe16 payload (i * 6), readBe32 payload (i * 6 + 2))

/-- `grpc_lite_trace_settings_entries_from_payload`. -/
def settingsEntriesFromPayload (payload : Bytes) : TraceLine :=
  if payload.length % 6 ≠ 0 then []
  else [(.settingsCount, .unsigned (payload.length / 6)),
    (.settings, .settings (settingsEntries payload))]

/-- The method of a call, where one is known. -/
def rpcMethod (call : Option TracedCall) : TraceLine :=
  match call.bind TracedCall.methodPath with
  | some path => [(.rpcMethod, .string path)]
  | none => []

/-- What `grpc_lite_trace_outbound_frame_record` prints of a payload by the type of the frame. -/
def outboundPayload (data : Bytes) : TraceLine :=
  if frameType data = 4 ∧ 9 + frameLen data ≤ data.length then
    settingsEntriesFromPayload (framePayload data)
  else if frameType data = 8 ∧ 13 ≤ data.length ∧ frameLen data = 4 then
    [(.windowSizeIncrement, .unsigned (readBe32 data 9 % 2 ^ 31))]
  else if frameType data = 3 ∧ 13 ≤ data.length ∧ frameLen data = 4 then
    [(.errorCode, .unsigned (readBe32 data 9))]
  else []

/-- What it prints last: the length of a header block, or the payload of a frame that has no user
data. -/
def outboundWireBytes (env : TraceEnv) (data : Bytes) : TraceLine :=
  if frameType data = 1 then [(.headerBlockLen, .unsigned (frameLen data))]
  else if env.wireBytes = true ∧ (frameType data = 4 ∨ frameType data = 8 ∨ frameType data = 6 ∨
      frameType data = 7) ∧ 9 + frameLen data ≤ data.length then
    [(.payloadHex, .hex (framePayload data))]
  else []

/-- The fields of `grpc_lite_trace_outbound_frame_record`. -/
def outboundFields (env : TraceEnv) (connection : TracedConnection) (data : Bytes) : TraceLine :=
  ([(.streamId, .signed (frameStreamId data)),
    (.frameType, .string (h2FrameTypeName (frameType data))),
    (.frameTypeId, .unsigned (frameType data)), (.flags, .unsigned (frameFlags data)),
    (.framePayloadLen, .unsigned (frameLen data)), (.chunkLen, .unsigned data.length)] :
      TraceLine) ++
  (if frameStreamId data > 0 then
    rpcMethod (connection.callFromStreamId (frameStreamId data)) else []) ++
  outboundPayload data ++ outboundWireBytes env data

/-- What `grpc_lite_trace_inbound_frame` reads of a `nghttp2_frame`. -/
structure InboundFrame where
  /-- `hd.stream_id`. -/
  streamId : Int
  /-- `hd.type`. -/
  type : Nat
  /-- `hd.flags`. -/
  flags : Nat
  /-- `hd.length`. -/
  length : Nat
  /-- `settings.iv`. -/
  settings : List (Nat × Nat) := []
  /-- `window_update.window_size_increment`. -/
  windowSizeIncrement : Int := 0
  /-- `goaway.last_stream_id`. -/
  lastStreamId : Int := 0
  /-- `goaway.error_code` or `rst_stream.error_code`. -/
  errorCode : Nat := 0
  deriving DecidableEq, Repr

/-- What `grpc_lite_trace_inbound_frame` prints by the type of the frame. -/
def inboundPayload (frame : InboundFrame) : TraceLine :=
  if frame.type = 4 then
    [(.settingsCount, .unsigned frame.settings.length), (.settings, .settings frame.settings)]
  else if frame.type = 8 then [(.windowSizeIncrement, .signed frame.windowSizeIncrement)]
  else if frame.type = 7 then
    [(.lastStreamId, .signed frame.lastStreamId), (.errorCode, .unsigned frame.errorCode)]
  else if frame.type = 3 then [(.errorCode, .unsigned frame.errorCode)]
  else []

/-- The fields of `grpc_lite_trace_inbound_frame`. -/
def inboundFields (connection : TracedConnection) (frame : InboundFrame) : TraceLine :=
  ([(.streamId, .signed frame.streamId), (.frameType, .string (h2FrameTypeName frame.type)),
    (.frameTypeId, .unsigned frame.type), (.flags, .unsigned frame.flags),
    (.framePayloadLen, .unsigned frame.length)] : TraceLine) ++
  rpcMethod (connection.callFromStreamId frame.streamId) ++ inboundPayload frame

/-! ## Transport, headers and calls -/

/-- The fields of `grpc_lite_trace_transport_io`. -/
def transportIoFields (connection : TracedConnection) (requestedLen : Nat) (resultLen : Int)
    (sslError savedErrno : Int) : TraceLine :=
  ([(.requestedLen, .unsigned requestedLen), (.resultLen, .signed resultLen)] : TraceLine) ++
  (if sslError ≠ 0 then [(.sslError, .signed sslError)] else [] : TraceLine) ++
  (if savedErrno ≠ 0 then [(.errno, .signed savedErrno)] else [] : TraceLine) ++
  match connection.currentIoCall with
  | some ⟨some path, streamId⟩ => [(.rpcMethod, .string path), (.streamId, .signed streamId)]
  | _ => []

/-- What `grpc_lite_trace_request_headers` prints of a value: a sensitive one is hashed. -/
def headerValue (env : TraceEnv) (header : Header) : TraceKey × TraceValue :=
  if headerValueIsSensitive header.name then (.valueSha256, .hex (env.sha256 header.value))
  else (.value, .string header.value)

/-- The fields of one header in `grpc_lite_trace_request_headers`. Every header of a request has
the flags `NGHTTP2_NV_FLAG_NONE`. -/
def headerFields (env : TraceEnv) (streamId : Int) (path : Bytes) (index : Nat) (header : Header) :
    TraceLine :=
  [(.streamId, .signed streamId), (.rpcMethod, .string path), (.index, .unsigned index),
    (.name, .string header.name), (.valueLen, .unsigned header.value.length), (.flags, .unsigned 0),
    (.sensitive, .keyword (some (headerValueIsSensitive header.name))), headerValue env header]

end Trace

/-- The arguments of `grpc_lite_trace_record_call`. The constructor of a call has validated its
method. `fprintf` counts what it prints in an `int`, and a longer record is cut off: the other
fields of a record take less than 1024 bytes, and only methods that fit beside them are modelled. -/
structure EndedCall where
  /-- `call->method`. -/
  method : Bytes
  /-- It is a method path. -/
  valid : Surface.validateGrpcPath method = none
  /-- The record can be printed as a whole. -/
  short : method.length + 1024 < 2 ^ 31
  /-- `kind`: unary or server streaming. -/
  kind : TraceWord
  /-- `call->trace_started_us`. -/
  startedUs : Nat
  /-- `status_code`. -/
  statusCode : Int
  /-- `request_bytes`. -/
  requestBytes : Nat
  /-- `response_bytes`. -/
  responseBytes : Nat
  /-- `persistent_reused`: none for a negative one. -/
  persistentReused : Option Bool

/-- The fields of `grpc_lite_trace_record_call`. -/
def EndedCall.fields (call : EndedCall) (nowUs : Nat) : TraceLine :=
  [(.transportImpl, .word .grpcLite), (.rpcKind, .word call.kind),
    (.rpcMethod, .verbatim call.method),
    (.elapsedUs, .unsigned
      (if call.startedUs > 0 ∧ nowUs ≥ call.startedUs then nowUs - call.startedUs else 0)),
    (.statusCode, .signed call.statusCode), (.requestBytes, .unsigned call.requestBytes),
    (.responseBytes, .unsigned call.responseBytes),
    (.persistentReused, .keyword call.persistentReused)]

namespace TraceLog

/-! ## Writing -/

/-- The bytes of the file. -/
def file (log : TraceLog) : Bytes := log.lines.flatMap fun line => line.text ++ [10]

/-- Append a record. -/
def append (env : TraceEnv) (nowUs : Nat) (event : TraceValue) (fields : TraceLine)
    (log : TraceLog) : TraceLog :=
  { log with lines := log.lines ++ [env.line nowUs event fields] }

/-- The reading of `monotonic_us()` that comes next. -/
def nextUs (env : TraceEnv) (log : TraceLog) : Nat := env.monotonicUs log.readings

/-- Count a reading. -/
def tick (log : TraceLog) : TraceLog := { log with readings := log.readings + 1 }

/-- Append a record with the time of its printing. -/
def record (env : TraceEnv) (event : TraceValue) (fields : TraceLine) (log : TraceLog) :
    TraceLog :=
  log.tick.append env (log.nextUs env) event fields

/-- `grpc_lite_trace_open_and_lock`: whether the file is open. -/
def openAndLock (env : TraceEnv) (log : TraceLog) : Bool × TraceLog :=
  if env.filePath = none then (false, log)
  else (env.fopen log.opened, { log with opened := log.opened + 1 })

/-- Write to the file, if it opens. -/
def withFile (env : TraceEnv) (log : TraceLog) (write : TraceLog → TraceLog) : TraceLog :=
  if (log.openAndLock env).1 then write (log.openAndLock env).2 else (log.openAndLock env).2

/-- The record of `destroy_h2_connection`. -/
def connectionDestroy (env : TraceEnv) (connection : TracedConnection) (log : TraceLog) :
    TraceLog :=
  if env.filePath = none then log
  else log.withFile env fun log =>
    log.record env (.word .connectionDestroy)
      [(.fd, .signed connection.fd), (.dead, .keyword (some connection.dead))]

/-- `grpc_lite_trace_outbound_frame_record`. -/
def outboundFrameRecord (env : TraceEnv) (connection : TracedConnection) (data : Bytes)
    (log : TraceLog) : TraceLog :=
  if env.filePath = none then log
  else if data.length < 9 then log
  else log.withFile env fun log =>
    log.record env (.word .frameOut) (Trace.outboundFields env connection data)

/-- The loop of `grpc_lite_trace_outbound_frame` from an offset on, with the offset at which it
ends. A round takes nine bytes at least, so the length bounds the rounds. -/
def outboundFrames (env : TraceEnv) (connection : TracedConnection) (data : Bytes) :
    Nat → Nat → TraceLog → TraceLog × Nat
  | 0, offset, log => (log, offset)
  | rounds + 1, offset, log =>
    if offset + 9 ≤ data.length then
      if offset + (Trace.frameLen (data.drop offset) + 9) > data.length then (log, offset)
      else
        outboundFrames env connection data rounds
          (offset + (Trace.frameLen (data.drop offset) + 9))
          (log.outboundFrameRecord env connection
            ((data.drop offset).take (Trace.frameLen (data.drop offset) + 9)))
    else (log, offset)

/-- What `grpc_lite_trace_outbound_frame` prints of the bytes that it could not parse. -/
def chunkUnparsed (env : TraceEnv) (data : Bytes) (offset : Nat) (log : TraceLog) : TraceLog :=
  if offset < data.length then
    log.withFile env fun log =>
      log.record env (.word .chunkUnparsed)
        [(.chunkLen, .unsigned data.length), (.offset, .unsigned offset),
          (.remainingLen, .unsigned (data.length - offset))]
  else log

/-- `grpc_lite_trace_outbound_frame` behind the preface. -/
def outboundRest (env : TraceEnv) (connection : TracedConnection) (data : Bytes) (offset : Nat)
    (log : TraceLog) : TraceLog :=
  let walked := outboundFrames env connection data data.length offset log
  walked.1.chunkUnparsed env data walked.2

/-- The connection preface. -/
def prefaceBytes : Bytes := ascii "PRI * HTTP/2.0\r\n\r\nSM\r\n\r\n".toList

/-- `grpc_lite_trace_outbound_frame`: a file that does not open for the preface ends it. -/
def outboundFrame (env : TraceEnv) (connection : TracedConnection) (data : Bytes)
    (log : TraceLog) : TraceLog :=
  if env.filePath = none then log
  else if 24 ≤ data.length ∧ data.take 24 = prefaceBytes then
    if (log.openAndLock env).1 then
      ((log.openAndLock env).2.record env (.word .connectionPreface)
        [(.chunkLen, .unsigned 24)]).outboundRest env connection data 24
    else (log.openAndLock env).2
  else log.outboundRest env connection data 0

/-- `grpc_lite_trace_inbound_frame`. -/
def inboundFrame (env : TraceEnv) (connection : TracedConnection) (frame : Trace.InboundFrame)
    (log : TraceLog) : TraceLog :=
  if env.filePath = none then log
  else log.withFile env fun log =>
    log.record env (.word .frameIn) (Trace.inboundFields connection frame)

/-- `grpc_lite_trace_transport_io`. -/
def transportIo (env : TraceEnv) (connection : TracedConnection) (event : IoEvent)
    (requestedLen : Nat) (resultLen sslError savedErrno : Int) (log : TraceLog) : TraceLog :=
  if env.filePath = none then log
  else log.withFile env fun log =>
    log.record env (.string event.text)
      (Trace.transportIoFields connection requestedLen resultLen sslError savedErrno)

/-- The loop of `grpc_lite_trace_request_headers` from an index on. -/
def headerRecords (env : TraceEnv) (streamId : Int) (path : Bytes) :
    Nat → List Header → TraceLog → TraceLog
  | _, [], log => log
  | index, header :: headers, log =>
    headerRecords env streamId path (index + 1) headers
      (log.record env (.word .requestHeader)
        (Trace.headerFields env streamId path index header))

/-- `grpc_lite_trace_request_headers`. -/
def requestHeaders (env : TraceEnv) (call : TracedCall) (headers : List Header) (log : TraceLog) :
    TraceLog :=
  match call.methodPath with
  | none => log
  | some path =>
    if env.filePath = none then log
    else log.withFile env (headerRecords env call.streamId path 0 headers)

/-- `grpc_lite_trace_record_call`: the clock is read before the file is opened. -/
def recordCall (env : TraceEnv) (call : EndedCall) (log : TraceLog) : TraceLog :=
  if env.filePath = none then log
  else log.tick.withFile env fun log' =>
    log'.append env (log.nextUs env) (.word .rpcEnd) (call.fields (log.nextUs env))

end TraceLog

/-! ## Runs -/

/-- A call of one of the trace functions. -/
inductive TraceCall
  /-- `destroy_h2_connection`. -/
  | connectionDestroy (connection : TracedConnection)
  /-- `grpc_lite_trace_outbound_frame`, from the send callback. -/
  | outboundFrame (connection : TracedConnection) (data : Bytes)
  /-- `grpc_lite_trace_outbound_frame_record`, from the callback that sends a DATA frame. -/
  | outboundFrameRecord (connection : TracedConnection) (data : Bytes)
  /-- `grpc_lite_trace_inbound_frame`. -/
  | inboundFrame (connection : TracedConnection) (frame : Trace.InboundFrame)
  /-- `grpc_lite_trace_transport_io`. -/
  | transportIo (connection : TracedConnection) (event : IoEvent) (requestedLen : Nat)
    (resultLen sslError savedErrno : Int)
  /-- `grpc_lite_trace_request_headers`. -/
  | requestHeaders (call : TracedCall) (headers : List Header)
  /-- `grpc_lite_trace_record_call`. -/
  | recordCall (call : EndedCall)

namespace TraceLog

/-- What a call of a trace function does. -/
def apply (env : TraceEnv) (log : TraceLog) : TraceCall → TraceLog
  | .connectionDestroy connection => log.connectionDestroy env connection
  | .outboundFrame connection data => log.outboundFrame env connection data
  | .outboundFrameRecord connection data => log.outboundFrameRecord env connection data
  | .inboundFrame connection frame => log.inboundFrame env connection frame
  | .transportIo connection event requestedLen resultLen sslError savedErrno =>
    log.transportIo env connection event requestedLen resultLen sslError savedErrno
  | .requestHeaders call headers => log.requestHeaders env call headers
  | .recordCall call => log.recordCall env call

/-- The file behind any number of calls. -/
def run (env : TraceEnv) (log : TraceLog) (calls : List TraceCall) : TraceLog :=
  calls.foldl (apply env) log

end TraceLog

/-! ## The callbacks that send -/

/-- What a callback of `nghttp2_session_send` traces once its writes have succeeded: `send_callback`
the bytes of its frames, `h2_send_data_callback` the header of its frame. -/
def SendOp.traceCalls (k : ConnId) (w : World) (connection : TracedConnection) :
    SendOp → List TraceCall
  | .frame bytes => [.outboundFrame connection bytes]
  | .data streamId _ framehd padlen =>
    if (w.conns k).requestSource streamId = none ∨ padlen > 0 then []
    else [.outboundFrameRecord connection framehd]
  | .close _ _ => []

/-- What the callbacks trace up to the first that fails; `traced` is what the trace sees of the
connection. -/
def Proc.sendTrace (k : ConnId) (traced : World → TracedConnection) :
    List SendOp → World → List TraceCall
  | [], _ => []
  | op :: rest, w =>
    match onSendOp k op w with
    | some (true, w') => op.traceCalls k w (traced w') ++ sendTrace k traced rest w'
    | _ => []

end GrpcLite
