import GrpcLite.Exchange.Call

/-!
# Sending the request

The length of a DATA frame and its bytes are decided by two callbacks that share
the offset of the call: one takes the smaller of the remaining bytes and the limit
of the library, the other copies the bytes out of the message header and the
request, chunk by chunk.
-/

namespace GrpcLite

namespace GrpcCall

/-- `data_source_read_callback`: the length of the next DATA frame and its end-of-data flag. -/
def dataSourceReadCallback (call : GrpcCall) (length : Nat) : Nat × Bool :=
  let remaining := call.remainingRequestBytes
  let toSend := if remaining < length then remaining else length
  (toSend, decide (toSend = remaining))

/-- The next chunk of `h2_send_data_callback`: none when the library asks for more bytes than
the source holds. -/
def requestChunk (call : GrpcCall) (length : Nat) : Option Bytes :=
  if call.requestOffset < call.grpcHeader.length then
    some ((call.grpcHeader.drop call.requestOffset).take length)
  else if call.requestOffset - call.grpcHeader.length ≥ call.request.length then none
  else some ((call.request.drop (call.requestOffset - call.grpcHeader.length)).take length)

/-- `call->request_offset += n`. -/
def advanceRequest (call : GrpcCall) (n : Nat) : GrpcCall :=
  { call with requestOffset := call.requestOffset + n }

/-- The write loop of `h2_send_data_callback` while all writes succeed: the chunks written and
the call behind them, none for the error of a source that holds too few bytes. A chunk is
never empty, so the length bounds the rounds. -/
def sendDataChunks : Nat → GrpcCall → Nat → Option (List Bytes × GrpcCall)
  | _, call, 0 => some ([], call)
  | 0, _, _ + 1 => none
  | fuel + 1, call, length + 1 => do
    let chunk ← call.requestChunk (length + 1)
    let (chunks, call') ←
      sendDataChunks fuel (call.advanceRequest chunk.length) (length + 1 - chunk.length)
    return (chunk :: chunks, call')

end GrpcCall

/-- A DATA frame: its payload and its end-of-data flag. -/
structure DataFrame where
  /-- The payload. -/
  payload : Bytes
  /-- `NGHTTP2_DATA_FLAG_EOF`. -/
  eof : Bool
  deriving DecidableEq, Repr

namespace GrpcCall

/-- One DATA frame without padding: the read callback with a limit, then the send callback with
the length it returned. -/
def sendDataFrame (call : GrpcCall) (limit : Nat) : Option (DataFrame × GrpcCall) := do
  let (length, eof) := call.dataSourceReadCallback limit
  let (chunks, call') ← sendDataChunks length call length
  return (⟨chunks.flatten, eof⟩, call')

/-- DATA frames under a sequence of limits; the library reads no further once a frame carries
the end-of-data flag. -/
def upload (call : GrpcCall) : List Nat → Option (List DataFrame × GrpcCall)
  | [] => some ([], call)
  | limit :: limits => do
    let (frame, call') ← call.sendDataFrame limit
    if frame.eof then return ([frame], call')
    let (frames, call'') ← call'.upload limits
    return (frame :: frames, call'')

end GrpcCall

end GrpcLite
