import Mathlib.Logic.Function.Basic
import GrpcLite.Exchange.Upload
import GrpcLite.Transport.Io

/-!
# The transport state

All connections and calls of the process with the persistent cache. A call is
changed only by a `CallInput`, one for every place where the source writes to a
`grpc_call`, and keeps the list of its inputs; the input and output made on a
connection is logged with the state of the connection at that moment.
-/

namespace GrpcLite

/-- One change of a `grpc_call`. -/
inductive CallInput
  /-- A library callback, with the answers to the resets it may submit. -/
  | event (ra : ReadAhead) (rstAnswers : List Int) (event : StreamEvent)
  /-- A GOAWAY whose last stream is below the stream of the call. -/
  | refused
  /-- `call->stream_id = nghttp2_submit_request(...)`. -/
  | submitted (streamId : Int)
  /-- The writes of `register_grpc_call_stream`. -/
  | registered (connection : ConnId)
  /-- The writes of `unregister_grpc_call_stream`. -/
  | unregistered
  /-- Ownership given up; the server-streaming variant also forgets the connection. -/
  | ownerCleared (forget : Bool)
  /-- `call->timed_out = true`, at a time of the clock. -/
  | timedOut (now : Nat)
  /-- The error of a failed read or write copied from the connection. -/
  | ioError (errno sslError : Nat) (detail : Option ErrorDetail)
  /-- `grpc_call_note_connection_broken`. -/
  | connectionBroken (errno : Nat) (detail : Option ErrorDetail)
  /-- `call->locally_cancelled = true`. -/
  | locallyCancelled
  /-- `call.grpc_status = GRPC_STATUS_CANCELLED`. -/
  | userCancelled
  /-- `free_queued_response_payloads`. -/
  | freeQueue
  /-- The pop of a pull. -/
  | dequeue
  /-- The pop of a unary call. -/
  | take
  /-- `call->malformed_response_frame = true` behind the receive loops. -/
  | truncated
  /-- `call->request_offset += n`. -/
  | requestSent (n : Nat)
  deriving DecidableEq, Repr

namespace GrpcCall

/-- What an input does to a call. -/
def apply (call : GrpcCall) : CallInput → GrpcCall
  | .event ra rstAnswers event => (CallbackState.onEvent ra ⟨call, rstAnswers, []⟩ event).1.call
  | .refused => call.onRefused
  | .submitted streamId => { call with streamId := streamId }
  | .registered k =>
    { call with connection := some k, streamRegistered := true, connectionOwned := true }
  | .unregistered => { call with streamRegistered := false }
  | .ownerCleared forget =>
    { call with
      connectionOwned := false, connection := if forget then none else call.connection }
  | .timedOut _ => { call with timedOut := true }
  | .ioError errno sslError detail =>
    { call with lastIoErrno := errno, lastSslError := sslError, lastIoErrorDetail := detail }
  | .connectionBroken errno detail =>
    if call.timedOut then call
    else
      { call with
        connectionBroken := true
        lastIoErrorDetail := call.lastIoErrorDetail <|> detail
        lastIoErrno := if call.lastIoErrno = 0 then errno else call.lastIoErrno }
  | .locallyCancelled => { call with locallyCancelled := true }
  | .userCancelled => { call with grpcStatus := Status.cancelled }
  | .freeQueue => call.freeQueuedResponsePayloads
  | .dequeue =>
    match call.dequeueResponsePayload with
    | some (_, call') => call'
    | none => call
  | .take => call.unaryTakeResponsePayload.2
  | .truncated => { call with malformedResponseFrame := true }
  | .requestSent n => call.advanceRequest n

end GrpcCall

/-- A call with what surrounds it: the fields of `server_streaming_call_state`, whether the
object still exists, and a record of its past. -/
structure TrackedCall where
  /-- The call record. -/
  call : GrpcCall := {}
  /-- The object has not been released. -/
  live : Bool := false
  /-- Messages returned so far by pulls. -/
  deliveredMessages : Nat := 0
  /-- The server stream has ended. -/
  completed : Bool := false
  /-- The user cancelled the server stream. -/
  cancelled : Bool := false
  /-- The record as the driver initialised it. -/
  start : GrpcCall := {}
  /-- All changes of the record since then, oldest first. -/
  inputs : List CallInput := []
  /-- Payloads returned by pulls, oldest first. -/
  delivered : List Bytes := []
  deriving DecidableEq, Repr

/-- Apply an input to the call and record it. -/
def TrackedCall.input (tc : TrackedCall) (i : CallInput) : TrackedCall :=
  { tc with call := tc.call.apply i, inputs := tc.inputs ++ [i] }

/-- Operations on a connection that need it alive. -/
inductive IoKind
  /-- `nghttp2_session_send`. -/
  | sessionSend
  /-- `nghttp2_session_mem_recv`. -/
  | memRecv
  /-- `nghttp2_submit_request`. -/
  | submitRequest
  /-- `nghttp2_submit_rst_stream`. -/
  | submitRst
  /-- `nghttp2_session_set_stream_user_data`. -/
  | setUserData
  /-- A read from the socket or from TLS. -/
  | read
  /-- A write to the socket or to TLS. -/
  | write
  deriving DecidableEq, Repr

/-- A logged operation and the state of its connection at that moment. -/
structure IoRecord where
  /-- The connection. -/
  connection : ConnId
  /-- The operation. -/
  kind : IoKind
  /-- The connection was dead. -/
  dead : Bool
  /-- The connection object was destroyed. -/
  destroyed : Bool
  deriving DecidableEq, Repr

/-- The destruction of a connection and what still referred to it. -/
structure DestroyRecord where
  /-- The connection. -/
  connection : ConnId
  /-- Its number of owners. -/
  owners : Nat
  /-- It was in the persistent cache. -/
  cached : Bool
  /-- Number of destructions before this one. -/
  destroyed : Nat
  deriving DecidableEq, Repr

/-- The release of a call object. -/
structure ReleaseRecord where
  /-- The call. -/
  call : CallId
  /-- The library could no longer read the request of the call. -/
  detached : Bool
  deriving DecidableEq, Repr

/-- `persistent_connection_entry` under its key. -/
structure CacheEntry where
  /-- Key of the entry. -/
  key : Bytes
  /-- The cached connection. -/
  connection : ConnId
  /-- `connection_key_identity`. -/
  identity : Bytes
  deriving DecidableEq, Repr

/-- The configuration the transport reads. -/
structure Config where
  /-- `grpc_lite.server_streaming_read_ahead_max_messages`. -/
  readAheadMaxMessages : Int := 32
  /-- `grpc_lite.server_streaming_read_ahead_max_bytes`. -/
  readAheadMaxBytes : Int := 8 * 1024 * 1024
  /-- `grpc_lite.preflight_drain_max_bytes`. -/
  preflightDrainMaxBytes : Int := 65536
  /-- `grpc_lite.http2_max_frame_size`. -/
  http2MaxFrameSize : Int := 16384
  deriving DecidableEq, Repr

/-- `effective_server_streaming_read_ahead_max_messages`. -/
def Config.effectiveReadAheadMaxMessages (config : Config) : Nat :=
  if config.readAheadMaxMessages > 0 then config.readAheadMaxMessages.toNat else 32

/-- `effective_server_streaming_read_ahead_max_bytes`. -/
def Config.effectiveReadAheadMaxBytes (config : Config) : Nat :=
  if config.readAheadMaxBytes > 0 then config.readAheadMaxBytes.toNat else 8 * 1024 * 1024

/-- `effective_preflight_drain_max_bytes`. -/
def Config.effectivePreflightDrainMaxBytes (config : Config) : Nat :=
  if config.preflightDrainMaxBytes < 4096 then 4096 else config.preflightDrainMaxBytes.toNat

/-- `effective_http2_max_frame_size`. -/
def Config.effectiveHttp2MaxFrameSize (config : Config) : Nat :=
  if config.http2MaxFrameSize < 16384 then 16384
  else if config.http2MaxFrameSize > 16777215 then 16777215
  else config.http2MaxFrameSize.toNat

/-- `h2_write_coalesce_capacity_for_max_frame_size`. -/
def h2WriteCoalesceCapacityForMaxFrameSize (maxFrameSize : Nat) : Nat :=
  if 4 * (maxFrameSize + 9) < 65536 then 65536
  else if 4 * (maxFrameSize + 9) > 1024 * 1024 then 1024 * 1024
  else 4 * (maxFrameSize + 9)

/-- The state of the process. -/
structure World where
  /-- Clock, `errno` and answers. -/
  env : Env := {}
  /-- Configuration. -/
  config : Config := {}
  /-- Connections by identity. -/
  conns : ConnId → H2Connection := fun _ => {}
  /-- Calls by identity. -/
  calls : CallId → TrackedCall := fun _ => {}
  /-- Number of connections created. -/
  nextConn : ConnId := 0
  /-- Number of calls created. -/
  nextCall : CallId := 0
  /-- The persistent connection cache. -/
  cache : List CacheEntry := []
  /-- Operations made on connections, oldest first. -/
  ioLog : List IoRecord := []
  /-- Calls whose request bytes the library asked for, with whether they were live. -/
  sourceReads : List (CallId × Bool) := []
  /-- Destructions of connections, oldest first. -/
  destroys : List DestroyRecord := []
  /-- Releases of call objects, oldest first. -/
  releases : List ReleaseRecord := []

namespace World

/-- Change a connection. -/
def setConn (w : World) (k : ConnId) (f : H2Connection → H2Connection) : World :=
  { w with conns := Function.update w.conns k (f (w.conns k)) }

/-- Change a call and what surrounds it. -/
def setCall (w : World) (c : CallId) (f : TrackedCall → TrackedCall) : World :=
  { w with calls := Function.update w.calls c (f (w.calls c)) }

/-- Apply an input to a call. -/
def input (w : World) (c : CallId) (i : CallInput) : World := w.setCall c (·.input i)

/-- Log an operation on a connection. -/
def log (w : World) (k : ConnId) (kind : IoKind) : World :=
  { w with ioLog := w.ioLog ++
      [⟨k, kind, (w.conns k).dead, decide ((w.conns k).destroyed > 0)⟩] }

/-- Every stream that sends the request of a call is closed or reset, or its connection is
dead. -/
def requestDetached (w : World) (c : CallId) : Bool :=
  (List.range w.nextConn).all fun k => (w.conns k).streams.all fun entry =>
    decide (entry.source ≠ c) || entry.closed || entry.reset || (w.conns k).dead

/-- What the read-ahead check of a call on a connection sees. -/
def readAhead (w : World) (k : ConnId) (c : CallId) : ReadAhead where
  foreignReader :=
    match (w.conns k).currentReadCall with
    | some reader => decide (reader ≠ c)
    | none => false
  maxMessages := w.config.effectiveReadAheadMaxMessages
  maxBytes := w.config.effectiveReadAheadMaxBytes

end World

/-- A computation on the state of the process. -/
abbrev Proc (α : Type) := Exec World α

namespace Proc

/-- Run a computation on the environment. -/
def onEnv {α : Type} (m : Exec Env α) : Proc α :=
  Exec.zoom World.env (fun env w => { w with env := env }) m

/-- Run a computation on a connection. -/
def onPort {α : Type} (k : ConnId) (m : Exec Port α) : Proc α :=
  Exec.zoom (fun w => ⟨w.env, w.conns k⟩)
    (fun p w => { w with env := p.env, conns := Function.update w.conns k p.conn }) m

/-- A connection. -/
def conn (k : ConnId) : Proc H2Connection := do return (← get).conns k

/-- A call and what surrounds it. -/
def tracked (c : CallId) : Proc TrackedCall := do return (← get).calls c

/-- A call. -/
def call (c : CallId) : Proc GrpcCall := do return (← get).calls c |>.call

@[inherit_doc World.setConn]
def setConn (k : ConnId) (f : H2Connection → H2Connection) : Proc Unit := modify (·.setConn k f)

@[inherit_doc World.setCall]
def setCall (c : CallId) (f : TrackedCall → TrackedCall) : Proc Unit := modify (·.setCall c f)

@[inherit_doc World.input]
def input (c : CallId) (i : CallInput) : Proc Unit := modify (·.input c i)

@[inherit_doc World.log]
def log (k : ConnId) (kind : IoKind) : Proc Unit := modify (·.log k kind)

/-- Whether the library of a connection may hold frames that it can send. A submission and
received bytes can queue some; a completed send and a library that does not want to write
mean that there are none. -/
def noteOutbound (k : ConnId) (outbound : Bool) : Proc Unit :=
  setConn k fun conn => { conn with outbound := outbound }

/-- `mark_connection_dead`. -/
def markConnectionDead (k : ConnId) (errorCode : Int) : Proc Unit :=
  setConn k (·.markDead errorCode)

/-- `monotonic_us`. -/
def monotonicUs : Proc Nat := onEnv Env.monotonicUs

/-- `call->timed_out = true`. -/
def markTimedOut (c : CallId) : Proc Unit := do
  input c (.timedOut (← get).env.now)

/-- `grpc_call_note_connection_broken`. -/
def noteConnectionBroken (c : CallId) : Proc Unit := do
  match (← call c).connection with
  | some k =>
    let conn ← conn k
    input c (.connectionBroken conn.lastIoErrno conn.lastErrorDetail)
  | none => input c (.connectionBroken 0 none)

end Proc

end GrpcLite
