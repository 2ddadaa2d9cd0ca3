import GrpcLite.Transport.World

/-!
# Driving the library session

Registration of calls for callbacks, the callbacks as `nghttp2_session_mem_recv`
and `nghttp2_session_send` make them, and the flush of pending frames.
-/

namespace GrpcLite

namespace Proc

/-! ## Registration -/

/-- `register_grpc_call_stream`: true for SUCCESS. -/
def registerGrpcCallStream (k : ConnId) (c : CallId) : Proc Bool := do
  let streamId := (← call c).streamId
  if streamId ≤ 0 then return false
  log k .setUserData
  let rv ← onEnv <| Env.ask fun
    | .setUserData rv => some rv
    | _ => none
  if rv ≠ 0 then return false
  setConn k fun conn => conn.mapStream streamId fun entry => { entry with userData := some c }
  input c (.registered k)
  setConn k fun conn =>
    { conn with
      activeStreams := c :: conn.activeStreams
      activeStreamCount := conn.activeStreamCount + 1
      streamOwnerCount := conn.streamOwnerCount + 1 }
  return true

/-- `nghttp2_session_set_stream_user_data(session, stream_id, NULL)`. -/
def clearUserData (k : ConnId) (streamId : Int) : Proc Unit := do
  log k .setUserData
  setConn k fun conn => conn.mapStream streamId fun entry => { entry with userData := none }

/-- `mark_grpc_call_stream_registration_failed`. -/
def markGrpcCallStreamRegistrationFailed (k : ConnId) (c : CallId) : Proc Unit := do
  let streamId := (← call c).streamId
  Exec.when (streamId > 0) (clearUserData k streamId)
  setConn k fun conn => { conn with lastErrorDetail := some .registerFailed }
  markConnectionDead k Nghttp2.errInvalidArgument

/-- `unregister_grpc_call_stream`. -/
def unregisterGrpcCallStream (c : CallId) : Proc Unit := do
  let call ← call c
  match call.connection with
  | none => return
  | some k =>
    if !call.streamRegistered || decide (call.streamId ≤ 0) then return
    let dead := (← conn k).dead
    Exec.when (dead = false) (clearUserData k call.streamId)
    setConn k fun conn =>
      { conn with
        activeStreams := conn.activeStreams.erase c
        activeStreamCount := conn.activeStreamCount - 1 }
    input c .unregistered

/-! ## Receiving -/

/-- The answers to the resets that a callback may submit next. -/
def rstAnswers : List Answer → List Int
  | .submitRst rv :: rest => rv :: rstAnswers rest
  | _ => []

/-- Take the answer to a reset that a callback has submitted, if the script holds one. -/
def consumeRst (env : Env) : Env :=
  match env.script with
  | .submitRst rv :: rest =>
    { env with script := rest, history := env.history ++ [.submitRst rv] }
  | _ => env

/-- What a reset submitted inside a callback does to the session and the connection. -/
def noteRst (k : ConnId) (streamId : Int) (rv : Int) : Proc Unit := do
  log k .submitRst
  modify fun w => { w with env := consumeRst w.env }
  if rv = 0 then
    setConn k fun conn => conn.mapStream streamId fun entry => { entry with reset := true }
  else if Nghttp2.isFatal rv then markConnectionDead k rv

/-- The resets that a callback submitted, in order. -/
def noteRsts (k : ConnId) (streamId : Int) : List (Nat × Int) → Proc Unit
  | [] => return
  | (_, rv) :: rest => do
    noteRst k streamId rv
    noteRsts k streamId rest

/-- A callback for the call registered for its stream: the call is changed, the resets it
asked for are submitted, and a closed stream is unregistered. -/
def dispatchEvent (k : ConnId) (streamId : Int) (c : CallId) (event : StreamEvent) : Proc Int := do
  let w ← get
  let ra := w.readAhead k c
  let answers := rstAnswers w.env.script
  let r := CallbackState.onEvent ra ⟨(w.calls c).call, answers, []⟩ event
  input c (.event ra answers event)
  noteRsts k streamId r.1.rstSubmitted
  Exec.when event.isClose (unregisterGrpcCallStream c)
  return r.2

/-- The callback of an event: nothing without a call registered for the stream. -/
def eventCallback (k : ConnId) (streamId : Int) (event : StreamEvent) : Proc Int := do
  let w ← get
  match (w.conns k).userData streamId with
  | none => return 0
  | some c =>
    if (w.calls c).call.streamId ≠ streamId then return 0
    dispatchEvent k streamId c event

/-- One event of a stream: the library receives it, makes the callback and forgets a closed
stream. -/
def onStreamEvent (k : ConnId) (streamId : Int) (event : StreamEvent) : Proc Int := do
  setConn k (·.receive streamId event)
  let rv ← eventCallback k streamId event
  Exec.when event.isClose
    (setConn k fun conn => conn.mapStream streamId fun entry => { entry with closed := true })
  return rv

/-- The GOAWAY loop over a snapshot of the active streams. -/
def refuseStreams (k : ConnId) (lastStreamId : Int) : List CallId → Proc Unit
  | [] => return
  | c :: rest => do
    let streamId := (← call c).streamId
    Exec.when (streamId > 0 ∧ lastStreamId < streamId) do
      input c .refused
      unregisterGrpcCallStream c
    refuseStreams k lastStreamId rest

/-- `INT32_MAX`. -/
def int32Max : Int := 2 ^ 31 - 1

/-- The GOAWAY branch of `on_frame_recv_callback`; the library then closes the streams above
the last one. -/
def onGoaway (k : ConnId) (lastStreamId : Int) (errorCode : Nat) : Proc Unit := do
  let active := (← conn k).activeStreams
  setConn k (·.markDraining lastStreamId errorCode)
  Exec.when (lastStreamId ≠ int32Max) (refuseStreams k lastStreamId active)
  setConn k fun conn =>
    { conn with streams := conn.streams.map fun entry =>
        if entry.streamId > lastStreamId then { entry with closed := true } else entry }

/-- One callback of `nghttp2_session_mem_recv`. -/
def onSessionEvent (k : ConnId) : SessionEvent → Proc Int
  | .stream streamId event => onStreamEvent k streamId event
  | .goaway lastStreamId errorCode => do
    onGoaway k lastStreamId errorCode
    return 0

/-- Callbacks in order; a failing one ends the library call. -/
def onSessionEvents (k : ConnId) (rv : Int) : List SessionEvent → Proc Int
  | [] => return rv
  | event :: rest => do
    if (← onSessionEvent k event) ≠ 0 then return Nghttp2.errCallbackFailure
    onSessionEvents k rv rest

/-- `nghttp2_session_mem_recv`. -/
def sessionMemRecv (k : ConnId) : Proc Int := do
  log k .memRecv
  let (events, rv) ← onEnv <| Env.ask fun
    | .memRecv events rv => some (events, rv)
    | _ => none
  noteOutbound k true
  onSessionEvents k rv events

/-! ## Sending -/

/-- `send_callback`. -/
def sendFrame (k : ConnId) (bytes : Bytes) : Proc Bool := do
  log k .write
  onPort k (Port.sendCallback bytes)

/-- The write loop of `h2_send_data_callback`: true when all bytes were taken. -/
def sendDataLoop (k : ConnId) (c : CallId) : Nat → Nat → Proc Bool
  | _, 0 => return true
  | 0, _ + 1 => return false
  | fuel + 1, length + 1 => do
    match (← call c).requestChunk (length + 1) with
    | none => return false
    | some chunk =>
      if !(← sendFrame k chunk) then return false
      input c (.requestSent chunk.length)
      sendDataLoop k c fuel (length + 1 - chunk.length)

/-- A DATA frame: the read callback decides its length, the send callback writes it. -/
def sendData (k : ConnId) (streamId : Int) (limit : Nat) (framehd : Bytes) (padlen : Nat) :
    Proc Bool := do
  let w ← get
  match (w.conns k).requestSource streamId with
  | none => return true
  | some c =>
    modify fun w => { w with sourceReads := w.sourceReads ++ [(c, (w.calls c).live)] }
    let length := ((w.calls c).call.dataSourceReadCallback limit).1
    if padlen > 0 then
      setConn k fun conn => conn.mapStream streamId fun entry => { entry with reset := true }
      return true
    if !(← sendFrame k framehd) then return false
    sendDataLoop k c length length

/-- One callback of `nghttp2_session_send`. -/
def onSendOp (k : ConnId) : SendOp → Proc Bool
  | .frame bytes => sendFrame k bytes
  | .data streamId limit framehd padlen => sendData k streamId limit framehd padlen
  | .close streamId errorCode => do
    let _ ← onStreamEvent k streamId (.closed errorCode)
    return true

/-- Callbacks in order; a failing one ends the library call. -/
def onSendOps (k : ConnId) (rv : Int) : List SendOp → Proc Int
  | [] => return rv
  | op :: rest => do
    if !(← onSendOp k op) then return Nghttp2.errCallbackFailure
    onSendOps k rv rest

/-- `nghttp2_session_send`: the library makes callbacks until it has nothing left to send,
and none if there was nothing. -/
def sessionSend (k : ConnId) : Proc Int := do
  log k .sessionSend
  let outbound := (← conn k).outbound
  let (ops, rv) ← onEnv <| Env.ask fun
    | .sessionSend ops rv => if outbound || ops.isEmpty then some (ops, rv) else none
    | _ => none
  let rv ← onSendOps k rv ops
  Exec.when (rv = 0) (noteOutbound k false)
  return rv

/-- The final flush of `send_pending_h2_frames_with_deadline`. -/
def flushPending (k : ConnId) : Proc Int := do
  log k .write
  let deadline := (← conn k).writeDeadline
  if ← onPort k (Port.flushWriteBuffer deadline) then return 0
  return Nghttp2.errCallbackFailure

/-- The library call and the flush of `send_pending_h2_frames_with_deadline`. -/
def sendAndFlush (k : ConnId) : Proc Int := do
  let rv ← sessionSend k
  if rv = 0 then flushPending k else return rv

/-- What a failed send leaves on the call that made it. -/
def noteSendFailure (k : ConnId) : Option CallId → Proc Unit
  | none => return
  | some c => do
    let conn ← conn k
    Exec.when conn.currentWriteTimedOut (markTimedOut c)
    input c (.ioError conn.lastIoErrno conn.lastSslError conn.lastErrorDetail)

/-- The deadline of the writes made for a call. -/
def writeDeadlineFor (w : World) (fallback : Nat) : Option CallId → Nat
  | some c => (w.calls c).call.deadlineAbsUs
  | none => fallback

/-- `send_pending_h2_frames_with_deadline`. -/
def sendPendingH2FramesWithDeadline (k : ConnId) (c : Option CallId) (fallback : Nat) :
    Proc Int := do
  let w ← get
  if (w.conns k).dead then return Nghttp2.errInvalidArgument
  setConn k fun conn =>
    { conn with
      currentWriteDeadlineAbsUs := writeDeadlineFor w fallback c, currentWriteTimedOut := false
      writeCoalescing := true, writeBuffer := [] }
  let rv ← sendAndFlush k
  Exec.when (rv ≠ 0) do
    markConnectionDead k rv
    noteSendFailure k c
  setConn k fun conn =>
    { conn with
      currentWriteDeadlineAbsUs := 0, currentWriteTimedOut := false
      writeCoalescing := false, writeBuffer := [] }
  return rv

/-- `send_pending_h2_frames`. -/
def sendPendingH2Frames (k : ConnId) (c : Option CallId) : Proc Int := do
  sendPendingH2FramesWithDeadline k c (← conn k).setupDeadlineAbsUs

/-- `nghttp2_session_want_write`. -/
def sessionWantWrite (k : ConnId) : Proc Bool := do
  let wants ← onEnv <| Env.ask fun
    | .wantWrite wants => some wants
    | _ => none
  Exec.when (wants = false) (noteOutbound k false)
  return wants

end Proc

end GrpcLite
