import GrpcLite.Transport.Session

/-!
# Ownership of connections

The persistent cache, the owners of a connection and its destruction, and the
cancellation of a stream.
-/

namespace GrpcLite

namespace Proc

/-- `destroy_h2_connection`. -/
def destroyH2Connection (k : ConnId) : Proc Unit := do
  modify fun w => { w with destroys := w.destroys ++
      [⟨k, (w.conns k).streamOwnerCount, w.cache.any fun entry => entry.connection = k,
        (w.conns k).destroyed⟩] }
  setConn k fun conn => { conn with destroyed := conn.destroyed + 1 }

/-- `destroy_detached_connection_if_unowned`. -/
def destroyDetachedConnectionIfUnowned (k : ConnId) : Proc Unit := do
  let conn ← conn k
  if conn.detachedFromCache ∧ conn.streamOwnerCount = 0 then destroyH2Connection k

/-- `connection->detached_from_cache = true`. -/
def markDetached (k : ConnId) : Proc Unit :=
  setConn k fun conn => { conn with detachedFromCache := true }

/-- `detach_persistent_connection_by_ptr`. -/
def detachPersistentConnectionByPtr (k : ConnId) : Proc Unit := do
  let w ← get
  match w.cache.find? fun entry => entry.connection = k with
  | none => return
  | some entry =>
    modify fun w => { w with cache := w.cache.filter fun e => e.key ≠ entry.key }
    markDetached k

/-- The decrement that the two owner-clearing functions share. -/
def releaseOwner (k : ConnId) (c : CallId) (forget : Bool) : Proc Unit := do
  let owned := (← call c).connectionOwned
  Exec.when owned
    (setConn k fun conn => { conn with streamOwnerCount := conn.streamOwnerCount - 1 })
  input c (.ownerCleared forget)

/-- `clear_connection_call_owner`. -/
def clearConnectionCallOwner (k : ConnId) (c : CallId) : Proc Unit := do
  if (← call c).connection ≠ some k then return
  unregisterGrpcCallStream c
  releaseOwner k c false

/-- Detach the connection of a call unless it is usable. -/
def detachUnlessUsable (c : CallId) : Proc Unit := do
  match (← call c).connection with
  | none => return
  | some k => if !(← conn k).usable then detachPersistentConnectionByPtr k

/-- `clear_connection_server_streaming_call_state_owner`. -/
def clearConnectionServerStreamingCallStateOwner (c : CallId) : Proc Unit := do
  match (← call c).connection with
  | none => return
  | some k =>
    detachUnlessUsable c
    unregisterGrpcCallStream c
    releaseOwner k c true
    destroyDetachedConnectionIfUnowned k

/-- `nghttp2_submit_rst_stream` outside a callback. -/
def submitRstStream (k : ConnId) (streamId : Int) : Proc Int := do
  log k .submitRst
  let rv ← onEnv <| Env.ask fun
    | .submitRst rv => some rv
    | _ => none
  Exec.when (rv = 0) do
    noteOutbound k true
    setConn k fun conn => conn.mapStream streamId fun entry => { entry with reset := true }
  return rv

/-- `GRPC_LITE_CANCEL_RST_WRITE_GRACE_US`. -/
def cancelRstWriteGraceUs : Nat := 50000

/-- `cancel_grpc_call_stream`. The error code is always CANCEL and has no effect on the
client's own state. -/
def cancelGrpcCallStream (c : CallId) : Proc Unit := do
  let call ← call c
  match call.connection with
  | none => return
  | some k =>
    if !(← conn k).ioAllowed || decide (call.streamId ≤ 0) || call.streamClosed then return
    input c .locallyCancelled
    let rv ← submitRstStream k call.streamId
    if rv ≠ 0 then
      markConnectionDead k rv
      return
    let now ← monotonicUs
    if (← sendPendingH2FramesWithDeadline k none (now + cancelRstWriteGraceUs)) = 0 then
      setConn k fun conn =>
        { conn with lastErrorDetail := none, lastIoErrno := 0, lastSslError := 0 }

/-- `cancel_active_server_streaming_call_state`. -/
def cancelActiveServerStreamingCallState (c : CallId) : Proc Unit := do
  let tc ← tracked c
  if tc.completed || tc.call.connection.isNone then return
  cancelGrpcCallStream c

/-- The object of a call goes away. -/
def releaseCall (c : CallId) : Proc Unit := do
  modify fun w => { w with releases := w.releases ++ [⟨c, w.requestDetached c⟩] }
  setCall c fun tc => { tc with live := false }

/-- The stream of a state that goes away is still open. -/
def abandonsStream (w : World) (c : CallId) : Bool :=
  match (w.calls c).call.connection with
  | none => false
  | some k => !(w.calls c).completed && !(w.calls c).call.streamClosed && (w.conns k).ioAllowed &&
      decide ((w.calls c).call.streamId > 0)

/-- `destroy_server_streaming_call_state`. -/
def destroyServerStreamingCallState (c : CallId) : Proc Unit := do
  let w ← get
  Exec.when (abandonsStream w c) do
    cancelActiveServerStreamingCallState c
    detachUnlessUsable c
  clearConnectionServerStreamingCallStateOwner c
  releaseCall c

/-! ## The cache -/

/-- `zend_hash_str_find_ptr` on the cache. -/
def findEntry (key : Bytes) : Proc (Option CacheEntry) := do
  return (← get).cache.find? fun entry => entry.key = key

/-- The removal that `remove_unusable_persistent_connection` and
`discard_persistent_connection` share. -/
def evict (key : Bytes) (k : ConnId) : Proc Unit := do
  match ← findEntry key with
  | some entry =>
    if entry.connection ≠ k then
      markDetached k
      destroyDetachedConnectionIfUnowned k
    else
      modify fun w => { w with cache := w.cache.filter fun e => e.key ≠ key }
      if (← conn k).streamOwnerCount > 0 then markDetached k else destroyH2Connection k
  | none =>
    markDetached k
    destroyDetachedConnectionIfUnowned k

/-- `remove_unusable_persistent_connection`. -/
def removeUnusablePersistentConnection (key : Bytes) (k : ConnId) : Proc Unit := do
  if (← conn k).usable then return
  evict key k

/-- `discard_persistent_connection`. -/
def discardPersistentConnection (key : Bytes) (k : ConnId) : Proc Unit := evict key k

end Proc

end GrpcLite
