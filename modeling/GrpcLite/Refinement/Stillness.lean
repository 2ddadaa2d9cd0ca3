import GrpcLite.Correctness.Deadlines
import GrpcLite.Drivers.Wrapper

/-!
# What only the drivers do

Calls are created and requests submitted in one place each, a pull returns its message
in one place, and only its own driver releases a call. Everything else, whatever the
peer and the library answer, leaves the number of calls, the submissions, the
delivered messages and the other calls alone.
-/

namespace GrpcLite

/-- What the transport does not change of a call: how it started and what its pulls returned. -/
def TrackedCall.settled (tc : TrackedCall) : GrpcCall × Nat × List Bytes :=
  (tc.start, tc.deliveredMessages, tc.delivered)

/-- The payload that a pull returns. -/
def NextResult.payload : NextResult → Option Bytes
  | .message payload _ => some payload
  | .done _ _ _ _ => none

namespace World

/-- No call is created, no request submitted and no message delivered, and at most the calls of a
set are released. -/
structure Still (S : Set CallId) (w w' : World) : Prop where
  /-- No call is created. -/
  nextCall : w'.nextCall = w.nextCall
  /-- No request is submitted. -/
  submissions : w'.submissions = w.submissions
  /-- No message is delivered. -/
  settled : ∀ c, (w'.calls c).settled = (w.calls c).settled
  /-- Other calls stay alive. -/
  live : ∀ c ∉ S, (w'.calls c).live = (w.calls c).live

variable {S : Set CallId}

instance : Std.Refl (Still S) := ⟨fun _ => ⟨rfl, rfl, fun _ => rfl, fun _ _ => rfl⟩⟩

instance : IsTrans World (Still S) :=
  ⟨fun _ _ _ h h' => ⟨h'.nextCall.trans h.nextCall, h'.submissions.trans h.submissions,
    fun c => (h'.settled c).trans (h.settled c), fun c hc => (h'.live c hc).trans (h.live c hc)⟩⟩

/-- More calls may be released. -/
theorem Still.mono {T : Set CallId} {w w' : World} (h : w.Still S w') (hST : S ⊆ T) :
    w.Still T w' :=
  ⟨h.nextCall, h.submissions, h.settled, fun c hc => h.live c fun hS => hc (hST hS)⟩

/-- Nothing that counts is changed. -/
theorem Still.of_same {w w' : World} (hnext : w'.nextCall = w.nextCall)
    (hlog : w'.ioLog = w.ioLog) (hcalls : w'.calls = w.calls) : w.Still S w' :=
  ⟨hnext, congrArg (List.filter fun r : IoRecord => decide (r.kind = .submitRequest)) hlog,
    fun _ => by rw [hcalls], fun _ _ => by rw [hcalls]⟩

/-- A change of one call that keeps what is settled, and its life unless it may be released. -/
theorem Still.setCall (w : World) (c : CallId) {f : TrackedCall → TrackedCall}
    (hf : ∀ tc, (f tc).settled = tc.settled) (hlive : c ∈ S ∨ ∀ tc, (f tc).live = tc.live) :
    w.Still S (w.setCall c f) := by
  have hcalls : (w.setCall c f).calls = Function.update w.calls c (f (w.calls c)) := rfl
  refine ⟨rfl, rfl, fun c' => ?_, fun c' hc' => ?_⟩
  · rw [hcalls, Function.update_apply]
    split
    · next hc => rw [hc, hf]
    · rfl
  · rw [hcalls, Function.update_apply]
    split
    · next hc =>
      rw [hc]
      exact hlive.resolve_left (fun hS => hc' (hc ▸ hS)) (w.calls c)
    · rfl

/-- A record in the log that is no submission. -/
theorem Still.log (w : World) (k : ConnId) {kind : IoKind} (hkind : kind ≠ .submitRequest) :
    w.Still S (w.log k kind) := by
  refine ⟨rfl, ?_, fun _ => rfl, fun _ _ => rfl⟩
  simp only [World.submissions, World.log, List.filter_append]
  rw [List.filter_cons_of_neg (by simpa using hkind), List.filter_nil, List.append_nil]

end World

namespace Proc

open World

variable {S : Set CallId}

/-! ## Primitives -/

/-- A record in the log that is no submission. -/
theorem log_still (k : ConnId) {kind : IoKind} (hkind : kind ≠ .submitRequest) :
    Exec.Within (Still S) (log k kind) := .modify fun w => .log w k hkind

/-- What the environment answers. -/
theorem onEnv_still {α : Type} (m : Exec Env α) : Exec.Within (Still S) (onEnv m) := by
  intro w a w' h
  obtain ⟨env, -, rfl⟩ := Exec.zoom_some.mp h
  exact .of_same rfl rfl rfl

/-- What a connection writes or reads. -/
theorem onPort_still {α : Type} (k : ConnId) (m : Exec Port α) : Exec.Within (Still S) (onPort k m) := by
  intro w a w' h
  obtain ⟨port, -, rfl⟩ := Exec.zoom_some.mp h
  exact .of_same rfl rfl rfl

/-- A change of a connection. -/
theorem setConn_still (k : ConnId) (f : H2Connection → H2Connection) :
    Exec.Within (Still S) (setConn k f) := .modify fun _ => .of_same rfl rfl rfl

/-- A change of one call that keeps what is settled, and its life unless it may be released. -/
theorem setCall_still (c : CallId) {f : TrackedCall → TrackedCall}
    (hf : ∀ tc, (f tc).settled = tc.settled) (hlive : c ∈ S ∨ ∀ tc, (f tc).live = tc.live) :
    Exec.Within (Still S) (setCall c f) := .modify fun w => .setCall w c hf hlive

/-- An input leaves the start of a call and what its pulls returned. -/
theorem input_still (c : CallId) (i : CallInput) : Exec.Within (Still S) (input c i) :=
  .modify fun w => .setCall w c (fun _ => rfl) (.inr fun _ => rfl)

/-- Looking up a connection. -/
theorem conn_still (k : ConnId) : Exec.Within (Still S) (conn k) := .bind .get fun _ => .pure _

/-- Looking up a call. -/
theorem call_still (c : CallId) : Exec.Within (Still S) (call c) := .bind .get fun _ => .pure _

/-- Looking up a call with its ghosts. -/
theorem tracked_still (c : CallId) : Exec.Within (Still S) (tracked c) := .bind .get fun _ => .pure _

/-- A driver notes the expiry of its deadline. -/
theorem markTimedOut_still (c : CallId) : Exec.Within (Still S) (markTimedOut c) :=
  .bind .get fun _ => input_still c _

/-- A driver notes that the connection broke. -/
theorem noteConnectionBroken_still (c : CallId) : Exec.Within (Still S) (noteConnectionBroken c) := by
  refine .bind (call_still c) fun call => ?_
  cases call.connection with
  | none => exact input_still c _
  | some k => exact .bind (conn_still k) fun _ => input_still c _

/-! ## The session -/

/-- The library forgets a stream. -/
theorem clearUserData_still (k : ConnId) (streamId : Int) :
    Exec.Within (Still S) (clearUserData k streamId) :=
  .bind (log_still k (by decide)) fun _ => setConn_still k _

/-- A stream is registered on its connection. -/
theorem registerGrpcCallStream_still (k : ConnId) (c : CallId) :
    Exec.Within (Still S) (registerGrpcCallStream k c) :=
  .bind (call_still c) fun _ => .ite (.pure _) <| .bind (log_still k (by decide)) fun _ =>
    .bind (onEnv_still _) fun _ => .ite (.pure _) <| .bind (setConn_still k _) fun _ =>
    .bind (input_still c _) fun _ => .bind (setConn_still k _) fun _ => .pure _

/-- A registration that failed. -/
theorem markGrpcCallStreamRegistrationFailed_still (k : ConnId) (c : CallId) :
    Exec.Within (Still S) (markGrpcCallStreamRegistrationFailed k c) :=
  .bind (call_still c) fun _ => .bind (.when fun _ => clearUserData_still k _) fun _ =>
    .bind (setConn_still k _) fun _ => setConn_still k _

/-- A call leaves the list of its connection. -/
theorem unregisterGrpcCallStream_still (c : CallId) :
    Exec.Within (Still S) (unregisterGrpcCallStream c) := by
  refine .bind (call_still c) fun call => ?_
  cases call.connection with
  | none => exact .pure _
  | some k =>
    exact .ite (.pure _) <| .bind (conn_still k) fun _ =>
      .bind (.when fun _ => clearUserData_still k _) fun _ => .bind (setConn_still k _) fun _ =>
      input_still c _

/-- Resets that a callback asks for. -/
theorem noteRsts_still (k : ConnId) (streamId : Int) (rsts : List (Nat × Int)) :
    Exec.Within (Still S) (noteRsts k streamId rsts) := by
  induction rsts with
  | nil => exact .pure _
  | cons rst rsts ih =>
    refine .bind (.bind (log_still k (by decide)) fun _ => .bind (.modify fun _ => ?_) fun _ => ?_)
      fun _ => ih
    · exact .of_same rfl rfl rfl
    · exact .ite (setConn_still k _) (.ite (setConn_still k _) (.pure _))

/-- A callback of a stream queues messages and delivers none. -/
theorem onStreamEvent_still (k : ConnId) (streamId : Int) (event : StreamEvent) :
    Exec.Within (Still S) (onStreamEvent k streamId event) := by
  refine .bind (setConn_still k _) fun _ => .bind (.bind .get fun w => ?_) fun _ =>
    .bind (.when fun _ => setConn_still k _) fun _ => .pure _
  cases (w.conns k).userData streamId with
  | none => exact .pure _
  | some c =>
    exact .ite (.pure _) <| .bind .get fun _ => .bind (input_still c _) fun _ =>
      .bind (noteRsts_still k streamId _) fun _ =>
      .bind (.when fun _ => unregisterGrpcCallStream_still c) fun _ => .pure _

/-- A GOAWAY refuses calls and releases none. -/
theorem refuseStreams_still (k : ConnId) (lastStreamId : Int) (calls : List CallId) :
    Exec.Within (Still S) (refuseStreams k lastStreamId calls) := by
  induction calls with
  | nil => exact .pure _
  | cons c rest ih =>
    exact .bind (call_still c) fun _ => .bind (.when fun _ => .bind (input_still c _) fun _ =>
      unregisterGrpcCallStream_still c) fun _ => ih

/-- The callbacks of one read. -/
theorem onSessionEvents_still (k : ConnId) (rv : Int) (events : List SessionEvent) :
    Exec.Within (Still S) (onSessionEvents k rv events) := by
  induction events with
  | nil => exact .pure _
  | cons event events ih =>
    refine .bind ?_ fun _ => .ite (.pure _) ih
    cases event with
    | stream streamId event => exact onStreamEvent_still k streamId event
    | goaway lastStreamId errorCode =>
      exact .bind (.bind (conn_still k) fun _ => .bind (setConn_still k _) fun _ =>
        .bind (.when fun _ => refuseStreams_still k lastStreamId _) fun _ => setConn_still k _)
        fun _ => .pure _

/-- Feeding the library delivers nothing to a user. -/
theorem sessionMemRecv_still (k : ConnId) : Exec.Within (Still S) (sessionMemRecv k) :=
  .bind (log_still k (by decide)) fun _ => .bind (onEnv_still _) fun _ =>
    .bind (setConn_still k _) fun _ => onSessionEvents_still k _ _

/-- A frame is sent. -/
theorem sendFrame_still (k : ConnId) (bytes : Bytes) : Exec.Within (Still S) (sendFrame k bytes) :=
  .bind (log_still k (by decide)) fun _ => onPort_still k _

/-- The payload of a DATA frame is sent. -/
theorem sendDataLoop_still (k : ConnId) (c : CallId) (fuel length : Nat) :
    Exec.Within (Still S) (sendDataLoop k c fuel length) := by
  induction fuel generalizing length with
  | zero => cases length <;> exact .pure _
  | succ fuel ih =>
    cases length with
    | zero => exact .pure _
    | succ length =>
      refine .bind (call_still c) fun call => ?_
      cases call.requestChunk (length + 1) with
      | none => exact .pure _
      | some chunk =>
        exact .bind (sendFrame_still k chunk) fun _ => .ite (.pure _) <|
          .bind (input_still c _) fun _ => ih _

/-- The callbacks of a send. -/
theorem onSendOps_still (k : ConnId) (rv : Int) (ops : List SendOp) :
    Exec.Within (Still S) (onSendOps k rv ops) := by
  induction ops with
  | nil => exact .pure _
  | cons op ops ih =>
    refine .bind ?_ fun _ => .ite (.pure _) ih
    cases op with
    | frame bytes => exact sendFrame_still k bytes
    | data streamId limit framehd padlen =>
      refine .bind .get fun w => ?_
      cases (w.conns k).requestSource streamId with
      | none => exact .pure _
      | some c =>
        refine .bind (.modify fun _ => .of_same rfl rfl rfl) fun _ => .ite ?_ ?_
        · exact .bind (setConn_still k _) fun _ => .pure _
        · exact .bind (sendFrame_still k framehd) fun _ => .ite (.pure _)
            (sendDataLoop_still k c _ _)
    | close streamId errorCode => exact .bind (onStreamEvent_still k streamId _) fun _ => .pure _

/-- A send with the flush behind it. -/
theorem sendAndFlush_still (k : ConnId) : Exec.Within (Still S) (sendAndFlush k) := by
  refine .bind (.bind (log_still k (by decide)) fun _ => .bind (conn_still k) fun _ =>
    .bind (onEnv_still _) fun _ => .bind (onSendOps_still k _ _) fun _ =>
    .bind (.when fun _ => setConn_still k _) fun _ => .pure _) fun _ => .ite ?_ (.pure _)
  exact .bind (log_still k (by decide)) fun _ => .bind (conn_still k) fun _ =>
    .bind (onPort_still k _) fun _ => .ite (.pure _) (.pure _)

/-- A send under a deadline. -/
theorem sendPendingH2FramesWithDeadline_still (k : ConnId) (oc : Option CallId) (fallback : Nat) :
    Exec.Within (Still S) (sendPendingH2FramesWithDeadline k oc fallback) := by
  refine .bind .get fun w => .ite (.pure _) <| .bind (setConn_still k _) fun _ =>
    .bind (sendAndFlush_still k) fun _ => .bind (.when fun _ => .bind (setConn_still k _) fun _ => ?_)
    fun _ => .bind (setConn_still k _) fun _ => .pure _
  cases oc with
  | none => exact .pure _
  | some c =>
    exact .bind (conn_still k) fun _ => .bind (.when fun _ => markTimedOut_still c) fun _ =>
      input_still c _

/-- A send under the deadline of its owner. -/
theorem sendPendingH2Frames_still (k : ConnId) (oc : Option CallId) :
    Exec.Within (Still S) (sendPendingH2Frames k oc) :=
  .bind (conn_still k) fun _ => sendPendingH2FramesWithDeadline_still k oc _

/-- The library is asked whether it wants to write. -/
theorem sessionWantWrite_still (k : ConnId) : Exec.Within (Still S) (sessionWantWrite k) :=
  .bind (onEnv_still _) fun _ => .bind (.when fun _ => setConn_still k _) fun _ => .pure _

/-! ## Owners and the cache -/

/-- A connection is destroyed. -/
theorem destroyH2Connection_still (k : ConnId) : Exec.Within (Still S) (destroyH2Connection k) :=
  .bind (.modify fun _ => .of_same rfl rfl rfl) fun _ => setConn_still k _

/-- A detached connection without owners is destroyed. -/
theorem destroyDetachedConnectionIfUnowned_still (k : ConnId) :
    Exec.Within (Still S) (destroyDetachedConnectionIfUnowned k) :=
  .bind (conn_still k) fun _ => .ite (destroyH2Connection_still k) (.pure _)

/-- Every entry with the connection leaves the cache. -/
theorem detachPersistentConnectionByPtr_still (k : ConnId) :
    Exec.Within (Still S) (detachPersistentConnectionByPtr k) := by
  refine .bind .get fun w => ?_
  cases w.cache.find? fun entry => entry.connection = k with
  | none => exact .pure _
  | some entry => exact .bind (.modify fun _ => .of_same rfl rfl rfl) fun _ => setConn_still k _

/-- The owner of a connection lets go of it. -/
theorem releaseOwner_still (k : ConnId) (c : CallId) (forget : Bool) :
    Exec.Within (Still S) (releaseOwner k c forget) :=
  .bind (call_still c) fun _ => .bind (.when fun _ => setConn_still k _) fun _ => input_still c _

/-- The connection of a call loses that owner. -/
theorem clearConnectionCallOwner_still (k : ConnId) (c : CallId) :
    Exec.Within (Still S) (clearConnectionCallOwner k c) :=
  .bind (call_still c) fun _ => .ite (.pure _) <| .bind (unregisterGrpcCallStream_still c) fun _ =>
    releaseOwner_still k c false

/-- A connection that cannot be used leaves the cache. -/
theorem detachUnlessUsable_still (c : CallId) : Exec.Within (Still S) (detachUnlessUsable c) := by
  refine .bind (call_still c) fun call => ?_
  cases call.connection with
  | none => exact .pure _
  | some k =>
    exact .bind (conn_still k) fun _ => .ite (detachPersistentConnectionByPtr_still k) (.pure _)

/-- The connection of a server stream loses that owner. -/
theorem clearConnectionServerStreamingCallStateOwner_still (c : CallId) :
    Exec.Within (Still S) (clearConnectionServerStreamingCallStateOwner c) := by
  refine .bind (call_still c) fun call => ?_
  cases call.connection with
  | none => exact .pure _
  | some k =>
    exact .bind (detachUnlessUsable_still c) fun _ => .bind (unregisterGrpcCallStream_still c)
      fun _ => .bind (releaseOwner_still k c true) fun _ =>
      destroyDetachedConnectionIfUnowned_still k

/-- A stream is reset with CANCEL. -/
theorem cancelGrpcCallStream_still (c : CallId) : Exec.Within (Still S) (cancelGrpcCallStream c) := by
  refine .bind (call_still c) fun call => ?_
  cases call.connection with
  | none => exact .pure _
  | some k =>
    refine .bind (conn_still k) fun _ => .ite (.pure _) <| .bind (input_still c _) fun _ =>
      .bind ?_ fun _ => .ite (.bind (setConn_still k _) fun _ => .pure _) <|
      .bind (onEnv_still _) fun _ => .bind (sendPendingH2FramesWithDeadline_still k none _)
      fun _ => .ite (setConn_still k _) (.pure _)
    exact .bind (log_still k (by decide)) fun _ => .bind (onEnv_still _) fun _ =>
      .bind (.when fun _ => .bind (setConn_still k _) fun _ => setConn_still k _) fun _ => .pure _

/-- An active server stream is cancelled. -/
theorem cancelActiveServerStreamingCallState_still (c : CallId) :
    Exec.Within (Still S) (cancelActiveServerStreamingCallState c) :=
  .bind (tracked_still c) fun _ => .ite (.pure _) (cancelGrpcCallStream_still c)

/-- A call that may be released is released. -/
theorem releaseCall_still {c : CallId} (hc : c ∈ S) : Exec.Within (Still S) (releaseCall c) :=
  .bind (.modify fun _ => .of_same rfl rfl rfl) fun _ => setCall_still c (fun _ => rfl) (.inl hc)

/-- A server stream that may be released is destroyed. -/
theorem destroyServerStreamingCallState_still {c : CallId} (hc : c ∈ S) :
    Exec.Within (Still S) (destroyServerStreamingCallState c) :=
  .bind .get fun _ => .bind (.when fun _ => .bind (cancelActiveServerStreamingCallState_still c)
    fun _ => detachUnlessUsable_still c) fun _ =>
    .bind (clearConnectionServerStreamingCallStateOwner_still c) fun _ => releaseCall_still hc

/-- A connection leaves the cache. -/
theorem evict_still (key : Bytes) (k : ConnId) : Exec.Within (Still S) (evict key k) := by
  refine .bind (.bind .get fun _ => .pure _) fun entry => ?_
  have hdetach : Exec.Within (Still S) (do
      markDetached k
      destroyDetachedConnectionIfUnowned k) :=
    .bind (setConn_still k _) fun _ => destroyDetachedConnectionIfUnowned_still k
  cases entry with
  | none => exact hdetach
  | some entry =>
    refine .ite hdetach <| .bind (.modify fun _ => .of_same rfl rfl rfl) fun _ =>
      .bind (conn_still k) fun _ => .ite (setConn_still k _) (destroyH2Connection_still k)

/-- A cached connection that cannot be used leaves the cache. -/
theorem removeUnusablePersistentConnection_still (key : Bytes) (k : ConnId) :
    Exec.Within (Still S) (removeUnusablePersistentConnection key k) :=
  .bind (conn_still k) fun _ => .ite (.pure _) (evict_still key k)

/-! ## Connections -/

/-- The read of the preflight. -/
theorem preflightRead_still (k : ConnId) (length : Nat) (draining : Bool)
    (tlsFailed : Nat → ErrorDetail) :
    Exec.Within (Still S) (preflightRead k length draining tlsFailed) := by
  refine .bind (log_still k (by decide)) fun _ => .bind (conn_still k) fun _ => .ite ?_ ?_
  · refine .bind (onEnv_still _) fun _ => .bind (onEnv_still _) fun _ => .ite (.pure _) <|
      .bind (.when fun _ => setConn_still k _) fun _ => .ite (.pure _) <| .bind ?_ fun _ => .pure _
    exact .ite (.bind (setConn_still k _) fun _ => setConn_still k _)
      (.bind (setConn_still k _) fun _ => setConn_still k _)
  · exact .bind (onEnv_still _) fun _ => .ite (.pure _) <| .ite (.bind (setConn_still k _) fun _ =>
      .bind (setConn_still k _) fun _ => .pure _) <| .bind (onEnv_still _) fun _ =>
      .ite (.pure _) <| .bind (setConn_still k _) fun _ => .pure _

/-- The flush of the preflight drain. -/
theorem drainFlush_still (k : ConnId) (deadline : Nat) :
    Exec.Within (Still S) (drainFlush k deadline) :=
  .bind (sessionWantWrite_still k) fun _ => .ite (.pure _) <|
    .bind (sendPendingH2FramesWithDeadline_still k none deadline) fun _ => .ite (.pure _) <|
    .bind (setConn_still k _) fun _ => .bind (setConn_still k _) fun _ => .pure _

/-- The loop of the preflight drain feeds the library and delivers nothing. -/
theorem drainLoop_still (k : ConnId) (deadline maxBytes iterations totalRead : Nat) :
    Exec.Within (Still S) (drainLoop k deadline maxBytes iterations totalRead) := by
  have hlimit : Exec.Within (Still S) (do
      setErrorDetail k .preflightDrainLimit
      setConn k (·.markDraining 0 Nghttp2.noError)
      return false) :=
    .bind (setConn_still k _) fun _ => .bind (setConn_still k _) fun _ => .pure _
  induction iterations generalizing totalRead with
  | zero => exact hlimit
  | succ iterations ih =>
    refine .ite hlimit <| .bind (preflightRead_still k _ true _) fun nread => ?_
    cases nread with
    | none => exact .bind (conn_still k) fun _ => .pure _
    | some nread =>
      refine .ite (.pure _) <| .bind (sessionMemRecv_still k) fun _ => .ite ?_ ?_
      · exact .bind (setConn_still k _) fun _ => .bind (setConn_still k _) fun _ => .pure _
      · exact .bind (conn_still k) fun _ => .ite (.pure _) <| .bind (drainFlush_still k deadline)
          fun _ => .ite (.pure _) (ih _)

/-- The preflight of a cached connection. -/
theorem preflightPersistentConnection_still (k : ConnId) (deadline : Nat) :
    Exec.Within (Still S) (preflightPersistentConnection k deadline) := by
  refine .bind (conn_still k) fun _ => .ite (.pure _) <| .ite (.pure _) <|
    .bind (preflightRead_still k 1 false _) fun nread => ?_
  cases nread with
  | none => exact .pure _
  | some nread =>
    exact .ite (.pure _) <| .bind (conn_still k) fun _ => .ite (.pure _) <| .bind .get fun _ =>
      drainLoop_still k deadline _ _ _

/-- A new connection has no calls. -/
theorem createH2Connection_still (deadline : Nat) (ssl : Bool) :
    Exec.Within (Still S) (createH2Connection deadline ssl) := by
  refine .bind (onEnv_still _) fun _ => .ite (.bind .get fun _ => .pure _) <|
    .bind (onEnv_still _) fun _ => .ite (.pure _) fun w a w' h => ?_
  rw [Exec.get_bind_run] at h
  obtain ⟨_, w₁, hset, h⟩ := Exec.bind_some.mp h
  have hnew : w.Still S w₁ := by
    rw [Exec.set_some.mp hset]
    exact .of_same rfl rfl rfl
  refine trans_of (Still S) hnew ?_
  have hrest : Exec.Within (Still S) (do
      let rv ← sendPendingH2Frames w.nextConn none
      if rv ≠ 0 then
        let timedOut := (← conn w.nextConn).setupTimedOut
        destroyH2Connection w.nextConn
        return Except.error (if timedOut then SetupError.deadlineExceeded else .sendFailed)
      setConn w.nextConn fun conn => { conn with setupDeadlineAbsUs := 0 }
      return .ok w.nextConn) :=
    .bind (sendPendingH2Frames_still _ none) fun _ => .ite (.bind (conn_still _) fun _ =>
      .bind (destroyH2Connection_still _) fun _ => .pure _) <|
      .bind (setConn_still _ _) fun _ => .pure _
  exact hrest _ _ _ h

/-- The lookup that both drivers start with. -/
theorem getPersistentConnection_still (key : Bytes) (deadline : Nat) (ssl : Bool) :
    Exec.Within (Still S) (getPersistentConnection key deadline ssl) := by
  have hadopt : Exec.Within (Still S) (adoptPersistentConnection key deadline) := by
    refine .bind (.bind .get fun _ => .pure _) fun entry => ?_
    cases entry with
    | none => exact .pure _
    | some entry =>
      refine .bind (conn_still _) fun _ => .ite ?_ <| .bind (preflightPersistentConnection_still _ _)
        fun _ => .ite ?_ <| .ite ?_ (.pure _)
      · exact .bind (removeUnusablePersistentConnection_still key _) fun _ => .pure _
      · exact .bind (removeUnusablePersistentConnection_still key _) fun _ => .pure _
      · exact .bind (evict_still key _) fun _ => .pure _
  refine .bind hadopt fun adopted => ?_
  cases adopted with
  | some k => exact .pure _
  | none =>
    refine .bind .get fun _ => .ite (.pure _) <| .bind (createH2Connection_still deadline ssl)
      fun created => ?_
    cases created with
    | error e => exact .pure _
    | ok k => exact .bind (.modify fun _ => .of_same rfl rfl rfl) fun _ => .pure _

/-! ## Pulls -/

/-- A failed read is noted. -/
theorem noteReadFailure_still (k : ConnId) (c : CallId) (nread : Int) :
    Exec.Within (Still S) (noteReadFailure k c nread) :=
  .bind .get fun _ => .bind (conn_still k) fun _ => .bind (.when fun _ => input_still c _) fun _ =>
    .bind (call_still c) fun _ => .pure _

/-- The bytes of a read are fed to the library. -/
theorem feedSession_still (k : ConnId) (c : CallId) : Exec.Within (Still S) (feedSession k c) :=
  .bind (setConn_still k _) fun _ => .bind (sessionMemRecv_still k) fun _ =>
    .bind (setConn_still k _) fun _ => .pure _

/-- The flush behind a read. -/
theorem flushAfterRead_still (k : ConnId) (c : CallId) : Exec.Within (Still S) (flushAfterRead k c) :=
  .bind (sessionWantWrite_still k) fun _ => .ite (sendPendingH2Frames_still k _) (.pure _)

/-- The detail of a connection is read. -/
theorem connectionDetail_still (c : CallId) : Exec.Within (Still S) (connectionDetail c) := by
  refine .bind (call_still c) fun call => ?_
  cases call.connection with
  | none => exact .pure _
  | some k => exact .bind (conn_still k) fun _ => .pure _

/-- A stream is terminated with CANCEL. -/
theorem terminateWithCancel_still (c : CallId) : Exec.Within (Still S) (terminateWithCancel c) :=
  .bind (input_still c _) fun _ => .bind (cancelGrpcCallStream_still c) fun _ =>
    .bind (detachUnlessUsable_still c) fun _ => setCall_still c (fun _ => rfl) (.inr fun _ => rfl)

/-- A connection dies under a server stream. -/
theorem breakStream_still (k : ConnId) (c : CallId) (errorCode : Int) :
    Exec.Within (Still S) (breakStream k c errorCode) :=
  .bind (setConn_still k _) fun _ => .bind (noteConnectionBroken_still c) fun _ =>
    .bind (setCall_still c (fun _ => rfl) (.inr fun _ => rfl)) fun _ => .pure _

/-- The deadline of a server stream passes. -/
theorem expireStream_still (c : CallId) : Exec.Within (Still S) (expireStream c) :=
  .bind (markTimedOut_still c) fun _ => .bind (cancelActiveServerStreamingCallState_still c)
    fun _ => .bind (setCall_still c (fun _ => rfl) (.inr fun _ => rfl)) fun _ => .pure _

/-- A server stream without a connection to read from. -/
theorem breakUnread_still (c : CallId) : Exec.Within (Still S) (breakUnread c) :=
  .bind (noteConnectionBroken_still c) fun _ => setCall_still c (fun _ => rfl) (.inr fun _ => rfl)

/-- A round of a pull reads for all streams and returns nothing. -/
theorem pullRound_still (k : ConnId) (c : CallId) : Exec.Within (Still S) (pullRound k c) := by
  refine .bind (conn_still k) fun _ => .ite (.bind (breakUnread_still c) fun _ => .pure _) <|
    .bind (call_still c) fun _ => .bind ?_ fun _ => .ite (expireStream_still c) <|
    .bind (sendPendingH2Frames_still k _) fun _ => .ite (breakStream_still k c _) <|
    .bind (log_still k (by decide)) fun _ => .bind (onPort_still k _) fun _ => .ite ?_ ?_
  · exact .ite (.bind (onEnv_still _) fun _ => .pure _) (.pure _)
  · exact .bind (noteReadFailure_still k c _) fun _ => .ite (expireStream_still c) <|
      .bind .get fun _ => breakStream_still k c _
  · exact .bind (feedSession_still k c) fun _ => .ite (.bind (setConn_still k _) fun _ =>
      .bind (setCall_still c (fun _ => rfl) (.inr fun _ => rfl)) fun _ => .pure _) <|
      .bind (flushAfterRead_still k c) fun _ => .ite (breakStream_still k c _) (.pure _)

/-- So does the loop of a pull. -/
theorem pullLoop_still (c : CallId) (fuel : Nat) : Exec.Within (Still S) (pullLoop c fuel) := by
  induction fuel with
  | zero => exact .block
  | succ fuel ih =>
    refine .bind (tracked_still c) fun tc => .ite (.pure _) ?_
    cases tc.call.connection with
    | none => exact breakUnread_still c
    | some k => exact .bind (pullRound_still k c) fun _ => .ite ih (.pure _)

/-- The end of a server stream is noted. -/
theorem finishStream_still (c : CallId) : Exec.Within (Still S) (finishStream c) :=
  .bind (call_still c) fun _ => .bind (.when fun _ => input_still c _) fun _ =>
    .bind (setCall_still c (fun _ => rfl) (.inr fun _ => rfl)) fun _ => .bind (tracked_still c) fun _ =>
    .bind (connectionDetail_still c) fun _ =>
    .bind (clearConnectionServerStreamingCallStateOwner_still c) fun _ => .pure _

/-- A stream ends with an empty queue. -/
theorem finishStream_done {c : CallId} {r : NextResult} {w w' : World}
    (h : finishStream c w = some (r, w')) :
    ∃ status initialMetadata trailingMetadata outcome,
      r = .done status initialMetadata trailingMetadata outcome := by
  obtain ⟨_, w₁, -, h⟩ := Exec.bind_some.mp h
  obtain ⟨_, w₂, -, h⟩ := Exec.bind_some.mp h
  obtain ⟨_, w₃, -, h⟩ := Exec.bind_some.mp h
  obtain ⟨_, w₄, -, h⟩ := Exec.bind_some.mp h
  obtain ⟨_, w₅, -, h⟩ := Exec.bind_some.mp h
  obtain ⟨_, w₆, -, h⟩ := Exec.bind_some.mp h
  obtain ⟨rfl, -⟩ := Exec.pure_some.mp h
  exact ⟨_, _, _, _, rfl⟩

/-- A pull delivers what it returns. -/
structure Delivers (c : CallId) (returned : Option Bytes) (w w' : World) : Prop where
  /-- No call is created. -/
  nextCall : w'.nextCall = w.nextCall
  /-- No request is submitted. -/
  submissions : w'.submissions = w.submissions
  /-- The returned message is the last one delivered. -/
  pulled : (w'.calls c).settled = ((w.calls c).start,
    (w.calls c).deliveredMessages + returned.toList.length,
    (w.calls c).delivered ++ returned.toList)
  /-- Other calls deliver nothing. -/
  others : ∀ c', c' ≠ c → (w'.calls c').settled = (w.calls c').settled
  /-- All calls stay alive. -/
  live : ∀ c', (w'.calls c').live = (w.calls c').live

/-- What is still returns no message of any stream. -/
theorem Delivers.of_still {c : CallId} {w w' : World} (h : w.Still ∅ w') : Delivers c none w w' :=
  ⟨h.nextCall, h.submissions, by simpa [TrackedCall.settled] using h.settled c,
    fun c' _ => h.settled c', fun c' => h.live c' (Set.notMem_empty c')⟩

/-- What is still in front of a pull does not count. -/
theorem Delivers.after {c : CallId} {returned : Option Bytes} {w w₁ w' : World}
    (hstill : w.Still ∅ w₁) (h : Delivers c returned w₁ w') : Delivers c returned w w' := by
  have hsame := hstill.settled c
  simp only [TrackedCall.settled, Prod.mk.injEq] at hsame
  refine ⟨h.nextCall.trans hstill.nextCall, h.submissions.trans hstill.submissions, ?_,
    fun c' hc => (h.others c' hc).trans (hstill.settled c'),
    fun c' => (h.live c').trans (hstill.live c' (Set.notMem_empty c'))⟩
  rw [h.pulled, hsame.1, hsame.2.1, hsame.2.2]

/-- A pull appends the payload that it returns to what its stream has delivered, and no other stream
delivers. -/
theorem serverStreamingCallNextResource_delivers {c : CallId} {r : NextResult} {w w' : World}
    (h : serverStreamingCallNextResource c w = some (r, w')) : Delivers c r.payload w w' := by
  rw [serverStreamingCallNextResource, Exec.get_bind_run] at h
  obtain ⟨_, w₁, hloop, h⟩ := Exec.bind_some.mp h
  obtain ⟨_, w₂, hread, h⟩ := Exec.bind_some.mp h
  obtain ⟨_, w₃, hwhen, h⟩ := Exec.bind_some.mp h
  obtain ⟨call, w₄, hcall, h⟩ := Exec.bind_some.mp h
  have hstill : w.Still ∅ w₃ := by
    refine trans_of (Still _) (pullLoop_still c _ _ _ _ hloop) (trans_of (Still _)
      (call_still c _ _ _ hread) ?_)
    refine Exec.Within.when (fun _ => ?_) _ _ _ hwhen
    exact .bind (terminateWithCancel_still c) fun _ => detachUnlessUsable_still c
  rw [Proc.call, Exec.get_bind_run] at hcall
  obtain ⟨rfl, rfl⟩ := Exec.pure_some.mp hcall
  refine .after hstill ?_
  cases hqueue : (w₃.calls c).call.responseQueue with
  | nil =>
    simp only [hqueue] at h
    obtain ⟨status, initialMetadata, trailingMetadata, outcome, rfl⟩ := finishStream_done h
    exact .of_still (finishStream_still c _ _ _ h)
  | cons payload rest =>
    simp only [hqueue] at h
    obtain ⟨_, w₄, hin, h⟩ := Exec.bind_some.mp h
    obtain ⟨_, w₅, hset, h⟩ := Exec.bind_some.mp h
    obtain ⟨tc, w₆, hread, h⟩ := Exec.bind_some.mp h
    rw [Proc.tracked, Exec.get_bind_run] at hread
    obtain ⟨rfl, rfl⟩ := Exec.pure_some.mp hread
    obtain ⟨rfl, rfl⟩ := Exec.pure_some.mp h
    refine .after (input_still c _ _ _ _ hin) ?_
    obtain rfl := Exec.modify_some.mp hset
    refine ⟨rfl, rfl, ?_, fun c' hc => congrArg TrackedCall.settled (Function.update_of_ne hc ..),
      fun c' => ?_⟩
    · exact (congrArg TrackedCall.settled (Function.update_self ..)).trans rfl
    · change (Function.update w₄.calls c _ c').live = _
      rw [Function.update_apply]
      split
      · next hc => rw [hc]
      · rfl

end Proc

end GrpcLite
