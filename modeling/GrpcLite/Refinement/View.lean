import GrpcLite.Correctness.EventFrame
import GrpcLite.Protocol.Driving

/-!
# The ledger of the transport state

The transport state seen as a ledger, and what the basic changes of the state do
to it. Most inputs of a call and most changes of a connection are invisible.
-/

namespace GrpcLite

/-- What the ledger keeps of a connection. -/
def H2Connection.view (conn : H2Connection) : ConnView where
  dead := conn.dead
  draining := conn.draining
  detached := conn.detachedFromCache
  activeCount := conn.activeStreamCount
  ownerCount := conn.streamOwnerCount
  active := conn.activeStreams
  streams := conn.streams
  destroyed := conn.destroyed

/-- The input gives up the connection. -/
def CallInput.isOwnerCleared : CallInput → Bool
  | .ownerCleared _ => true
  | _ => false

/-- The body bytes that an input brings. -/
def CallInput.bytes : CallInput → Bytes
  | .event _ _ e => e.bytes
  | _ => []

/-- The body bytes that a call has been given. -/
def TrackedCall.bytes (tc : TrackedCall) : Bytes := tc.inputs.flatMap CallInput.bytes

/-- What the ledger keeps of a call. -/
def TrackedCall.view (tc : TrackedCall) : CallView where
  live := tc.live
  connection := tc.call.connection
  streamId := tc.call.streamId
  registered := tc.call.streamRegistered
  owned := tc.call.connectionOwned
  cleared := tc.inputs.any CallInput.isOwnerCleared
  closed := tc.call.streamClosed
  bytes := tc.bytes

/-- The ledger of a state. -/
def World.ledger (w : World) : Ledger where
  conns k := (w.conns k).view
  calls c := (w.calls c).view
  nextConn := w.nextConn
  nextCall := w.nextCall
  cache := w.cache
  ioLog := w.ioLog
  sourceReads := w.sourceReads
  destroys := w.destroys
  releases := w.releases

/-! ## Inputs -/

/-- Inputs that the ledger does not see. -/
def CallInput.quiet : CallInput → Bool
  | .event _ _ e => !e.isClose && e.bytes.isEmpty
  | .timedOut _ | .ioError _ _ _ | .connectionBroken _ _ | .locallyCancelled | .userCancelled
  | .freeQueue | .dequeue | .take | .truncated | .requestSent _ => true
  | .refused | .submitted _ | .registered _ | .unregistered | .ownerCleared _ => false

namespace TrackedCall

theorem bytes_input (tc : TrackedCall) (i : CallInput) :
    (tc.input i).bytes = tc.bytes ++ i.bytes := by
  simp only [bytes, input, List.flatMap_append, List.flatMap_singleton]

theorem cleared_input (tc : TrackedCall) (i : CallInput) :
    (tc.input i).inputs.any CallInput.isOwnerCleared =
      (tc.inputs.any CallInput.isOwnerCleared || i.isOwnerCleared) := by
  simp only [input, List.any_append, List.any_cons, List.any_nil, Bool.or_false]

/-- The view behind an input, by what the input does to the call. -/
theorem view_input (tc : TrackedCall) (i : CallInput) : (tc.input i).view =
    { live := tc.live
      connection := (tc.call.apply i).connection
      streamId := (tc.call.apply i).streamId
      registered := (tc.call.apply i).streamRegistered
      owned := (tc.call.apply i).connectionOwned
      cleared := tc.inputs.any CallInput.isOwnerCleared || i.isOwnerCleared
      closed := (tc.call.apply i).streamClosed
      bytes := tc.bytes ++ i.bytes } := by
  rw [← cleared_input, ← bytes_input]
  rfl

end TrackedCall

namespace GrpcCall

/-- A callback other than a close leaves the fixed fields alone. -/
theorem apply_event_fixed (call : GrpcCall) (ra : ReadAhead) (answers : List Int)
    {event : StreamEvent} (hclose : event.isClose = false) :
    (call.apply (.event ra answers event)).fixed = call.fixed :=
  (CallbackState.onEvent_submits ra ⟨call, answers, []⟩ hclose).fixed

theorem dequeue_fixed (call : GrpcCall) : (call.apply .dequeue).fixed = call.fixed := by
  simp only [apply, dequeueResponsePayload]
  cases call.responseQueue <;> rfl

theorem take_fixed (call : GrpcCall) : (call.apply .take).fixed = call.fixed := by
  simp only [apply, unaryTakeResponsePayload]
  cases call.responseQueue <;> rfl

/-- The fields that the ledger reads are among the fixed ones. -/
theorem link_of_fixed {call call' : GrpcCall} (h : call'.fixed = call.fixed) :
    call'.connection = call.connection ∧ call'.streamId = call.streamId ∧
      call'.streamRegistered = call.streamRegistered ∧
      call'.connectionOwned = call.connectionOwned ∧ call'.streamClosed = call.streamClosed := by
  have hc := congrArg GrpcCall.connection h
  have hi := congrArg GrpcCall.streamId h
  have hr := congrArg GrpcCall.streamRegistered h
  have ho := congrArg GrpcCall.connectionOwned h
  have hs := congrArg GrpcCall.streamClosed h
  exact ⟨hc, hi, hr, ho, hs⟩

/-- A quiet input keeps what the ledger reads. -/
theorem apply_link_quiet (call : GrpcCall) {i : CallInput} (h : i.quiet = true) :
    (call.apply i).connection = call.connection ∧ (call.apply i).streamId = call.streamId ∧
      (call.apply i).streamRegistered = call.streamRegistered ∧
      (call.apply i).connectionOwned = call.connectionOwned ∧
      (call.apply i).streamClosed = call.streamClosed := by
  cases i with
  | event ra answers event =>
    simp only [CallInput.quiet, Bool.and_eq_true, Bool.not_eq_true'] at h
    exact link_of_fixed (call.apply_event_fixed ra answers h.1)
  | dequeue => exact link_of_fixed call.dequeue_fixed
  | take => exact link_of_fixed call.take_fixed
  | connectionBroken errno detail =>
    simp only [apply]
    split <;> exact ⟨rfl, rfl, rfl, rfl, rfl⟩
  | timedOut | ioError | locallyCancelled | userCancelled | freeQueue | truncated | requestSent =>
    exact ⟨rfl, rfl, rfl, rfl, rfl⟩
  | refused | submitted | registered | unregistered | ownerCleared =>
    exact absurd h (by simp [CallInput.quiet])

end GrpcCall

theorem TrackedCall.view_input_quiet (tc : TrackedCall) {i : CallInput} (h : i.quiet = true) :
    (tc.input i).view = tc.view := by
  obtain ⟨hc, hi, hr, ho, hs⟩ := tc.call.apply_link_quiet h
  have hbytes : i.bytes = [] := by
    cases i with
    | event ra answers event =>
      simp only [CallInput.quiet, Bool.and_eq_true] at h
      exact List.isEmpty_iff.mp h.2
    | _ => rfl
  have hcleared : i.isOwnerCleared = false := by
    cases i with
    | ownerCleared forget => exact absurd h (by simp [CallInput.quiet])
    | _ => rfl
  rw [view_input, hc, hi, hr, ho, hs, hbytes, hcleared, List.append_nil, Bool.or_false]
  rfl

/-! ## Changes of the state -/

namespace World

theorem ledger_setConn (w : World) (k : ConnId) (f : H2Connection → H2Connection)
    (g : ConnView → ConnView) (h : (f (w.conns k)).view = g (w.conns k).view) :
    (w.setConn k f).ledger = w.ledger.setConn k g := by
  have hconns : (fun k' => (Function.update w.conns k (f (w.conns k)) k').view) =
      Function.update (fun k' => (w.conns k').view) k (g (w.conns k).view) := by
    rw [← h]
    exact Function.comp_update H2Connection.view w.conns k (f (w.conns k))
  simp only [ledger, setConn, Ledger.setConn, hconns]

/-- A change that the ledger does not see. -/
theorem ledger_setConn_same (w : World) (k : ConnId) (f : H2Connection → H2Connection)
    (h : (f (w.conns k)).view = (w.conns k).view) : (w.setConn k f).ledger = w.ledger := by
  rw [w.ledger_setConn k f id h]
  simp only [Ledger.setConn, id, Function.update_eq_self]

theorem ledger_setCall (w : World) (c : CallId) (f : TrackedCall → TrackedCall)
    (g : CallView → CallView) (h : (f (w.calls c)).view = g (w.calls c).view) :
    (w.setCall c f).ledger = w.ledger.setCall c g := by
  have hcalls : (fun c' => (Function.update w.calls c (f (w.calls c)) c').view) =
      Function.update (fun c' => (w.calls c').view) c (g (w.calls c).view) := by
    rw [← h]
    exact Function.comp_update TrackedCall.view w.calls c (f (w.calls c))
  simp only [ledger, setCall, Ledger.setCall, hcalls]

theorem ledger_setCall_same (w : World) (c : CallId) (f : TrackedCall → TrackedCall)
    (h : (f (w.calls c)).view = (w.calls c).view) : (w.setCall c f).ledger = w.ledger := by
  rw [w.ledger_setCall c f id h]
  simp only [Ledger.setCall, id, Function.update_eq_self]

theorem ledger_input_quiet (w : World) (c : CallId) {i : CallInput} (h : i.quiet = true) :
    (w.input c i).ledger = w.ledger :=
  w.ledger_setCall_same c (·.input i) ((w.calls c).view_input_quiet h)

end World

end GrpcLite
