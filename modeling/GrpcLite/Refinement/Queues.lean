import GrpcLite.Refinement.Details

/-!
# Sending brings no messages

The callbacks of a send close streams and read requests, but none of them puts a
message into a queue. A send of a library that has nothing to send makes no
callback at all, so it leaves the calls as they are.
-/

namespace GrpcLite

namespace World

/-- Empty queues stay empty. -/
def Hushed (w w' : World) : Prop :=
  ∀ c, (w.calls c).call.responseQueue = [] → (w'.calls c).call.responseQueue = []

instance : Std.Refl Hushed := ⟨fun _ _ => id⟩

instance : IsTrans World Hushed := ⟨fun _ _ _ h h' c => h' c ∘ h c⟩

/-- Calls that do not change. -/
theorem Hushed.of_calls {w w' : World} (h : w'.calls = w.calls) : Hushed w w' := by
  intro c hc
  rw [h]
  exact hc

/-- The calls stay as they are. -/
def SameCalls (w w' : World) : Prop := w'.calls = w.calls

instance : Std.Refl SameCalls := ⟨fun _ => rfl⟩

instance : IsTrans World SameCalls := ⟨fun _ _ _ h h' => h'.trans h⟩

end World

/-- What leaves the calls alone leaves their queues alone. -/
theorem Exec.Within.hushed {α : Type} {m : Proc α} (h : Exec.Within World.SameCalls m) :
    Exec.Within World.Hushed m :=
  h.mono fun _ _ hcalls => .of_calls hcalls

namespace Proc

open World

/-! ## What touches no call -/

/-- A change of a connection. -/
theorem setConn_sameCalls (k : ConnId) (f : H2Connection → H2Connection) :
    Exec.Within SameCalls (setConn k f) :=
  .modify fun _ => rfl

/-- A record in the log. -/
theorem log_sameCalls (k : ConnId) (kind : IoKind) : Exec.Within SameCalls (log k kind) :=
  .modify fun _ => rfl

/-- Looking up a connection. -/
theorem conn_sameCalls (k : ConnId) : Exec.Within SameCalls (conn k) :=
  .bind .get fun _ => .pure _

/-- Looking up a call. -/
theorem call_sameCalls (c : CallId) : Exec.Within SameCalls (call c) :=
  .bind .get fun _ => .pure _

/-- What the environment does. -/
theorem onEnv_sameCalls {α : Type} (m : Exec Env α) : Exec.Within SameCalls (onEnv m) := by
  intro w a w' h
  obtain ⟨env, -, rfl⟩ := Exec.zoom_some.mp h
  rfl

/-- What a connection writes or reads. -/
theorem onPort_sameCalls {α : Type} (k : ConnId) (m : Exec Port α) :
    Exec.Within SameCalls (onPort k m) := by
  intro w a w' h
  obtain ⟨p, -, rfl⟩ := Exec.zoom_some.mp h
  rfl

/-- A flush leaves the calls alone. -/
theorem flushPending_sameCalls (k : ConnId) : Exec.Within SameCalls (flushPending k) :=
  .bind (log_sameCalls k _) fun _ => .bind (conn_sameCalls k) fun _ =>
    .bind (onPort_sameCalls k _) fun _ => .ite (.pure _) (.pure _)

/-- A frame that is sent leaves the calls alone. -/
theorem sendFrame_sameCalls (k : ConnId) (bytes : Bytes) : Exec.Within SameCalls (sendFrame k bytes) :=
  .bind (log_sameCalls k _) fun _ => onPort_sameCalls k _

/-! ## What brings no message -/

/-- Inputs that bring no message. -/
theorem input_hushed (c : CallId) {i : CallInput}
    (hi : ∀ ra answers event, i = .event ra answers event → event.isClose = true) :
    Exec.Within Hushed (input c i) := by
  refine .modify fun w c' hc' => ?_
  change (Function.update w.calls c ((w.calls c).input i) c').call.responseQueue = []
  rw [Function.update_apply]
  split
  · next hc =>
    subst hc
    exact apply_queue_nil hc' hi
  · exact hc'

/-- The expiry of a deadline is no message. -/
theorem markTimedOut_hushed (c : CallId) : Exec.Within Hushed (markTimedOut c) :=
  .bind .get fun _ => input_hushed c (by simp)

/-- A call leaves the list of its connection. -/
theorem unregisterGrpcCallStream_hushed (c : CallId) :
    Exec.Within Hushed (unregisterGrpcCallStream c) := by
  refine .bind (call_sameCalls c).hushed fun call => ?_
  cases call.connection with
  | none => exact .pure _
  | some k =>
    refine .ite (.pure _) (.bind (conn_sameCalls k).hushed fun _ => .bind (.when fun _ => ?_) fun _ => ?_)
    · exact .bind (log_sameCalls k _).hushed fun _ => (setConn_sameCalls k _).hushed
    · exact .bind (setConn_sameCalls k _).hushed fun _ => input_hushed c (by simp)

/-- Resets that a callback asks for. -/
theorem noteRsts_hushed (k : ConnId) (streamId : Int) (rsts : List (Nat × Int)) :
    Exec.Within Hushed (noteRsts k streamId rsts) := by
  induction rsts with
  | nil => exact .pure _
  | cons rst rsts ih =>
    refine .bind (.bind (log_sameCalls k _).hushed fun _ => ?_) fun _ => ih
    refine .bind (.modify fun _ => .of_calls rfl) fun _ => ?_
    exact .ite (setConn_sameCalls k _).hushed (.ite (setConn_sameCalls k _).hushed (.pure _))

/-- A stream is closed. -/
theorem onStreamClosed_hushed (k : ConnId) (streamId : Int) (errorCode : Nat) :
    Exec.Within Hushed (onStreamEvent k streamId (.closed errorCode)) := by
  refine .bind (setConn_sameCalls k _).hushed fun _ => .bind (.bind .get fun w => ?_) fun _ =>
    .bind (.when fun _ => (setConn_sameCalls k _).hushed) fun _ => .pure _
  cases (w.conns k).userData streamId with
  | none => exact .pure _
  | some c =>
    refine .ite (.pure _) (.bind .get fun w' => .bind (input_hushed c ?_) fun _ => ?_)
    · rintro ra answers event he
      obtain ⟨-, -, rfl⟩ := CallInput.event.inj he
      rfl
    · refine .bind (noteRsts_hushed k streamId _) fun _ => ?_
      exact .bind (.when fun _ => unregisterGrpcCallStream_hushed c) fun _ => .pure _

/-- The payload of a DATA frame is sent. -/
theorem sendDataLoop_hushed (k : ConnId) (c : CallId) (fuel length : Nat) :
    Exec.Within Hushed (sendDataLoop k c fuel length) := by
  induction fuel generalizing length with
  | zero => cases length <;> exact .pure _
  | succ fuel ih =>
    cases length with
    | zero => exact .pure _
    | succ length =>
      refine .bind (call_sameCalls c).hushed fun call => ?_
      cases call.requestChunk (length + 1) with
      | none => exact .pure _
      | some chunk =>
        refine .bind (sendFrame_sameCalls k chunk).hushed fun _ => .ite (.pure _) ?_
        exact .bind (input_hushed c (by simp)) fun _ => ih _

/-- A DATA frame is sent. -/
theorem sendData_hushed (k : ConnId) (streamId : Int) (limit : Nat) (framehd : Bytes)
    (padlen : Nat) : Exec.Within Hushed (sendData k streamId limit framehd padlen) := by
  refine .bind .get fun w => ?_
  cases (w.conns k).requestSource streamId with
  | none => exact .pure _
  | some c =>
    refine .bind (.modify fun _ => .of_calls rfl) fun _ => .ite ?_ ?_
    · exact .bind (setConn_sameCalls k _).hushed fun _ => .pure _
    · exact .bind (sendFrame_sameCalls k framehd).hushed fun _ =>
        .ite (.pure _) (sendDataLoop_hushed k c _ _)

/-- The callbacks of a send bring no message. -/
theorem onSendOps_hushed (k : ConnId) (rv : Int) (ops : List SendOp) :
    Exec.Within Hushed (onSendOps k rv ops) := by
  induction ops with
  | nil => exact .pure _
  | cons op ops ih =>
    refine .bind ?_ fun _ => .ite (.pure _) ih
    cases op with
    | frame bytes => exact (sendFrame_sameCalls k bytes).hushed
    | data streamId limit framehd padlen => exact sendData_hushed k streamId limit framehd padlen
    | close streamId errorCode =>
      exact .bind (onStreamClosed_hushed k streamId errorCode) fun _ => .pure _

/-- The note of a failed send. -/
theorem noteSendFailure_hushed (k : ConnId) (oc : Option CallId) :
    Exec.Within Hushed (noteSendFailure k oc) := by
  cases oc with
  | none => exact .pure _
  | some c =>
    refine .bind (conn_sameCalls k).hushed fun _ => ?_
    exact .bind (.when fun _ => markTimedOut_hushed c) fun _ => input_hushed c (by simp)

/-- A send brings no message. -/
theorem sendPendingH2FramesWithDeadline_hushed (k : ConnId) (oc : Option CallId) (fallback : Nat) :
    Exec.Within Hushed (sendPendingH2FramesWithDeadline k oc fallback) := by
  have hsend : Exec.Within Hushed (sessionSend k) := by
    refine .bind (log_sameCalls k _).hushed fun _ => .bind (conn_sameCalls k).hushed fun _ => ?_
    refine .bind (onEnv_sameCalls _).hushed fun _ => .bind (onSendOps_hushed k _ _) fun _ => ?_
    exact .bind (.when fun _ => (setConn_sameCalls k _).hushed) fun _ => .pure _
  refine .bind .get fun w => .ite (.pure _) (.bind (setConn_sameCalls k _).hushed fun _ => ?_)
  refine .bind (.bind hsend fun _ => .ite (flushPending_sameCalls k).hushed (.pure _)) fun _ => ?_
  refine .bind (.when fun _ => ?_) fun _ => .bind (setConn_sameCalls k _).hushed fun _ => .pure _
  exact .bind (setConn_sameCalls k _).hushed fun _ => noteSendFailure_hushed k oc

/-- A cancelled stream gets no more messages. -/
theorem cancelGrpcCallStream_hushed (c : CallId) :
    Exec.Within Hushed (cancelGrpcCallStream c) := by
  refine .bind (call_sameCalls c).hushed fun call => ?_
  cases call.connection with
  | none => exact .pure _
  | some k =>
    refine .bind (conn_sameCalls k).hushed fun _ => .ite (.pure _) ?_
    refine .bind (input_hushed c (by simp)) fun _ => .bind ?_ fun _ => .ite ?_ ?_
    · refine .bind (log_sameCalls k _).hushed fun _ => .bind (onEnv_sameCalls _).hushed fun _ => ?_
      refine .bind (.when fun _ => ?_) fun _ => .pure _
      exact .bind (setConn_sameCalls k _).hushed fun _ => (setConn_sameCalls k _).hushed
    · exact .bind (setConn_sameCalls k _).hushed fun _ => .pure _
    · refine .bind (onEnv_sameCalls _).hushed fun _ => ?_
      exact .bind (sendPendingH2FramesWithDeadline_hushed k none _) fun _ =>
        .ite (setConn_sameCalls k _).hushed (.pure _)

/-! ## A library with nothing to send -/

/-- A completed send of a library that has nothing to send leaves the calls as they are. -/
theorem sendPendingH2FramesWithDeadline_calls {k : ConnId} {oc : Option CallId} {fallback : Nat}
    {w w' : World} (h : sendPendingH2FramesWithDeadline k oc fallback w = some (0, w'))
    (hout : (w.conns k).outbound = false) : w'.calls = w.calls := by
  rw [sendPendingH2FramesWithDeadline, Exec.get_bind_run] at h
  split at h
  · exact absurd (Exec.pure_some.mp h).1 (by decide)
  · obtain ⟨_, w₁, harm, h⟩ := Exec.bind_some.mp h
    obtain ⟨rv, w₂, hsend, h⟩ := Exec.bind_some.mp h
    obtain ⟨_, w₃, hwhen, h⟩ := Exec.bind_some.mp h
    obtain ⟨_, w₄, hend, h⟩ := Exec.bind_some.mp h
    obtain ⟨rfl, rfl⟩ := Exec.pure_some.mp h
    obtain ⟨hne, -⟩ | ⟨-, rfl⟩ := Exec.when_some.mp hwhen
    · exact absurd rfl hne
    have hout₁ : (w₁.conns k).outbound = false := by
      rw [Exec.modify_some.mp harm, setConn_conns_self]
      exact hout
    have hcalls₁ : w₁.calls = w.calls := setConn_sameCalls k _ _ _ _ harm
    have hcalls₄ : w₄.calls = w₂.calls := setConn_sameCalls k _ _ _ _ hend
    obtain ⟨rv₁, w₃, hsession, hflush⟩ := Exec.bind_some.mp hsend
    have hcalls₂ : w₂.calls = w₃.calls := by
      split at hflush
      · exact flushPending_sameCalls k _ _ _ hflush
      · rw [(Exec.pure_some.mp hflush).2]
    obtain ⟨_, w₅, hlog, hsession⟩ := Exec.bind_some.mp hsession
    obtain rfl := Exec.modify_some.mp hlog
    obtain ⟨conn, w₆, hconn, hsession⟩ := Exec.bind_some.mp hsession
    rw [Proc.conn, Exec.get_bind_run] at hconn
    obtain ⟨rfl, rfl⟩ := Exec.pure_some.mp hconn
    obtain ⟨⟨ops, rv₂⟩, w₇, hask, hsession⟩ := Exec.bind_some.mp hsession
    have hnone : ops = [] := by
      obtain ⟨env, hrun, -⟩ := Exec.zoom_some.mp hask
      obtain ⟨answer, rest, -, hsel, -⟩ := Env.ask_some hrun
      cases answer with
      | sessionSend ops' rv' =>
        have hdry : ((w₁.log k .sessionSend).conns k).outbound = false := hout₁
        simp only [hdry, Bool.false_or, Option.ite_none_right_eq_some, List.isEmpty_iff] at hsel
        obtain ⟨hempty, heq⟩ := hsel
        exact (congrArg Prod.fst (Option.some.inj heq)).symm.trans hempty
      | _ => cases hsel
    subst hnone
    obtain ⟨rv₃, w₈, hops, hsession⟩ := Exec.bind_some.mp hsession
    obtain ⟨rfl, rfl⟩ := Exec.pure_some.mp hops
    obtain ⟨_, w₉, hnote, hsession⟩ := Exec.bind_some.mp hsession
    obtain ⟨-, hw⟩ := Exec.pure_some.mp hsession
    have hcalls₇ : w₇.calls = (w₁.log k .sessionSend).calls := onEnv_sameCalls _ _ _ _ hask
    have hcalls₉ : w₉.calls = w₇.calls :=
      Exec.Within.when (fun _ => setConn_sameCalls k _) _ _ _ hnote
    rw [hcalls₄, hcalls₂, ← hw, hcalls₉, hcalls₇]
    exact hcalls₁

/-- A library with nothing to send sends nothing. -/
theorem sendPendingH2Frames_calls {k : ConnId} {oc : Option CallId} {w w' : World}
    (h : sendPendingH2Frames k oc w = some (0, w')) (hout : (w.conns k).outbound = false) :
    w'.calls = w.calls := by
  obtain ⟨conn, w₁, hconn, h⟩ := Exec.bind_some.mp h
  rw [Proc.conn, Exec.get_bind_run] at hconn
  obtain ⟨rfl, rfl⟩ := Exec.pure_some.mp hconn
  exact sendPendingH2FramesWithDeadline_calls h hout

end Proc

end GrpcLite
