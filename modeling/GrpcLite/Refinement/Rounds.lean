import GrpcLite.Refinement.Reports

/-!
# What a round of a loop records

A loop of a driver goes round by round: it sends what is pending, reads, feeds the
library and flushes. Whatever such a part does to a call stands in the record of the
call; this module says which inputs each part can add to it.
-/

namespace GrpcLite

/-- A send tells a call at most that its stream is closed. -/
def CallInput.ofSend : CallInput → Bool
  | .event _ _ (.closed _) | .unregistered | .requestSent _ => true
  | _ => false

/-- What the callbacks of a read do to a call. -/
def CallInput.ofFeed : CallInput → Bool
  | .event _ _ _ | .refused | .unregistered => true
  | _ => false

/-- The read-ahead limit does not apply to body bytes. -/
def CallInput.ownReader : CallInput → Bool
  | .event ra _ (.data _) => !ra.foreignReader
  | _ => true

/-- What a round does to a call unless it ends the loop; opening the call is the first one. -/
def CallInput.inRound : CallInput → Bool
  | .event _ _ _ | .refused | .submitted _ | .registered _ | .unregistered | .requestSent _ => true
  | _ => false

/-- What the failure of a read or of a send leaves on the call that made it. -/
def CallInput.ofFailure : CallInput → Bool
  | .timedOut _ | .ioError _ _ _ | .connectionBroken _ _ => true
  | _ => false

/-- What a send leaves behind is part of a round. -/
theorem CallInput.inRound_of_ofSend {i : CallInput} (h : i.ofSend = true) : i.inRound = true := by
  cases i with
  | event | unregistered | requestSent => rfl
  | _ => cases h

/-- What the callbacks of a read do is part of a round. -/
theorem CallInput.inRound_of_ofFeed {i : CallInput} (h : i.ofFeed = true) : i.inRound = true := by
  cases i with
  | event | refused | unregistered => rfl
  | _ => cases h

/-- A send brings no body bytes. -/
theorem CallInput.ownReader_of_ofSend {i : CallInput} (h : i.ofSend = true) :
    i.ownReader = true := by
  cases i with
  | event ra answers event =>
    cases event with
    | data bytes => cases h
    | _ => rfl
  | _ => rfl

/-- Apply inputs to the call and record them. -/
def TrackedCall.inputAll (tc : TrackedCall) (is : List CallInput) : TrackedCall :=
  { tc with call := tc.call.applyAll is, inputs := tc.inputs ++ is }

/-- Without inputs the call stays. -/
theorem TrackedCall.inputAll_nil (tc : TrackedCall) : tc.inputAll [] = tc := by
  rw [inputAll, List.append_nil]
  rfl

/-- Inputs in two parts. -/
theorem TrackedCall.inputAll_append (tc : TrackedCall) (is js : List CallInput) :
    tc.inputAll (is ++ js) = (tc.inputAll is).inputAll js := by
  simp only [inputAll, GrpcCall.applyAll_append, List.append_assoc]

/-- The record of a call accounts for further inputs. -/
theorem TrackedCall.Replayed.inputAll {tc : TrackedCall} (h : tc.Replayed) (is : List CallInput) :
    (tc.inputAll is).Replayed := by
  unfold TrackedCall.Replayed TrackedCall.inputAll at *
  rw [GrpcCall.applyAll_append, ← h]

namespace World

/-- Calls change only by inputs of a kind, which stand in their records. -/
def Records (P : CallInput → Prop) (w w' : World) : Prop :=
  ∀ c, ∃ is, (∀ i ∈ is, P i) ∧ w'.calls c = (w.calls c).inputAll is

variable {P Q : CallInput → Prop}

instance : Std.Refl (Records P) :=
  ⟨fun _ _ => ⟨[], fun _ hi => absurd hi List.not_mem_nil, (TrackedCall.inputAll_nil _).symm⟩⟩

instance : IsTrans World (Records P) := by
  refine ⟨fun w₁ w₂ w₃ h h' c => ?_⟩
  obtain ⟨is, his, hcall⟩ := h c
  obtain ⟨is', his', hcall'⟩ := h' c
  refine ⟨is ++ is', fun i hi => (List.mem_append.mp hi).elim (his i) (his' i), ?_⟩
  rw [hcall', hcall, TrackedCall.inputAll_append]

/-- Inputs of a wider kind. -/
theorem Records.mono {w w' : World} (h : Records P w w') (hPQ : ∀ i, P i → Q i) :
    Records Q w w' := by
  intro c
  obtain ⟨is, his, hcall⟩ := h c
  exact ⟨is, fun i hi => hPQ i (his i hi), hcall⟩

/-- Calls that do not change. -/
theorem Records.of_calls {w w' : World} (h : w'.calls = w.calls) : Records P w w' := by
  intro c
  rw [h]
  exact Std.Refl.refl (r := Records P) w c

/-- While a call reads, the callbacks that reach it are those of its own read. -/
def Feeds (k : ConnId) (c : CallId) (w w' : World) : Prop :=
  (w.conns k).currentReadCall = some c → (w'.conns k).currentReadCall = some c ∧
    ∃ is, (∀ i ∈ is, i.ofFeed = true ∧ i.ownReader = true) ∧ w'.calls c = (w.calls c).inputAll is

instance {k : ConnId} {c : CallId} : Std.Refl (Feeds k c) :=
  ⟨fun w hreader => ⟨hreader, Std.Refl.refl (r := Records _) w c⟩⟩

instance {k : ConnId} {c : CallId} : IsTrans World (Feeds k c) := by
  refine ⟨fun w₁ w₂ w₃ h h' hreader => ?_⟩
  obtain ⟨hreader', is, his, hcall⟩ := h hreader
  obtain ⟨hreader'', is', his', hcall'⟩ := h' hreader'
  refine ⟨hreader'', is ++ is', fun i hi => (List.mem_append.mp hi).elim (his i) (his' i), ?_⟩
  rw [hcall', hcall, TrackedCall.inputAll_append]

/-- Nothing reaches the reader where neither calls nor connections change. -/
theorem Feeds.of_conns {k : ConnId} {c : CallId} {w w' : World} (hconns : w'.conns = w.conns)
    (hcalls : w'.calls = w.calls) : Feeds k c w w' := by
  intro hreader
  rw [hconns, hcalls]
  exact Std.Refl.refl (r := Feeds k c) w hreader

end World

namespace Exec.Within

/-- What leaves the calls alone records nothing. -/
theorem records {α : Type} {m : Proc α} (h : Within World.SameCalls m) (P : CallInput → Prop) :
    Within (World.Records P) m :=
  h.mono fun _ _ hcalls => .of_calls hcalls

/-- Inputs of a wider kind. -/
theorem widen {α : Type} {P Q : CallInput → Prop} {m : Proc α} (h : Within (World.Records P) m)
    (hPQ : ∀ i, P i → Q i) : Within (World.Records Q) m :=
  h.mono fun _ _ hrecords => hrecords.mono hPQ

end Exec.Within

namespace Proc

open World

variable {P : CallInput → Prop}

/-- An input records itself. -/
theorem input_records (c : CallId) {i : CallInput} (hi : P i) :
    Exec.Within (Records P) (input c i) := by
  refine .modify fun w c' => ?_
  by_cases hc : c' = c
  · subst hc
    refine ⟨[i], fun j hj => List.mem_singleton.mp hj ▸ hi, ?_⟩
    rw [input_calls_self]
    rfl
  · refine ⟨[], fun _ hi => absurd hi List.not_mem_nil, ?_⟩
    rw [TrackedCall.inputAll_nil]
    exact Function.update_of_ne hc ..

/-- A call that leaves the list of its connection is told so. -/
theorem unregisterGrpcCallStream_records (c : CallId) (hP : P .unregistered) :
    Exec.Within (Records P) (unregisterGrpcCallStream c) := by
  refine .bind ((call_sameCalls c).records P) fun call => ?_
  cases call.connection with
  | none => exact .pure _
  | some k =>
    refine .ite (.pure _) (.bind ((conn_sameCalls k).records P) fun _ => .bind (.when fun _ => ?_)
      fun _ => ?_)
    · exact .bind ((log_sameCalls k _).records P) fun _ => (setConn_sameCalls k _).records P
    · exact .bind ((setConn_sameCalls k _).records P) fun _ => input_records c hP

/-- Resets are noted on the connection. -/
theorem noteRsts_sameCalls (k : ConnId) (streamId : Int) (rsts : List (Nat × Int)) :
    Exec.Within SameCalls (noteRsts k streamId rsts) := by
  induction rsts with
  | nil => exact .pure _
  | cons rst rsts ih =>
    refine .bind (.bind (log_sameCalls k _) fun _ => .bind (.modify fun _ => rfl) fun _ => ?_)
      fun _ => ih
    exact .ite (setConn_sameCalls k _) (.ite (setConn_sameCalls k _) (.pure _))

/-- A callback of a stream. -/
theorem onStreamEvent_records (k : ConnId) (streamId : Int) (event : StreamEvent)
    (hevent : ∀ ra answers, P (.event ra answers event))
    (hclose : event.isClose = true → P .unregistered) :
    Exec.Within (Records P) (onStreamEvent k streamId event) := by
  refine .bind ((setConn_sameCalls k _).records P) fun _ => .bind (.bind .get fun w => ?_) fun _ =>
    .bind (.when fun _ => (setConn_sameCalls k _).records P) fun _ => .pure _
  cases (w.conns k).userData streamId with
  | none => exact .pure _
  | some c =>
    refine .ite (.pure _) (.bind .get fun w' => .bind (input_records c (hevent _ _)) fun _ => ?_)
    refine .bind ((noteRsts_sameCalls k streamId _).records P) fun _ => ?_
    exact .bind (.when fun hc => unregisterGrpcCallStream_records c (hclose hc)) fun _ => .pure _

/-- A change of a connection that keeps its reader. -/
theorem setConn_feeds {k : ConnId} {c : CallId} (k' : ConnId) {f : H2Connection → H2Connection}
    (hf : ∀ conn, (f conn).currentReadCall = conn.currentReadCall) :
    Exec.Within (Feeds k c) (setConn k' f) := by
  refine .modify fun w hreader => ⟨?_, Std.Refl.refl (r := Records _) w c⟩
  rw [setConn_conns]
  split
  · next hk => rw [hf, ← hk, hreader]
  · exact hreader

/-- An input of a callback. -/
theorem input_feeds {k : ConnId} {c : CallId} (c' : CallId) {i : CallInput}
    (hi : i.ofFeed = true ∧ i.ownReader = true) : Exec.Within (Feeds k c) (input c' i) := by
  intro w a w' h hreader
  refine ⟨?_, input_records c' hi _ _ _ h c⟩
  rw [Exec.modify_some.mp h]
  exact hreader

/-- A call that leaves the list of its connection. -/
theorem unregisterGrpcCallStream_feeds {k : ConnId} {c : CallId} (c' : CallId) :
    Exec.Within (Feeds k c) (unregisterGrpcCallStream c') := by
  refine .bind (.bind .get fun _ => .pure _) fun call => ?_
  cases call.connection with
  | none => exact .pure _
  | some k' =>
    refine .ite (.pure _) (.bind (.bind .get fun _ => .pure _) fun _ => .bind (.when fun _ => ?_)
      fun _ => ?_)
    · exact .bind (.modify fun w => .of_conns rfl rfl) fun _ => setConn_feeds k' fun _ => rfl
    · exact .bind (setConn_feeds k' fun _ => rfl) fun _ => input_feeds c' ⟨rfl, rfl⟩

/-- Resets are noted on the connection. -/
theorem noteRsts_feeds {k : ConnId} {c : CallId} (k' : ConnId) (streamId : Int)
    (rsts : List (Nat × Int)) : Exec.Within (Feeds k c) (noteRsts k' streamId rsts) := by
  induction rsts with
  | nil => exact .pure _
  | cons rst rsts ih =>
    refine .bind (.bind (.modify fun w => .of_conns rfl rfl) fun _ =>
      .bind (.modify fun w => .of_conns rfl rfl) fun _ => ?_) fun _ => ih
    exact .ite (setConn_feeds k' fun _ => rfl) (.ite (setConn_feeds k' fun _ => rfl) (.pure _))

/-- A callback for a call: the read-ahead limit does not apply to the reader. -/
theorem dispatchEvent_feeds {k : ConnId} {c : CallId} (streamId : Int) (c' : CallId)
    (event : StreamEvent) : Exec.Within (Feeds k c) (dispatchEvent k streamId c' event) := by
  intro w rv w' h hreader
  rw [dispatchEvent, Exec.get_bind_run] at h
  obtain ⟨_, w₁, hin, h⟩ := Exec.bind_some.mp h
  have hrest : Exec.Within (Feeds k c) (do
      noteRsts k streamId (CallbackState.onEvent (w.readAhead k c')
        ⟨(w.calls c').call, rstAnswers w.env.script, []⟩ event).1.rstSubmitted
      Exec.when event.isClose (unregisterGrpcCallStream c')
      return (CallbackState.onEvent (w.readAhead k c')
        ⟨(w.calls c').call, rstAnswers w.env.script, []⟩ event).2) :=
    .bind (noteRsts_feeds k streamId _) fun _ =>
      .bind (.when fun _ => unregisterGrpcCallStream_feeds c') fun _ => .pure _
  have hreader₁ : (w₁.conns k).currentReadCall = some c := by
    rw [Exec.modify_some.mp hin]
    exact hreader
  obtain ⟨hreader', hlater⟩ := hrest _ _ _ h hreader₁
  refine ⟨hreader', ?_⟩
  by_cases hc : c' = c
  · -- The reader itself is not foreign.
    subst hc
    have hown : (w.readAhead k c').foreignReader = false := by
      simp only [World.readAhead, hreader, ne_eq, not_true_eq_false, decide_false]
    have hfirst : CallInput.ofFeed (.event (w.readAhead k c') (rstAnswers w.env.script) event) =
        true ∧ CallInput.ownReader
          (.event (w.readAhead k c') (rstAnswers w.env.script) event) = true := by
      refine ⟨rfl, ?_⟩
      cases event <;> first | rfl | exact congrArg not hown
    obtain ⟨is, his, hcall⟩ := input_records (P := fun i => i.ofFeed = true ∧ i.ownReader = true)
      c' hfirst _ _ _ hin c'
    obtain ⟨is', his', hcall'⟩ := hlater
    refine ⟨is ++ is', fun i hi => (List.mem_append.mp hi).elim (his i) (his' i), ?_⟩
    rw [hcall', hcall, TrackedCall.inputAll_append]
  · have hsame : w₁.calls c = w.calls c := by
      rw [Exec.modify_some.mp hin]
      exact Function.update_of_ne (Ne.symm hc) ..
    rw [← hsame]
    exact hlater

/-- A GOAWAY refuses calls. -/
theorem refuseStreams_feeds {k : ConnId} {c : CallId} (k' : ConnId) (lastStreamId : Int)
    (calls : List CallId) : Exec.Within (Feeds k c) (refuseStreams k' lastStreamId calls) := by
  induction calls with
  | nil => exact .pure _
  | cons c' rest ih =>
    refine .bind (.bind .get fun _ => .pure _) fun _ => .bind (.when fun _ => ?_) fun _ => ih
    exact .bind (input_feeds c' ⟨rfl, rfl⟩) fun _ => unregisterGrpcCallStream_feeds c'

/-- The callbacks of one read bring the body bytes of the reader, or close it. -/
theorem onSessionEvents_feeds {k : ConnId} {c : CallId} (rv : Int) (events : List SessionEvent) :
    Exec.Within (Feeds k c) (onSessionEvents k rv events) := by
  induction events with
  | nil => exact .pure _
  | cons event events ih =>
    refine .bind ?_ fun _ => .ite (.pure _) ih
    cases event with
    | stream streamId event =>
      refine .bind (setConn_feeds k fun _ => rfl) fun _ => .bind (.bind .get fun w => ?_) fun _ =>
        .bind (.when fun _ => setConn_feeds k fun _ => rfl) fun _ => .pure _
      cases (w.conns k).userData streamId with
      | none => exact .pure _
      | some c' => exact .ite (.pure _) (dispatchEvent_feeds streamId c' event)
    | goaway lastStreamId errorCode =>
      refine .bind ?_ fun _ => .pure _
      refine .bind (.bind .get fun _ => .pure _) fun _ => ?_
      refine .bind (setConn_feeds k fun _ => rfl) fun _ => ?_
      exact .bind (.when fun _ => refuseStreams_feeds k lastStreamId _) fun _ =>
        setConn_feeds k fun _ => rfl

/-- The session calls behind a read. -/
theorem feedSession_records {k : ConnId} {c : CallId} {rv : Int} {w w' : World}
    (h : feedSession k c w = some (rv, w')) :
    ∃ is, (∀ i ∈ is, i.ofFeed = true ∧ i.ownReader = true) ∧
      w'.calls c = (w.calls c).inputAll is := by
  obtain ⟨_, w₁, henter, h⟩ := Exec.bind_some.mp h
  obtain ⟨rv', w₂, hfeed, h⟩ := Exec.bind_some.mp h
  obtain ⟨_, w₃, hleave, h⟩ := Exec.bind_some.mp h
  obtain ⟨-, rfl⟩ := Exec.pure_some.mp h
  obtain ⟨_, w₄, hlog, hfeed⟩ := Exec.bind_some.mp hfeed
  obtain ⟨answer, w₅, hask, hfeed⟩ := Exec.bind_some.mp hfeed
  obtain ⟨_, w₆, hnote, hfeed⟩ := Exec.bind_some.mp hfeed
  have hreader : (w₆.conns k).currentReadCall = some c := by
    have hconns : w₅.conns = w₁.conns := by
      obtain ⟨env, -, rfl⟩ := Exec.zoom_some.mp hask
      rw [Exec.modify_some.mp hlog]
      rfl
    rw [Exec.modify_some.mp hnote, setConn_conns_self, hconns, Exec.modify_some.mp henter,
      setConn_conns_self]
  have hcalls : w₆.calls = w.calls :=
    (setConn_sameCalls k _ _ _ _ hnote).trans ((onEnv_sameCalls _ _ _ _ hask).trans
      ((log_sameCalls k _ _ _ _ hlog).trans (setConn_sameCalls k _ _ _ _ henter)))
  obtain ⟨-, is, his, hcall⟩ := onSessionEvents_feeds _ _ _ _ _ hfeed hreader
  refine ⟨is, his, ?_⟩
  rw [show w₃.calls = w₂.calls from setConn_sameCalls k _ _ _ _ hleave, hcall, hcalls]

/-! ## Sending -/

/-- The payload of a DATA frame records what was sent. -/
theorem sendDataLoop_records (k : ConnId) (c : CallId) (fuel length : Nat) :
    Exec.Within (Records fun i => i.ofSend = true) (sendDataLoop k c fuel length) := by
  induction fuel generalizing length with
  | zero => cases length <;> exact .pure _
  | succ fuel ih =>
    cases length with
    | zero => exact .pure _
    | succ length =>
      refine .bind ((call_sameCalls c).records _) fun call => ?_
      cases call.requestChunk (length + 1) with
      | none => exact .pure _
      | some chunk =>
        refine .bind ((sendFrame_sameCalls k chunk).records _) fun _ => .ite (.pure _) ?_
        exact .bind (input_records c rfl) fun _ => ih _

/-- The callbacks of a send record what was sent and which streams ended. -/
theorem onSendOps_records (k : ConnId) (rv : Int) (ops : List SendOp) :
    Exec.Within (Records fun i => i.ofSend = true) (onSendOps k rv ops) := by
  induction ops with
  | nil => exact .pure _
  | cons op ops ih =>
    refine .bind ?_ fun _ => .ite (.pure _) ih
    cases op with
    | frame bytes => exact (sendFrame_sameCalls k bytes).records _
    | data streamId limit framehd padlen =>
      refine .bind .get fun w => ?_
      cases (w.conns k).requestSource streamId with
      | none => exact .pure _
      | some c =>
        refine .bind (.modify fun _ => .of_calls rfl) fun _ => .ite ?_ ?_
        · exact .bind ((setConn_sameCalls k _).records _) fun _ => .pure _
        · exact .bind ((sendFrame_sameCalls k framehd).records _) fun _ =>
            .ite (.pure _) (sendDataLoop_records k c _ _)
    | close streamId errorCode =>
      exact .bind (onStreamEvent_records k streamId _ (fun _ _ => rfl) fun _ => rfl) fun _ =>
        .pure _

/-- A send with the flush behind it records no more. -/
theorem sendAndFlush_records (k : ConnId) :
    Exec.Within (Records fun i => i.ofSend = true) (sendAndFlush k) := by
  refine .bind (.bind ((log_sameCalls k _).records _) fun _ =>
    .bind ((conn_sameCalls k).records _) fun _ => .bind ((onEnv_sameCalls _).records _) fun _ =>
    .bind (onSendOps_records k _ _) fun _ =>
    .bind (.when fun _ => (setConn_sameCalls k _).records _) fun _ => .pure _) fun _ => ?_
  exact .ite ((flushPending_sameCalls k).records _) (.pure _)

/-- A send without failure. -/
theorem sendPendingH2FramesWithDeadline_records (k : ConnId) (oc : Option CallId)
    (fallback : Nat) : Exec.Yields (· = 0) (Records fun i => i.ofSend = true)
      (sendPendingH2FramesWithDeadline k oc fallback) := by
  refine .bind .get fun w => .ite (fun _ => .refuse (by decide)) fun _ => ?_
  refine .bind ((setConn_sameCalls k _).records _) fun _ => .bind (sendAndFlush_records k)
    fun rv => ?_
  by_cases hrv : rv = 0
  · refine Exec.Within.yields ?_ _
    refine .bind (.when fun hne => absurd hrv hne) fun _ => ?_
    exact .bind ((setConn_sameCalls k _).records _) fun _ => .pure _
  · intro w a w' h ha
    obtain ⟨_, w₁, -, h⟩ := Exec.bind_some.mp h
    obtain ⟨_, w₂, -, h⟩ := Exec.bind_some.mp h
    exact absurd ((Exec.pure_some.mp h).1.trans ha) hrv

/-- A send for nobody. -/
theorem sendPendingH2FramesWithDeadline_none_records (k : ConnId) (fallback : Nat) :
    Exec.Within (Records fun i => i.ofSend = true)
      (sendPendingH2FramesWithDeadline k none fallback) := by
  refine .bind .get fun w => .ite (.pure _) (.bind ((setConn_sameCalls k _).records _) fun _ => ?_)
  refine .bind (sendAndFlush_records k) fun _ => .bind (.when fun _ => ?_) fun _ =>
    .bind ((setConn_sameCalls k _).records _) fun _ => .pure _
  exact .bind ((setConn_sameCalls k _).records _) fun _ => .pure _

/-- Any send for a call. -/
theorem sendPendingH2Frames_allRecords (k : ConnId) (c : CallId) :
    Exec.Within (Records fun i => i.ofSend = true ∨ i.ofFailure = true)
      (sendPendingH2Frames k (some c)) := by
  refine .bind ((conn_sameCalls k).records _) fun _ => .bind .get fun w => .ite (.pure _) ?_
  refine .bind ((setConn_sameCalls k _).records _) fun _ =>
    .bind ((sendAndFlush_records k).widen fun _ => .inl) fun _ => .bind (.when fun _ => ?_) fun _ =>
    .bind ((setConn_sameCalls k _).records _) fun _ => .pure _
  refine .bind ((setConn_sameCalls k _).records _) fun _ =>
    .bind ((conn_sameCalls k).records _) fun _ => .bind (.when fun _ => ?_) fun _ => ?_
  · exact .bind .get fun _ => input_records c (.inr rfl)
  · exact input_records c (.inr rfl)

/-- A send that succeeds records no failure. -/
theorem sendPendingH2Frames_records (k : ConnId) (oc : Option CallId) :
    Exec.Yields (· = 0) (Records fun i => i.ofSend = true) (sendPendingH2Frames k oc) :=
  .bind ((conn_sameCalls k).records _) fun _ => sendPendingH2FramesWithDeadline_records k oc _

/-- The flush behind a read. -/
theorem flushAfterRead_records (k : ConnId) (c : CallId) :
    Exec.Yields (· = 0) (Records fun i => i.ofSend = true) (flushAfterRead k c) := by
  refine .bind (.bind ((onEnv_sameCalls _).records _) fun _ =>
    .bind (.when fun _ => (setConn_sameCalls k _).records _) fun _ => .pure _) fun wants => ?_
  exact .ite (fun _ => sendPendingH2Frames_records k _) fun _ => Exec.Within.yields (.pure _) _

/-- A flush behind a read records what was sent, and the failure if it fails. -/
theorem flushAfterRead_allRecords (k : ConnId) (c : CallId) :
    Exec.Within (Records fun i => i.ofSend = true ∨ i.ofFailure = true) (flushAfterRead k c) := by
  refine .bind (.bind ((onEnv_sameCalls _).records _) fun _ =>
    .bind (.when fun _ => (setConn_sameCalls k _).records _) fun _ => .pure _) fun wants => ?_
  exact .ite (sendPendingH2Frames_allRecords k c) (.pure _)

/-- The reset of a stream. -/
theorem cancelGrpcCallStream_records (c : CallId) :
    Exec.Within (Records fun i => i.ofSend = true ∨ i = .locallyCancelled)
      (cancelGrpcCallStream c) := by
  refine .bind ((call_sameCalls c).records _) fun call => ?_
  cases call.connection with
  | none => exact .pure _
  | some k =>
    refine .bind ((conn_sameCalls k).records _) fun _ => .ite (.pure _) ?_
    refine .bind (input_records c (.inr rfl)) fun _ => .bind ?_ fun _ => .ite ?_ ?_
    · refine .bind ((log_sameCalls k _).records _) fun _ => .bind ((onEnv_sameCalls _).records _)
        fun _ => .bind (.when fun _ => ?_) fun _ => .pure _
      exact .bind ((setConn_sameCalls k _).records _) fun _ => (setConn_sameCalls k _).records _
    · exact .bind ((setConn_sameCalls k _).records _) fun _ => .pure _
    · refine .bind ((onEnv_sameCalls _).records _) fun _ => ?_
      exact .bind ((sendPendingH2FramesWithDeadline_none_records k _).widen fun _ => .inl)
        fun _ => .ite ((setConn_sameCalls k _).records _) (.pure _)

/-! ## Notes of a driver -/

/-- A failed read records why. -/
theorem noteReadFailure_records (k : ConnId) (c : CallId) (nread : Int) :
    Exec.Within (Records fun i => i.ofFailure = true) (noteReadFailure k c nread) :=
  .bind .get fun _ => .bind ((conn_sameCalls k).records _) fun _ =>
    .bind (.when fun _ => input_records c rfl) fun _ =>
    .bind ((call_sameCalls c).records _) fun _ => .pure _

/-- The connection is noted as broken. -/
theorem noteConnectionBroken_records {c : CallId} {w w' : World} {u : Unit}
    (h : noteConnectionBroken c w = some (u, w')) :
    ∃ errno detail, w'.calls c = (w.calls c).inputAll [.connectionBroken errno detail] := by
  obtain ⟨call, w₁, hcall, h⟩ := Exec.bind_some.mp h
  rw [Proc.call, Exec.get_bind_run] at hcall
  obtain ⟨rfl, rfl⟩ := Exec.pure_some.mp hcall
  cases hconn : (w.calls c).call.connection with
  | none =>
    simp only [hconn] at h
    rw [Exec.modify_some.mp h, input_calls_self]
    exact ⟨_, _, rfl⟩
  | some k =>
    simp only [hconn] at h
    obtain ⟨conn, w₂, hread, h⟩ := Exec.bind_some.mp h
    rw [Proc.conn, Exec.get_bind_run] at hread
    obtain ⟨rfl, rfl⟩ := Exec.pure_some.mp hread
    rw [Exec.modify_some.mp h, input_calls_self]
    exact ⟨_, _, rfl⟩

/-- The expiry of a deadline is recorded with its time. -/
theorem markTimedOut_records {c : CallId} {w w' : World} {u : Unit}
    (h : markTimedOut c w = some (u, w')) :
    ∃ now, w'.calls c = (w.calls c).inputAll [.timedOut now] := by
  rw [markTimedOut, Exec.get_bind_run] at h
  rw [Exec.modify_some.mp h, input_calls_self]
  exact ⟨_, rfl⟩

/-! ## Opening and releasing -/

/-- The submission of a request is recorded. -/
theorem submitRequest_records (k : ConnId) (c : CallId) :
    Exec.Within (Records fun i => i.inRound = true ∧ i.ownReader = true) (submitRequest k c) := by
  refine .bind ((log_sameCalls k _).records _) fun _ => .bind ((conn_sameCalls k).records _)
    fun _ => .bind ((onEnv_sameCalls _).records _) fun rv => ?_
  refine .bind (input_records c ⟨rfl, rfl⟩) fun _ => .bind (.when fun _ => ?_) fun _ => .pure _
  exact .bind ((setConn_sameCalls k _).records _) fun _ => (setConn_sameCalls k _).records _

/-- The registration of a stream is recorded. -/
theorem registerGrpcCallStream_records (k : ConnId) (c : CallId) :
    Exec.Within (Records fun i => i.inRound = true ∧ i.ownReader = true)
      (registerGrpcCallStream k c) := by
  refine .bind ((call_sameCalls c).records _) fun call => .ite (.pure _) ?_
  refine .bind ((log_sameCalls k _).records _) fun _ => .bind ((onEnv_sameCalls _).records _)
    fun rv => .ite (.pure _) ?_
  refine .bind ((setConn_sameCalls k _).records _) fun _ => .bind (input_records c ⟨rfl, rfl⟩)
    fun _ => ?_
  exact .bind ((setConn_sameCalls k _).records _) fun _ => .pure _

/-- A connection that is destroyed leaves the calls alone. -/
theorem destroyDetachedConnectionIfUnowned_sameCalls (k : ConnId) :
    Exec.Within SameCalls (destroyDetachedConnectionIfUnowned k) :=
  .bind (conn_sameCalls k) fun _ =>
    .ite (.bind (.modify fun _ => rfl) fun _ => setConn_sameCalls k _) (.pure _)

end Proc

end GrpcLite
