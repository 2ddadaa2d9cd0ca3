import GrpcLite.Refinement.Exchanges

/-!
# Runs of the unary driver

Every run of the unary driver that has a result is a behaviour: what it has recorded
of its call is the schedule of that behaviour, and what it reports is a function of
it.
-/

namespace GrpcLite

namespace Proc

open World

/-! ## The end of a round -/

/-- The connection died under the call. -/
theorem breakCall_records {k : ConnId} {c : CallId} {errorCode : Int} {w w' : World} {u : Unit}
    (h : breakCall k c errorCode w = some (u, w')) :
    ∃ errno detail, w'.calls c = (w.calls c).inputAll [.connectionBroken errno detail] := by
  obtain ⟨_, w₁, hdie, h⟩ := Exec.bind_some.mp h
  rw [← setConn_sameCalls k _ _ _ _ hdie]
  exact noteConnectionBroken_records h

theorem endUnaryRead_records {k : ConnId} {c : CallId} {nread : Int} {w w' : World} {u : Unit}
    (h : endUnaryRead k c nread w = some (u, w')) :
    ∃ ending, EndsLoop ending ∧ w'.calls c = (w.calls c).inputAll ending := by
  obtain ⟨late, w₁, hnote, h⟩ := Exec.bind_some.mp h
  obtain ⟨notes, hnotes, hcall₁⟩ := noteReadFailure_records k c nread _ _ _ hnote c
  have hkind : ∀ i ∈ notes, i.inEnding = true := fun i hi =>
    CallInput.inEnding_of_send (.inr (hnotes i hi))
  split at h
  · obtain ⟨_, w₂, hmark, hcancel⟩ := Exec.bind_some.mp h
    obtain ⟨now, hcall₂⟩ := markTimedOut_records hmark
    obtain ⟨rest, hrest, hcall'⟩ := cancelGrpcCallStream_records c _ _ _ hcancel c
    refine ⟨notes ++ ([.timedOut now] ++ rest), .after (.expired (fun i hi =>
      CallInput.inEnding_of_cancel (hrest i hi)) now) hkind, ?_⟩
    rw [hcall', hcall₂, hcall₁, TrackedCall.inputAll_append, TrackedCall.inputAll_append]
  · rw [Exec.get_bind_run] at h
    obtain ⟨errno, detail, hcall'⟩ := breakCall_records h
    refine ⟨notes ++ [.connectionBroken errno detail], .after (.broken errno detail) hkind, ?_⟩
    rw [hcall', hcall₁, TrackedCall.inputAll_append]

/-! ## The loop -/

/-- The receive loop: what it records is the schedule of a behaviour. -/
theorem unaryRecvLoop_behaves {k : ConnId} {c : CallId} (fuel : Nat) {w w' : World}
    (h : unaryRecvLoop k c fuel w = some (true, w')) :
    ∃ b : Behaviour, b.Ends ∧ b.OwnReads ∧
      w'.calls c = (w.calls c).inputAll ((w.calls c).call.unaryInputs b.ending b.rounds) := by
  induction fuel generalizing w with
  | zero => exact (Exec.block_some.mp h).elim
  | succ fuel ih =>
    obtain ⟨call, w₀, hcall, h⟩ := Exec.bind_some.mp h
    rw [Proc.call, Exec.get_bind_run] at hcall
    obtain ⟨rfl, rfl⟩ := Exec.pure_some.mp hcall
    -- a round that ends the loop of an open stream
    have hlast {ending : List CallInput} (hopen : ¬(w.calls c).call.streamClosed = true)
        (hends : EndsLoop ending) (hcall : w'.calls c = (w.calls c).inputAll ending) :
        ∃ b : Behaviour, b.Ends ∧ b.OwnReads ∧
          w'.calls c = (w.calls c).inputAll ((w.calls c).call.unaryInputs b.ending b.rounds) := by
      refine ⟨⟨[], ending, fun _ hr => absurd hr List.not_mem_nil⟩, hends,
        fun _ hr => absurd hr List.not_mem_nil, ?_⟩
      rw [GrpcCall.unaryInputs, if_neg hopen]
      exact hcall
    by_cases hopen : (w.calls c).call.streamClosed = true
    · rw [if_pos hopen] at h
      obtain ⟨-, rfl⟩ := Exec.pure_some.mp h
      refine ⟨⟨[], [.connectionBroken 0 none], fun _ hr => absurd hr List.not_mem_nil⟩,
        .broken 0 none, fun _ hr => absurd hr List.not_mem_nil, ?_⟩
      rw [GrpcCall.unaryInputs, if_pos hopen, TrackedCall.inputAll_nil]
    rw [if_neg hopen] at h
    obtain ⟨_, w₁, hlog, h⟩ := Exec.bind_some.mp h
    obtain ⟨nread, w₂, hrecv, h⟩ := Exec.bind_some.mp h
    have hcalls₂ : w₂.calls = w.calls :=
      (onPort_sameCalls k _ _ _ _ hrecv).trans (log_sameCalls k _ _ _ _ hlog)
    split at h
    · obtain ⟨_, w₃, hend, h⟩ := Exec.bind_some.mp h
      obtain ⟨-, rfl⟩ := Exec.pure_some.mp h
      obtain ⟨ending, hends, hcall'⟩ := endUnaryRead_records hend
      exact hlast hopen hends (hcalls₂ ▸ hcall')
    obtain ⟨rv, w₃, hfeed, h⟩ := Exec.bind_some.mp h
    obtain ⟨is, his, hcall₃⟩ := feedSession_records hfeed
    rw [hcalls₂] at hcall₃
    split at h
    · obtain ⟨_, w₄, -, h⟩ := Exec.bind_some.mp h
      exact absurd (Exec.pure_some.mp h).1 Bool.false_ne_true
    obtain ⟨rv', w₄, hflush, h⟩ := Exec.bind_some.mp h
    split at h
    · obtain ⟨_, w₅, hbreak, h⟩ := Exec.bind_some.mp h
      obtain ⟨-, rfl⟩ := Exec.pure_some.mp h
      obtain ⟨notes, hnotes, hcall₄⟩ := flushAfterRead_allRecords k c _ _ _ hflush c
      obtain ⟨errno, detail, hcall'⟩ := breakCall_records hbreak
      have hends : EndsLoop (is ++ (notes ++ [.connectionBroken errno detail])) :=
        .after (.after (.broken errno detail) fun i hi => CallInput.inEnding_of_send (hnotes i hi))
          fun i hi => CallInput.inEnding_of_inRound (CallInput.inRound_of_ofFeed (his i hi).1)
      refine hlast hopen hends ?_
      rw [hcall', hcall₄, hcall₃, TrackedCall.inputAll_append, TrackedCall.inputAll_append]
    next hrv =>
    obtain ⟨js, hjs, hcall₄⟩ := flushAfterRead_records k c _ _ _ hflush
      (Classical.not_not.mp hrv) c
    obtain ⟨b, hends, hown, hcall'⟩ := ih h
    have hround : ∀ i ∈ is ++ js, i.inRound = true ∧ i.ownReader = true := by
      intro i hi
      rcases List.mem_append.mp hi with hi | hi
      · exact ⟨CallInput.inRound_of_ofFeed (his i hi).1, (his i hi).2⟩
      · exact ⟨CallInput.inRound_of_ofSend (hjs i hi), CallInput.ownReader_of_ofSend (hjs i hi)⟩
    refine ⟨⟨(is ++ js) :: b.rounds, b.ending, ?_⟩, hends, ?_, ?_⟩
    · exact List.forall_mem_cons.mpr ⟨fun i hi => (hround i hi).1, b.inRound⟩
    · exact List.forall_mem_cons.mpr ⟨fun i hi => (hround i hi).2, hown⟩
    · have hcall : w₄.calls c = (w.calls c).inputAll (is ++ js) := by
        rw [hcall₄, hcall₃, TrackedCall.inputAll_append]
      rw [GrpcCall.unaryInputs, if_neg hopen, TrackedCall.inputAll_append, ← hcall, hcall', hcall]
      rfl

/-! ## The exchange -/

theorem clearConnectionCallOwner_records {P : CallInput → Prop} (k : ConnId) (c : CallId)
    (hregistered : P .unregistered) (howner : P (.ownerCleared false)) :
    Exec.Within (Records P) (clearConnectionCallOwner k c) := by
  refine .bind ((call_sameCalls c).records _) fun call => .ite (.pure _) ?_
  refine .bind (unregisterGrpcCallStream_records c hregistered) fun _ => ?_
  refine .bind ((call_sameCalls c).records _) fun _ => .bind (.when fun _ => ?_) fun _ =>
    input_records c howner
  exact (setConn_sameCalls k _).records _

/-- The result adds only accounts to the record, and the mark of a message that was cut off. -/
theorem buildUnaryResult_records {k : ConnId} {c : CallId} {r : UnaryResult} {w w' : World}
    (h : buildUnaryResult k c w = some (r, w')) :
    ∃ post, (∀ i ∈ post, i.accounts = true ∨ i = .truncated) ∧
      (w'.calls c).inputs = (w.calls c).inputs ++ post := by
  obtain ⟨call, w₀, hcall, h⟩ := Exec.bind_some.mp h
  rw [Proc.call, Exec.get_bind_run] at hcall
  obtain ⟨rfl, rfl⟩ := Exec.pure_some.mp hcall
  obtain ⟨_, w₁, hwhen, h⟩ := Exec.bind_some.mp h
  obtain ⟨detail, w₂, hdetail, h⟩ := Exec.bind_some.mp h
  obtain ⟨rfl, rfl⟩ := connectionDetail_some hdetail
  obtain ⟨_, w₃, hread, h⟩ := Exec.bind_some.mp h
  rw [Proc.call, Exec.get_bind_run] at hread
  obtain ⟨rfl, rfl⟩ := Exec.pure_some.mp hread
  obtain ⟨_, w₄, hread, h⟩ := Exec.bind_some.mp h
  rw [Proc.call, Exec.get_bind_run] at hread
  obtain ⟨rfl, rfl⟩ := Exec.pure_some.mp hread
  obtain ⟨_, w₅, htake, h⟩ := Exec.bind_some.mp h
  obtain ⟨_, w₆, hread, h⟩ := Exec.bind_some.mp h
  rw [Proc.call, Exec.get_bind_run] at hread
  obtain ⟨rfl, rfl⟩ := Exec.pure_some.mp hread
  obtain ⟨_, w₇, hclear, h⟩ := Exec.bind_some.mp h
  obtain ⟨_, w₈, hrelease, h⟩ := Exec.bind_some.mp h
  obtain ⟨_, w₉, hdestroy, h⟩ := Exec.bind_some.mp h
  obtain ⟨-, rfl⟩ := Exec.pure_some.mp h
  have hrecords : Records (fun i => i.accounts = true ∨ i = .truncated) w w₇ :=
    trans_of (Records _) (Exec.Within.when (fun _ => input_records c (.inr rfl)) _ _ _ hwhen)
      (trans_of (Records _) (input_records c (.inl rfl) _ _ _ htake)
        (clearConnectionCallOwner_records k c (.inl rfl) (.inl rfl) _ _ _ hclear))
  obtain ⟨post, hpost, hcall⟩ := hrecords c
  refine ⟨post, hpost, ?_⟩
  have hreleased : (w₈.calls c).inputs = (w₇.calls c).inputs := by
    obtain ⟨_, w₁₀, hlog, hset⟩ := Exec.bind_some.mp hrelease
    rw [Exec.modify_some.mp hset, Exec.modify_some.mp hlog]
    change (Function.update w₇.calls c { w₇.calls c with live := false } c).inputs = _
    rw [Function.update_self]
  rw [destroyDetachedConnectionIfUnowned_sameCalls k _ _ _ hdestroy, hreleased, hcall]
  rfl

/-- The record of a call and the reported result belong to a behaviour. -/
structure UnaryRun (start : GrpcCall) (record : List CallInput) (r : UnaryResult)
    (b : Behaviour) : Prop where
  /-- The loop ends properly. -/
  ends : b.Ends
  /-- The driver reads for itself. -/
  ownReads : b.OwnReads
  /-- The record is the schedule of the behaviour, followed by what building the result adds. -/
  record : ∃ post, (∀ i ∈ post, i.accounts = true ∨ i = .truncated) ∧
    record = start.unaryInputs b.ending b.rounds ++ post
  /-- The result is a function of the behaviour. -/
  result : r = b.unaryResult start r.status.details

/-- A loop that has ended is followed by its result. -/
theorem UnaryRun.of_loop {k : ConnId} {c : CallId} {r : UnaryResult} {w w₁ w' : World}
    {b : Behaviour} (hends : b.Ends) (hown : b.OwnReads) (hfresh : (w.calls c).inputs = [])
    (hcall : w₁.calls c = (w.calls c).inputAll ((w.calls c).call.unaryInputs b.ending b.rounds))
    (h : buildUnaryResult k c w₁ = some (r, w')) :
    UnaryRun (w.calls c).call (w'.calls c).inputs r b := by
  obtain ⟨post, hpost, hinputs⟩ := buildUnaryResult_records h
  obtain ⟨hstatus, hbody, hinitial, htrailing, houtcome⟩ := buildUnaryResult_report h
  refine ⟨hends, hown, ⟨post, hpost, ?_⟩, ?_⟩
  · rw [hinputs, hcall, TrackedCall.inputAll, hfresh, List.nil_append]
  · rw [hcall] at hstatus hbody hinitial htrailing houtcome
    cases r with
    | mk body status initialMetadata trailingMetadata outcome =>
      simp only at hstatus hbody hinitial htrailing houtcome
      subst hstatus hbody hinitial htrailing houtcome
      rfl

/-- The driver from the submitted request on. -/
theorem unaryExchange_run {k : ConnId} {c : CallId} {r : UnaryResult} {w w' : World}
    (h : unaryExchange k c w = some (.ok r, w')) (hfresh : (w.calls c).inputs = [])
    (hopen : (w.calls c).call.streamClosed = false) :
    ∃ b, UnaryRun (w.calls c).call (w'.calls c).inputs r b := by
  have habandon {failure : Failure} {w₁ : World}
      (h : abandonUnaryCall k c failure w₁ = some (.ok r, w')) : False := by
    obtain ⟨_, w₂, -, h⟩ := Exec.bind_some.mp h
    obtain ⟨_, w₃, -, h⟩ := Exec.bind_some.mp h
    obtain ⟨_, w₄, -, h⟩ := Exec.bind_some.mp h
    cases (Exec.pure_some.mp h).1
  have hnot : ¬(w.calls c).call.streamClosed = true := by
    rw [hopen]
    exact Bool.false_ne_true
  obtain ⟨rv, w₁, hsubmit, h⟩ := Exec.bind_some.mp h
  split at h
  · obtain ⟨_, w₂, -, h⟩ := Exec.bind_some.mp h
    exact (habandon h).elim
  obtain ⟨registered, w₂, hregister, h⟩ := Exec.bind_some.mp h
  split at h
  · obtain ⟨_, w₃, -, h⟩ := Exec.bind_some.mp h
    obtain ⟨_, w₄, -, h⟩ := Exec.bind_some.mp h
    exact (habandon h).elim
  obtain ⟨is, his, hcall₂⟩ := trans_of (Records _) (submitRequest_records k c _ _ _ hsubmit)
    (registerGrpcCallStream_records k c _ _ _ hregister) c
  obtain ⟨rv', w₃, hsend, h⟩ := Exec.bind_some.mp h
  split at h
  · -- the request could not be sent
    obtain ⟨_, w₄, hbreak, h⟩ := Exec.bind_some.mp h
    obtain ⟨r', w₅, hbuild, h⟩ := Exec.bind_some.mp h
    obtain ⟨hr, rfl⟩ := Exec.pure_some.mp h
    obtain rfl := Except.ok.inj hr
    obtain ⟨notes, hnotes, hcall₃⟩ := sendPendingH2Frames_allRecords k c _ _ _ hsend c
    obtain ⟨errno, detail, hcall₄⟩ := breakCall_records hbreak
    refine ⟨⟨[], is ++ (notes ++ [.connectionBroken errno detail]),
      fun _ hr => absurd hr List.not_mem_nil⟩, .of_loop ?_ (fun _ hr => absurd hr List.not_mem_nil)
      hfresh ?_ hbuild⟩
    · exact .after (.after (.broken errno detail) fun i hi =>
        CallInput.inEnding_of_send (hnotes i hi)) fun i hi =>
          CallInput.inEnding_of_inRound (his i hi).1
    · rw [GrpcCall.unaryInputs, if_neg hnot, hcall₄, hcall₃, hcall₂, TrackedCall.inputAll_append,
        TrackedCall.inputAll_append]
  next hrv =>
  rw [Exec.get_bind_run] at h
  obtain ⟨done, w₄, hloop, h⟩ := Exec.bind_some.mp h
  split at h
  · next hdone =>
    obtain rfl : done = true := hdone
    obtain ⟨r', w₅, hbuild, h⟩ := Exec.bind_some.mp h
    obtain ⟨hr, rfl⟩ := Exec.pure_some.mp h
    obtain rfl := Except.ok.inj hr
    obtain ⟨js, hjs, hcall₃⟩ := sendPendingH2Frames_records k _ _ _ _ hsend
      (Classical.not_not.mp hrv) c
    obtain ⟨b, hends, hown, hcall₄⟩ := unaryRecvLoop_behaves _ hloop
    -- opening the call is the first round
    have hround : ∀ i ∈ is ++ js, i.inRound = true ∧ i.ownReader = true := by
      intro i hi
      rcases List.mem_append.mp hi with hi | hi
      · exact his i hi
      · exact ⟨CallInput.inRound_of_ofSend (hjs i hi), CallInput.ownReader_of_ofSend (hjs i hi)⟩
    refine ⟨⟨(is ++ js) :: b.rounds, b.ending, List.forall_mem_cons.mpr
      ⟨fun i hi => (hround i hi).1, b.inRound⟩⟩, .of_loop hends
      (List.forall_mem_cons.mpr ⟨fun i hi => (hround i hi).2, hown⟩) hfresh ?_ hbuild⟩
    have hcall : w₃.calls c = (w.calls c).inputAll (is ++ js) := by
      rw [hcall₃, hcall₂, TrackedCall.inputAll_append]
    rw [GrpcCall.unaryInputs, if_neg hnot, TrackedCall.inputAll_append, ← hcall, hcall₄, hcall]
    rfl
  · obtain ⟨_, w₅, -, h⟩ := Exec.bind_some.mp h
    exact (habandon h).elim

/-- An attempt whose deadline has passed before it starts. -/
theorem UnaryRun.expired {k : ConnId} {c : CallId} {r : UnaryResult} {w w₁ w' : World} {now : Nat}
    {notes : List CallInput} (hkind : ∀ i ∈ notes, i.inEnding = true)
    (hfresh : (w.calls c).inputs = []) (hopen : (w.calls c).call.streamClosed = false)
    (hcall : w₁.calls c = (w.calls c).inputAll (.timedOut now :: notes))
    (h : buildUnaryResult k c w₁ = some (r, w')) :
    ∃ b, UnaryRun (w.calls c).call (w'.calls c).inputs r b := by
  refine ⟨⟨[], .timedOut now :: notes, fun _ hr => absurd hr List.not_mem_nil⟩,
    .of_loop (.expired hkind now) (fun _ hr => absurd hr List.not_mem_nil) hfresh ?_ h⟩
  rw [GrpcCall.unaryInputs, if_neg (by rw [hopen]; exact Bool.false_ne_true), hcall]

/-- Every run of the unary driver that has a result is a behaviour: the record of its call is the
schedule of the behaviour, and the message, the status code, the metadata and the outcome that it
reports are functions of the behaviour. -/
theorem unaryCallPerformOnConnection_run {k : ConnId} {req : CallRequest} {retryAttempt : Nat}
    {r : UnaryResult} {w w' : World}
    (h : unaryCallPerformOnConnection k req retryAttempt w = some (.ok r, w')) :
    ∃ b, UnaryRun (req.unaryCall k retryAttempt) (w'.calls w.nextCall).inputs r b := by
  obtain ⟨conn, w₀, hconn, h⟩ := Exec.bind_some.mp h
  rw [Proc.conn, Exec.get_bind_run] at hconn
  obtain ⟨rfl, rfl⟩ := Exec.pure_some.mp hconn
  split at h
  · cases (Exec.pure_some.mp h).1
  split at h
  · cases (Exec.pure_some.mp h).1
  obtain ⟨c, w₁, hnew, h⟩ := Exec.bind_some.mp h
  rw [newCall, Exec.get_bind_run] at hnew
  obtain ⟨_, w₂, hset, hnew⟩ := Exec.bind_some.mp hnew
  obtain ⟨rfl, rfl⟩ := Exec.pure_some.mp hnew
  have hstart : w₂.calls w.nextCall =
      { call := req.unaryCall k retryAttempt, start := req.unaryCall k retryAttempt, live := true } := by
    rw [Exec.set_some.mp hset]
    exact Function.update_self ..
  have hfresh : ∀ w₃ : World, w₃.calls = w₂.calls → (w₃.calls w.nextCall).inputs = [] ∧
      (w₃.calls w.nextCall).call = req.unaryCall k retryAttempt := by
    intro w₃ hcalls
    rw [hcalls, hstart]
    exact ⟨rfl, rfl⟩
  obtain ⟨left, w₃, hleft, h⟩ := Exec.bind_some.mp h
  have hcalls₃ : w₃.calls = w₂.calls := onEnv_sameCalls _ _ _ _ hleft
  obtain ⟨hfresh₃, hcall₃⟩ := hfresh w₃ hcalls₃
  split at h
  · obtain ⟨_, w₄, hmark, h⟩ := Exec.bind_some.mp h
    obtain ⟨r', w₅, hbuild, h⟩ := Exec.bind_some.mp h
    obtain ⟨hr, rfl⟩ := Exec.pure_some.mp h
    obtain rfl := Except.ok.inj hr
    obtain ⟨now, hcall₄⟩ := markTimedOut_records hmark
    rw [← hcall₃]
    exact UnaryRun.expired (fun _ hi => absurd hi List.not_mem_nil) hfresh₃
      (by rw [hcall₃]; rfl) hcall₄ hbuild
  obtain ⟨left', w₄, hleft', h⟩ := Exec.bind_some.mp h
  have hcalls₄ : w₄.calls = w₂.calls := (onEnv_sameCalls _ _ _ _ hleft').trans hcalls₃
  obtain ⟨hfresh₄, hcall₄⟩ := hfresh w₄ hcalls₄
  rw [← hcall₄]
  split at h
  · obtain ⟨_, w₅, hmark, h⟩ := Exec.bind_some.mp h
    obtain ⟨_, w₆, hclear, h⟩ := Exec.bind_some.mp h
    obtain ⟨r', w₇, hbuild, h⟩ := Exec.bind_some.mp h
    obtain ⟨hr, rfl⟩ := Exec.pure_some.mp h
    obtain rfl := Except.ok.inj hr
    obtain ⟨now, hcall₅⟩ := markTimedOut_records hmark
    obtain ⟨notes, hnotes, hcall₆⟩ := clearConnectionCallOwner_records
      (P := fun i => i.inEnding = true) k w.nextCall rfl rfl _ _ _ hclear w.nextCall
    have hcall : w₆.calls w.nextCall =
        (w₄.calls w.nextCall).inputAll (.timedOut now :: notes) := by
      rw [hcall₆, hcall₅]
      exact (TrackedCall.inputAll_append _ _ _).symm
    exact UnaryRun.expired hnotes hfresh₄ (by rw [hcall₄]; rfl) hcall hbuild
  split at h
  · obtain ⟨_, w₅, -, h⟩ := Exec.bind_some.mp h
    obtain ⟨_, w₆, -, h⟩ := Exec.bind_some.mp h
    cases (Exec.pure_some.mp h).1
  · exact unaryExchange_run h hfresh₄ (by rw [hcall₄]; rfl)

/-- A unary call on a new connection. -/
private def unaryOnNew : Proc (Except Failure UnaryResult) := do
  match ← getPersistentConnection [] 0 false with
  | .ok k => unaryCallPerformOnConnection k { key := [] } 0
  | .error _ => Exec.block

/-- A server that answers with a message and a status of its own. -/
private def answeringServer : Env :=
  World.exchangeWith [.recv 10 0, .memRecv [
    .stream 1 (.header .response HeaderName.status (ascii ['2', '0', '0'])),
    .stream 1 (.header .response HeaderName.contentType (ascii "application/grpc".toList)),
    .stream 1 (.headersEnd .response false), .stream 1 (.data [0, 0, 0, 0, 1, 7]),
    .stream 1 (.header .headers HeaderName.grpcStatus (ascii ['5'])),
    .stream 1 (.headersEnd .headers true), .stream 1 (.closed 0)] 10, .wantWrite false]

theorem unaryCallPerformOnConnection_run_answered :
    ∃ k w r w' b, unaryCallPerformOnConnection k { key := [] } 0 w = some (.ok r, w') ∧
      r.status.code = 5 ∧
      UnaryRun (({ key := [] } : CallRequest).unaryCall k 0) (w'.calls w.nextCall).inputs r b := by
  have hrun : (unaryOnNew { env := answeringServer }).map
      (fun r => r.1.toOption.map (·.status.code)) = some (some 5) := by decide +kernel
  obtain ⟨⟨result, w'⟩, hrun, hcode⟩ := Option.map_eq_some_iff.mp hrun
  obtain ⟨conn, w, -, h⟩ := Exec.bind_some.mp hrun
  cases conn with
  | error => exact (Exec.block_some.mp h).elim
  | ok k =>
    cases result with
    | error => cases hcode
    | ok r =>
      obtain ⟨b, hb⟩ := unaryCallPerformOnConnection_run h
      exact ⟨k, w, r, w', b, h, Option.some.inj hcode, hb⟩

end Proc

end GrpcLite
