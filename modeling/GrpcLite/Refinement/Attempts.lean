import GrpcLite.Correctness.StreamRuns
import GrpcLite.Refinement.Evidence
import GrpcLite.Refinement.Stillness

/-!
# Attempts

One attempt at a request creates one call and submits its request at most once. A
pull creates and submits nothing, and what it returns stands in the record of its call.
-/

namespace GrpcLite

namespace World

/-- One request is submitted. -/
structure Submits (S : Set CallId) (w w' : World) : Prop where
  /-- No call is created. -/
  nextCall : w'.nextCall = w.nextCall
  /-- There is one submission more. -/
  submissions : w'.submissions.length = w.submissions.length + 1
  /-- No message is delivered. -/
  settled : ∀ c, (w'.calls c).settled = (w.calls c).settled
  /-- Other calls stay alive. -/
  live : ∀ c ∉ S, (w'.calls c).live = (w.calls c).live

variable {S : Set CallId}

theorem Submits.still {w w₁ w' : World} (h : w.Submits S w₁) (hstill : w₁.Still S w') :
    w.Submits S w' :=
  ⟨hstill.nextCall.trans h.nextCall, by rw [hstill.submissions, h.submissions],
    fun c => (hstill.settled c).trans (h.settled c),
    fun c hc => (hstill.live c hc).trans (h.live c hc)⟩

theorem Still.submits {w w₁ w' : World} (hstill : w.Still S w₁) (h : w₁.Submits S w') :
    w.Submits S w' :=
  ⟨h.nextCall.trans hstill.nextCall, by rw [h.submissions, hstill.submissions],
    fun c => (h.settled c).trans (hstill.settled c),
    fun c hc => (h.live c hc).trans (hstill.live c hc)⟩

/-- A call is created from a fresh record, and its request is submitted at most once. -/
structure Attempt (start : GrpcCall) (w w' : World) : Prop where
  /-- One call is created. -/
  nextCall : w'.nextCall = w.nextCall + 1
  /-- There is at most one submission more. -/
  submissions : w'.submissions.length ≤ w.submissions.length + 1
  /-- The call is fresh and has delivered nothing. -/
  fresh : (w'.calls w.nextCall).settled = (start, 0, [])
  /-- Other calls deliver nothing and stay alive. -/
  others : ∀ c, c ≠ w.nextCall → (w'.calls c).settled = (w.calls c).settled ∧
    (w'.calls c).live = (w.calls c).live

variable {start : GrpcCall} {w w₁ w' : World}

theorem Still.attempt (hstill : w.Still ∅ w₁) (h : Attempt start w₁ w') : Attempt start w w' := by
  have hnext := hstill.nextCall
  refine ⟨h.nextCall.trans (by rw [hnext]), by rw [← hstill.submissions]; exact h.submissions,
    by rw [← hnext]; exact h.fresh, fun c hc => ?_⟩
  obtain ⟨hsettled, hlive⟩ := h.others c (by rw [hnext]; exact hc)
  exact ⟨hsettled.trans (hstill.settled c), hlive.trans (hstill.live c (Set.notMem_empty c))⟩

/-- A new call in front of what happens to it. -/
theorem Attempt.of_newCall {c : CallId} (hnew : Proc.newCall start w = some (c, w₁))
    (h : w₁.Still {c} w' ∨ w₁.Submits {c} w') : c = w.nextCall ∧ Attempt start w w' := by
  rw [Proc.newCall, Exec.get_bind_run] at hnew
  obtain ⟨_, w₂, hset, hnew⟩ := Exec.bind_some.mp hnew
  obtain ⟨rfl, rfl⟩ := Exec.pure_some.mp hnew
  have hw := Exec.set_some.mp hset
  have hnext : w₂.nextCall = w.nextCall + 1 := by rw [hw]
  have hsub : w₂.submissions = w.submissions := by
    rw [hw]
    rfl
  have hself : w₂.calls w.nextCall = { call := start, start := start, live := true } := by
    rw [hw]
    exact Function.update_self ..
  have hothers (c : CallId) (hc : c ≠ w.nextCall) : w₂.calls c = w.calls c := by
    rw [hw]
    exact Function.update_of_ne hc ..
  have hlive (hkept : ∀ c ∉ ({w.nextCall} : Set CallId), (w'.calls c).live = (w₂.calls c).live)
      (c : CallId) (hc : c ≠ w.nextCall) : (w'.calls c).live = (w.calls c).live := by
    rw [hkept c hc, hothers c hc]
  have hsettled (hkept : ∀ c, (w'.calls c).settled = (w₂.calls c).settled) (c : CallId)
      (hc : c ≠ w.nextCall) : (w'.calls c).settled = (w.calls c).settled := by
    rw [hkept c, hothers c hc]
  have hfresh (hkept : ∀ c, (w'.calls c).settled = (w₂.calls c).settled) :
      (w'.calls w.nextCall).settled = (start, 0, []) := by
    rw [hkept, hself]
    rfl
  refine ⟨rfl, ?_⟩
  rcases h with h | h
  · exact ⟨h.nextCall.trans hnext, by rw [h.submissions, hsub]; omega, hfresh h.settled,
      fun c hc => ⟨hsettled h.settled c hc, hlive h.live c hc⟩⟩
  · exact ⟨h.nextCall.trans hnext, by rw [h.submissions, hsub], hfresh h.settled,
      fun c hc => ⟨hsettled h.settled c hc, hlive h.live c hc⟩⟩

end World

namespace Proc

open World

variable {S : Set CallId}

/-! ## Submissions -/

theorem submitRequest_submits {k : ConnId} {c : CallId} {rv : Int} {w w' : World}
    (h : submitRequest k c w = some (rv, w')) : w.Submits S w' := by
  obtain ⟨_, w₁, hlog, h⟩ := Exec.bind_some.mp h
  obtain rfl := Exec.modify_some.mp hlog
  have hstill : Still S (w.log k .submitRequest) w' := by
    refine (?_ : Exec.Within (Still S) _) _ _ _ h
    exact .bind (conn_still k) fun _ => .bind (onEnv_still _) fun _ => .bind (input_still c _)
      fun _ => .bind (.when fun _ => .bind (setConn_still k _) fun _ => setConn_still k _)
      fun _ => .pure _
  have hlogged : w.Submits S (w.log k .submitRequest) := by
    refine ⟨rfl, ?_, fun _ => rfl, fun _ _ => rfl⟩
    simp only [World.submissions, World.log, List.filter_append, List.length_append]
    rfl
  exact hlogged.still hstill

/-! ## The unary driver -/

theorem abandonUnaryCall_still (k : ConnId) {c : CallId} (failure : Failure) (hc : c ∈ S) :
    Exec.Within (Still S) (abandonUnaryCall k c failure) :=
  .bind (clearConnectionCallOwner_still k c) fun _ => .bind (releaseCall_still hc) fun _ =>
    .bind (destroyDetachedConnectionIfUnowned_still k) fun _ => .pure _

theorem breakCall_still (k : ConnId) (c : CallId) (errorCode : Int) :
    Exec.Within (Still S) (breakCall k c errorCode) :=
  .bind (setConn_still k _) fun _ => noteConnectionBroken_still c

theorem buildUnaryResult_still (k : ConnId) {c : CallId} (hc : c ∈ S) :
    Exec.Within (Still S) (buildUnaryResult k c) :=
  .bind (call_still c) fun _ => .bind (.when fun _ => input_still c _) fun _ =>
    .bind (connectionDetail_still c) fun _ => .bind (call_still c) fun _ =>
    .bind (call_still c) fun _ => .bind (input_still c _) fun _ => .bind (call_still c) fun _ =>
    .bind (clearConnectionCallOwner_still k c) fun _ => .bind (releaseCall_still hc) fun _ =>
    .bind (destroyDetachedConnectionIfUnowned_still k) fun _ => .pure _

theorem unaryRecvLoop_still (k : ConnId) (c : CallId) (fuel : Nat) :
    Exec.Within (Still S) (unaryRecvLoop k c fuel) := by
  induction fuel with
  | zero => exact .block
  | succ fuel ih =>
    refine .bind (call_still c) fun _ => .ite (.pure _) <| .bind (log_still k (by decide)) fun _ =>
      .bind (onPort_still k _) fun _ => .ite (.bind ?_ fun _ => .pure _) <|
      .bind (feedSession_still k c) fun _ => .ite (.bind (setConn_still k _) fun _ => .pure _) <|
      .bind (flushAfterRead_still k c) fun _ => .ite (.bind (breakCall_still k c _) fun _ => .pure _)
      ih
    exact .bind (noteReadFailure_still k c _) fun _ => .ite
      (.bind (markTimedOut_still c) fun _ => cancelGrpcCallStream_still c) <|
      .bind .get fun _ => breakCall_still k c _

/-- The driver submits its request once. -/
theorem unaryExchange_submits {k : ConnId} {c : CallId} {r : Except Failure UnaryResult}
    {w w' : World} (h : unaryExchange k c w = some (r, w')) : w.Submits {c} w' := by
  obtain ⟨rv, w₁, hsubmit, h⟩ := Exec.bind_some.mp h
  have hc : c ∈ ({c} : Set CallId) := rfl
  have hrest : Exec.Within (Still {c}) (if rv < 0 then do
      noteSubmitFailure k rv
      abandonUnaryCall k c .submitFailed
    else do
      if !(← registerGrpcCallStream k c) then
        markGrpcCallStreamRegistrationFailed k c
        detachPersistentConnectionByPtr k
        abandonUnaryCall k c .registerFailed
      else
        let rv ← sendPendingH2Frames k (some c)
        if rv ≠ 0 then
          breakCall k c rv
          return .ok (← buildUnaryResult k c)
        else if ← unaryRecvLoop k c ((← get).env.script.length + 1) then
          return .ok (← buildUnaryResult k c)
        else
          detachPersistentConnectionByPtr k
          abandonUnaryCall k c .memRecvFailed) := by
    refine .ite ?_ <| .bind (registerGrpcCallStream_still k c) fun _ => .ite ?_ <|
      .bind (sendPendingH2Frames_still k _) fun _ => .ite ?_ <| .bind .get fun _ =>
      .bind (unaryRecvLoop_still k c _) fun _ => .ite ?_ ?_
    · exact .bind (.when fun _ => .bind (setConn_still k _) fun _ =>
        detachPersistentConnectionByPtr_still k) fun _ => abandonUnaryCall_still k _ hc
    · exact .bind (markGrpcCallStreamRegistrationFailed_still k c) fun _ =>
        .bind (detachPersistentConnectionByPtr_still k) fun _ => abandonUnaryCall_still k _ hc
    · exact .bind (breakCall_still k c _) fun _ => .bind (buildUnaryResult_still k hc) fun _ =>
        .pure _
    · exact .bind (buildUnaryResult_still k hc) fun _ => .pure _
    · exact .bind (detachPersistentConnectionByPtr_still k) fun _ => abandonUnaryCall_still k _ hc
  exact (submitRequest_submits hsubmit).still (hrest _ _ _ h)

/-- The unary driver makes one attempt, or it throws before it. -/
theorem unaryCallPerformOnConnection_attempt {k : ConnId} {req : CallRequest} {retryAttempt : Nat}
    {r : Except Failure UnaryResult} {w w' : World}
    (h : unaryCallPerformOnConnection k req retryAttempt w = some (r, w')) :
    (w.Still ∅ w' ∧ ∃ failure, r = .error failure) ∨ Attempt (req.unaryCall k retryAttempt) w w' := by
  obtain ⟨conn, w₀, hconn, h⟩ := Exec.bind_some.mp h
  have hstill₀ : w.Still ∅ w₀ := conn_still k _ _ _ hconn
  split at h
  · obtain ⟨rfl, rfl⟩ := Exec.pure_some.mp h
    exact .inl ⟨hstill₀, _, rfl⟩
  split at h
  · obtain ⟨rfl, rfl⟩ := Exec.pure_some.mp h
    exact .inl ⟨hstill₀, _, rfl⟩
  obtain ⟨c, w₁, hnew, h⟩ := Exec.bind_some.mp h
  refine .inr (hstill₀.attempt (Attempt.of_newCall hnew ?_).2)
  obtain ⟨left, w₂, hleft, h⟩ := Exec.bind_some.mp h
  have hstill₂ : w₁.Still {c} w₂ := onEnv_still _ _ _ _ hleft
  split at h
  · have hrest : Exec.Within (Still {c}) (do
        markTimedOut c
        return Except.ok (ε := Failure) (← buildUnaryResult k c)) :=
      .bind (markTimedOut_still c) fun _ => .bind (buildUnaryResult_still k rfl) fun _ => .pure _
    exact .inl (trans_of (Still _) hstill₂ (hrest _ _ _ h))
  obtain ⟨left', w₃, hleft', h⟩ := Exec.bind_some.mp h
  have hstill₃ := trans_of (Still _) hstill₂ (onEnv_still _ _ _ _ hleft')
  split at h
  · have hrest : Exec.Within (Still {c}) (do
        markTimedOut c
        clearConnectionCallOwner k c
        return Except.ok (ε := Failure) (← buildUnaryResult k c)) :=
      .bind (markTimedOut_still c) fun _ => .bind (clearConnectionCallOwner_still k c) fun _ =>
        .bind (buildUnaryResult_still k rfl) fun _ => .pure _
    exact .inl (trans_of (Still _) hstill₃ (hrest _ _ _ h))
  split at h
  · have hrest : Exec.Within (Still {c}) (do
        clearConnectionCallOwner k c
        releaseCall c
        return (Except.error .invalidMetadata : Except Failure UnaryResult)) :=
      .bind (clearConnectionCallOwner_still k c) fun _ => .bind (releaseCall_still rfl) fun _ => .pure _
    exact .inl (trans_of (Still _) hstill₃ (hrest _ _ _ h))
  · exact .inr (hstill₃.submits (unaryExchange_submits h))

/-! ## The streaming driver -/

theorem failOpen_still {c : CallId} (code : Int) (details : SetupDetails) (hc : c ∈ S) :
    Exec.Within (Still S) (failOpen c code details) :=
  .bind (destroyServerStreamingCallState_still hc) fun _ => .pure _

theorem openExchange_submits {k : ConnId} {c : CallId} {r : Except Failure OpenResult}
    {w w' : World} (h : openExchange k c w = some (r, w')) : w.Submits {c} w' := by
  obtain ⟨rv, w₁, hsubmit, h⟩ := Exec.bind_some.mp h
  have hc : c ∈ ({c} : Set CallId) := rfl
  have hrest : Exec.Within (Still {c}) (if rv < 0 then do
      noteSubmitFailure k rv
      failOpen c Status.unavailable .submitFailed
    else do
      if !(← registerGrpcCallStream k c) then
        markGrpcCallStreamRegistrationFailed k c
        failOpen c Status.unavailable .registerFailed
      else
        let rv ← sendPendingH2Frames k (some c)
        if rv ≠ 0 then
          let timedOut := (← call c).timedOut
          markConnectionDead k rv
          if timedOut then failOpen c Status.deadlineExceeded .deadlineExceeded
          else failOpen c Status.unavailable .sendFailed
        else return .ok (.opened c)) := by
    refine .ite ?_ <| .bind (registerGrpcCallStream_still k c) fun _ => .ite ?_ <|
      .bind (sendPendingH2Frames_still k _) fun _ => .ite ?_ (.pure _)
    · exact .bind (.when fun _ => .bind (setConn_still k _) fun _ =>
        detachPersistentConnectionByPtr_still k) fun _ => failOpen_still _ _ hc
    · exact .bind (markGrpcCallStreamRegistrationFailed_still k c) fun _ => failOpen_still _ _ hc
    · exact .bind (call_still c) fun _ => .bind (setConn_still k _) fun _ =>
        .ite (failOpen_still _ _ hc) (failOpen_still _ _ hc)
  exact (submitRequest_submits hsubmit).still (hrest _ _ _ h)

/-- Opening a stream is one attempt, unless it ends before. -/
theorem openOnConnection_attempt {k : ConnId} {req : CallRequest} {retryAttempt : Nat}
    {r : Except Failure OpenResult} {w w' : World}
    (h : openOnConnection k req retryAttempt w = some (r, w')) :
    (w.Still ∅ w' ∧ ∀ c, r ≠ .ok (.opened c)) ∨
      Attempt (req.startCall k retryAttempt) w w' ∧ ∀ c, r = .ok (.opened c) → c = w.nextCall := by
  obtain ⟨left, w₁, hleft, h⟩ := Exec.bind_some.mp h
  have hstill₁ : w.Still ∅ w₁ := onEnv_still _ _ _ _ hleft
  split at h
  · obtain ⟨rfl, rfl⟩ := Exec.pure_some.mp h
    exact .inl ⟨hstill₁, fun c he => by cases he⟩
  obtain ⟨c, w₂, hnew, h⟩ := Exec.bind_some.mp h
  refine .inr ?_
  obtain ⟨left', w₃, hleft', h⟩ := Exec.bind_some.mp h
  have hstill₃ : w₂.Still {c} w₃ := onEnv_still _ _ _ _ hleft'
  split at h
  · obtain ⟨hc, hattempt⟩ := Attempt.of_newCall hnew
      (.inl (trans_of (Still _) hstill₃ (failOpen_still _ _ (Set.mem_singleton c) _ _ _ h)))
    obtain ⟨_, w₄, -, h⟩ := Exec.bind_some.mp h
    obtain ⟨rfl, -⟩ := Exec.pure_some.mp h
    exact ⟨hstill₁.attempt hattempt, fun c he => by cases he⟩
  split at h
  · obtain ⟨_, w₄, hdestroy, h⟩ := Exec.bind_some.mp h
    obtain ⟨rfl, rfl⟩ := Exec.pure_some.mp h
    obtain ⟨hc, hattempt⟩ := Attempt.of_newCall hnew
      (.inl (trans_of (Still _) hstill₃
        (destroyServerStreamingCallState_still (Set.mem_singleton c) _ _ _ hdestroy)))
    exact ⟨hstill₁.attempt hattempt, fun c he => by cases he⟩
  · obtain ⟨hc, hattempt⟩ := Attempt.of_newCall hnew
      (.inr (hstill₃.submits (openExchange_submits h)))
    refine ⟨hstill₁.attempt hattempt, fun c' he => ?_⟩
    subst he
    rw [(openExchange_records h).1, hc, hstill₁.nextCall]

/-- `server_streaming_call_open_resource` makes one attempt at most. -/
theorem serverStreamingCallOpenResource_attempt {req : CallRequest} {retryAttempt : Nat}
    {r : Except Failure OpenResult} {w w' : World}
    (h : serverStreamingCallOpenResource req retryAttempt w = some (r, w')) :
    (w.Still ∅ w' ∧ ∀ c, r ≠ .ok (.opened c)) ∨
      ∃ k, Attempt (req.startCall k retryAttempt) w w' ∧
        ∀ c, r = .ok (.opened c) → c = w.nextCall := by
  unfold serverStreamingCallOpenResource at h
  split at h
  · obtain ⟨rfl, rfl⟩ := Exec.pure_some.mp h
    exact .inl ⟨Std.Refl.refl w, fun c he => by cases he⟩
  split at h
  · obtain ⟨rfl, rfl⟩ := Exec.pure_some.mp h
    exact .inl ⟨Std.Refl.refl w, fun c he => by cases he⟩
  obtain ⟨got, w₁, hget, h⟩ := Exec.bind_some.mp h
  have hstill₁ : w.Still ∅ w₁ := getPersistentConnection_still _ _ _ _ _ _ hget
  cases got with
  | error error =>
    obtain ⟨code, w₂, hstatus, h⟩ := Exec.bind_some.mp h
    obtain ⟨rfl, rfl⟩ := Exec.pure_some.mp h
    have hclock : Exec.Within (Still ∅) (setupFailureStatus error req.deadlineAbsUs) :=
      .ite (.bind (onEnv_still _) fun _ => .pure _) (.pure _)
    exact .inl ⟨trans_of (Still _) hstill₁ (hclock _ _ _ hstatus), fun c he => by cases he⟩
  | ok k =>
    rcases openOnConnection_attempt h with ⟨hstill, hno⟩ | ⟨hattempt, hopened⟩
    · exact .inl ⟨trans_of (Still _) hstill₁ hstill, hno⟩
    · refine .inr ⟨k, hstill₁.attempt hattempt, fun c he => ?_⟩
      rw [hopened c he, hstill₁.nextCall]

/-! ## Pulls -/

/-- The end of a pull reads the outcome from the record of its call. -/
theorem serverStreamingCallNextResource_outcome {c : CallId} {w w' : World}
    {status : StatusResult} {initialMetadata trailingMetadata : List (Bytes × Bytes)}
    {outcome : AttemptOutcome}
    (h : serverStreamingCallNextResource c w =
      some (.done status initialMetadata trailingMetadata outcome, w'))
    (hr : (w.calls c).Replayed) :
    ∃ inputs, inputs <+: (w'.calls c).inputs ∧
      outcome = attemptOutcomeFromCall ((w.calls c).start.applyAll inputs).checkStream
        (decide ((w.calls c).deliveredMessages > 0)) := by
  rw [serverStreamingCallNextResource, Exec.get_bind_run] at h
  obtain ⟨_, w₁, hloop, h⟩ := Exec.bind_some.mp h
  have hstill₁ : w.Still ∅ w₁ := pullLoop_still c _ _ _ _ hloop
  -- the loop only adds to the record
  have hreplayed₁ : (w₁.calls c).Replayed := by
    by_cases hdone : (w.calls c).completed = true
    · rw [pullLoop_completed _ hloop hdone]
      exact hr
    · obtain ⟨rounds, hran⟩ := pullLoop_records _ hloop (Bool.not_eq_true _ ▸ hdone)
      rcases hran.ends with ⟨hcall, -⟩ | ⟨-, ending, -, hcall⟩
      · rw [hcall]
        exact hr.inputAll _
      · rw [hcall]
        exact hr.inputAll _
  obtain ⟨_, w₂, hread, h⟩ := Exec.bind_some.mp h
  rw [Proc.call, Exec.get_bind_run] at hread
  obtain ⟨rfl, rfl⟩ := Exec.pure_some.mp hread
  obtain ⟨_, w₃, hwhen, h⟩ := Exec.bind_some.mp h
  obtain ⟨call, w₄, hcall, h⟩ := Exec.bind_some.mp h
  rw [Proc.call, Exec.get_bind_run] at hcall
  obtain ⟨rfl, rfl⟩ := Exec.pure_some.mp hcall
  have hbehind : w₁.Still ∅ w₃ ∧ (w₃.calls c).Replayed := by
    obtain ⟨-, hterm⟩ | ⟨-, rfl⟩ := Exec.when_some.mp hwhen
    · obtain ⟨_, w₄, hterm, hdetach⟩ := Exec.bind_some.mp hterm
      obtain ⟨after, -, hcall₃⟩ := terminateWithCancel_records hterm
      refine ⟨trans_of (Still _) (terminateWithCancel_still c _ _ _ hterm)
        (detachUnlessUsable_still c _ _ _ hdetach), ?_⟩
      rw [detachUnlessUsable_sameCalls c _ _ _ hdetach, hcall₃]
      exact hreplayed₁.inputAll _
    · exact ⟨Std.Refl.refl _, hreplayed₁⟩
  obtain ⟨hstill₃, hreplayed₃⟩ := hbehind
  have hsettled := (trans_of (Still _) hstill₁ hstill₃).settled c
  simp only [TrackedCall.settled, Prod.mk.injEq] at hsettled
  cases hqueue : (w₃.calls c).call.responseQueue with
  | nil =>
    simp only [hqueue] at h
    obtain ⟨post, -, hinputs⟩ := finishStream_records h
    have hreport := finishStream_report h
    refine ⟨(w₃.calls c).inputs, hinputs ▸ List.prefix_append _ _, ?_⟩
    rw [← hsettled.1, ← hsettled.2.1, ← hreplayed₃]
    exact (NextResult.done.inj hreport).2.2.2
  | cons payload rest =>
    simp only [hqueue] at h
    have hpayload := popMessage_payload h
    cases hpayload

end Proc

end GrpcLite
