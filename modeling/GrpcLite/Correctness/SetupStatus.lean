import GrpcLite.Drivers.Wrapper
import GrpcLite.Refinement.Timing

/-!
# The status of a failed connection setup

`connect_tcp` tells its caller through `errno` whether the deadline expired. What
`errno` holds behind it is what the last call that touched it left there, so a
system call that fails with `ETIMEDOUT` is reported like an expired deadline. Both
drivers report by the deadline unless that happens.
-/

namespace GrpcLite

/-- The `errno` behind an answer to a call of the connection setup. -/
def Answer.leaves (errno : Nat) : Answer → Nat
  | .setupCall call ok value left =>
    if call = .getsockopt ∧ ok = true ∧ value ≠ 0 then value else left.getD errno
  | .poll rv _ left _ => if rv < 0 then left else if rv = 0 then Errno.etimedout else errno
  | _ => errno

/-- The `errno` behind the answers to a connection setup. -/
def leftErrno (errno : Nat) (answers : List Answer) : Nat := answers.foldl Answer.leaves errno

/-- The status code goes by the deadline. -/
def ClassifiedByDeadline (deadlineAbsUs now : Nat) (code : Int) : Prop :=
  code = if 0 < deadlineAbsUs ∧ deadlineAbsUs ≤ now then Status.deadlineExceeded
    else Status.unavailable

namespace Env

/-- The call has a deadline and it has passed. -/
def Late (deadlineAbsUs : Nat) (env : Env) : Prop := 0 < deadlineAbsUs ∧ deadlineAbsUs ≤ env.now

instance (deadlineAbsUs : Nat) (env : Env) : Decidable (env.Late deadlineAbsUs) :=
  inferInstanceAs (Decidable (_ ∧ _))

/-- What a part of the connection setup does to `errno`: unless the deadline has passed,
it is the one that the answers leave. -/
structure Leaves (deadlineAbsUs : Nat) (env env' : Env) : Prop where
  /-- The clock does not go back. -/
  now : env.now ≤ env'.now
  /-- The answers taken and the error number they leave. -/
  answers : ∃ answers, env'.history = env.history ++ answers ∧
    (env'.Late deadlineAbsUs ∨ env'.errno = leftErrno env.errno answers)

variable {deadline : Nat} {env env' : Env}

theorem Late.later (h : env.Late deadline) (hnow : env.now ≤ env'.now) : env'.Late deadline :=
  ⟨h.1, Nat.le_trans h.2 hnow⟩

instance : Std.Refl (Leaves deadline) :=
  ⟨fun _ => ⟨Nat.le_refl _, [], (List.append_nil _).symm, .inr rfl⟩⟩

instance : IsTrans Env (Leaves deadline) := by
  refine ⟨fun env env₁ env₂ h h' => ⟨Nat.le_trans h.now h'.now, ?_⟩⟩
  obtain ⟨answers, hhist, herrno⟩ := h.answers
  obtain ⟨answers', hhist', herrno'⟩ := h'.answers
  refine ⟨answers ++ answers', by rw [hhist', hhist, List.append_assoc], ?_⟩
  rcases herrno' with hlate | herrno'
  · exact .inl hlate
  rcases herrno with hlate | herrno
  · exact .inl (hlate.later h'.now)
  · right
    rw [herrno', herrno, leftErrno, leftErrno, leftErrno, List.foldl_append]

/-- A part that ends behind the deadline may leave any error number. -/
theorem Leaves.late (h : env.Grows env') (hlate : env'.Late deadline) :
    env.Leaves deadline env' := by
  obtain ⟨answers, hhist⟩ := h.history
  exact ⟨h.now, answers, hhist.symm, .inl hlate⟩

/-- One answer and the error number behind it. -/
theorem Leaves.one {answer : Answer} (hnow : env.now ≤ env'.now)
    (hhist : env'.history = env.history ++ [answer])
    (herrno : env'.errno = answer.leaves env.errno) : env.Leaves deadline env' :=
  ⟨hnow, [answer], hhist, .inr herrno⟩

/-- The answer to a call of the setup. -/
theorem setupCall_some {call : SetupCall} {ok : Bool} {value : Nat}
    (h : setupCall call env = some ((ok, value), env')) : ∃ left rest,
      env.script = .setupCall call ok value left :: rest ∧
      env' = { env with
        script := rest, history := env.history ++ [.setupCall call ok value left]
        errno := left.getD env.errno } := by
  obtain ⟨⟨ok', value', left⟩, env₁, hask, h⟩ := Exec.bind_some.mp h
  obtain ⟨answer, rest, hscript, hselect, rfl⟩ := ask_some hask
  obtain ⟨_, env₂, hset, h⟩ := Exec.bind_some.mp h
  obtain rfl := Exec.modify_some.mp hset
  obtain ⟨hresult, rfl⟩ := Exec.pure_some.mp h
  obtain ⟨rfl, rfl⟩ := Prod.mk.inj hresult
  cases answer with
  | setupCall call' ok value left' =>
    simp only at hselect
    split at hselect
    · next hcall =>
      simp only [Option.some.injEq, Prod.mk.injEq] at hselect
      obtain ⟨rfl, rfl, rfl⟩ := hselect
      exact ⟨left', rest, by rw [hscript, hcall], by rw [hcall]⟩
    · cases hselect
  | _ => cases hselect

/-- A call other than the query of the socket error leaves the `errno` of its answer. -/
theorem setupCall_leaves {call : SetupCall} (hcall : call ≠ .getsockopt) :
    Exec.Within (Leaves deadline) (setupCall call) := by
  rintro env ⟨ok, value⟩ env' h
  obtain ⟨left, rest, -, rfl⟩ := setupCall_some h
  refine .one (Nat.le_refl _) rfl ?_
  rw [Answer.leaves, if_neg fun h => hcall h.1]

theorem monotonicUs_leaves : Exec.Within (Leaves deadline) monotonicUs := by
  intro env now env' h
  obtain ⟨elapsed, env₁, hask, h⟩ := Exec.bind_some.mp h
  obtain ⟨answer, rest, -, hselect, rfl⟩ := ask_some hask
  obtain ⟨_, env₂, helapse, h⟩ := Exec.bind_some.mp h
  obtain rfl := elapse_some.mp helapse
  obtain ⟨_, env₃, hget, h⟩ := Exec.bind_some.mp h
  obtain ⟨rfl, rfl⟩ := Exec.get_some.mp hget
  obtain ⟨-, rfl⟩ := Exec.pure_some.mp h
  cases answer with
  | clock elapsed' => exact .one (Nat.le_add_right _ _) rfl rfl
  | _ => cases hselect

theorem deadlinePassed_leaves : Exec.Within (Leaves deadline) (deadlinePassed deadline) :=
  .ite (.pure _) (.bind monotonicUs_leaves fun _ => .pure _)

/-- A deadline that is seen to have passed is late. -/
theorem deadlinePassed_late (h : deadlinePassed deadline env = some (true, env')) :
    env'.Late deadline := by
  unfold deadlinePassed at h
  split at h
  · exact absurd (Exec.pure_some.mp h).1 Bool.false_ne_true
  · next hpos =>
    obtain ⟨now, env₁, hnow, h⟩ := Exec.bind_some.mp h
    obtain ⟨hle, rfl⟩ := Exec.pure_some.mp h
    rw [monotonicUs_now hnow] at hle
    exact ⟨Nat.pos_of_ne_zero hpos, of_decide_eq_true hle⟩

theorem pollTimeoutMsForDeadline_leaves :
    Exec.Within (Leaves deadline) (pollTimeoutMsForDeadline deadline) :=
  .ite (.pure _) (.bind monotonicUs_leaves fun _ => .ite (.pure _) (.pure _))

/-- What one poll leaves behind, with the error number of an expired wait. -/
theorem poll_leaves {events : Nat} {timeoutMs rv : Int} {revents : Nat}
    (h : poll events timeoutMs env = some ((rv, revents), env')) :
    (rv ≠ 0 → env.Leaves deadline env') ∧
      (rv = 0 → env.Leaves deadline { env' with errno := Errno.etimedout }) := by
  obtain ⟨⟨rv', revents', errno, elapsed⟩, env₁, hask, h⟩ := Exec.bind_some.mp h
  obtain ⟨answer, rest, -, hselect, rfl⟩ := ask_some hask
  obtain ⟨_, env₂, helapse, h⟩ := Exec.bind_some.mp h
  obtain rfl := elapse_some.mp helapse
  obtain ⟨_, env₃, hwhen, h⟩ := Exec.bind_some.mp h
  obtain ⟨hresult, rfl⟩ := Exec.pure_some.mp h
  obtain ⟨rfl, rfl⟩ := Prod.mk.inj hresult
  cases answer with
  | poll rv₀ revents₀ errno₀ elapsed₀ =>
    obtain ⟨rfl, rfl⟩ : rv₀ = rv' ∧ errno₀ = errno := by
      simp only at hselect
      split at hselect
      · cases hselect
      · split at hselect
        · cases hselect
        · simp only [Option.some.injEq, Prod.mk.injEq] at hselect
          exact ⟨hselect.1, hselect.2.2.1⟩
    rcases Exec.when_some.mp hwhen with ⟨hneg, hset⟩ | ⟨hnn, rfl⟩
    · obtain rfl := setErrno_some.mp hset
      refine ⟨fun _ => .one (Nat.le_add_right _ _) rfl ?_, fun h0 => absurd hneg (by omega)⟩
      rw [Answer.leaves, if_pos hneg]
    · refine ⟨fun h0 => .one (Nat.le_add_right _ _) rfl ?_,
        fun h0 => .one (Nat.le_add_right _ _) rfl ?_⟩
      · rw [Answer.leaves, if_neg hnn, if_neg h0]
      · rw [Answer.leaves, if_neg hnn, if_pos h0]
  | _ => cases hselect

/-- The loop of polls leaves the `errno` of its answers, or the deadline has passed. -/
theorem pollLoop_leaves (events fuel : Nat) :
    Exec.Within (Leaves deadline) (pollLoop events deadline fuel) := by
  induction fuel with
  | zero => exact .block
  | succ fuel ih =>
    intro env ready env' h
    obtain ⟨timeoutMs, env₁, htimeout, h⟩ := Exec.bind_some.mp h
    have hpre : env.Leaves deadline env₁ := pollTimeoutMsForDeadline_leaves _ _ _ htimeout
    refine trans_of (Leaves deadline) hpre ?_
    split at h
    · next hzero =>
      -- No time is left: the deadline has passed, whatever `errno` held.
      obtain ⟨_, env₂, hset, h⟩ := Exec.bind_some.mp h
      obtain ⟨-, rfl⟩ := Exec.pure_some.mp h
      refine .late (setErrno_grows _ _ _ _ hset) ?_
      obtain rfl := setErrno_some.mp hset
      obtain ⟨-, hneg⟩ | ⟨hpos, hnow, -⟩ := pollTimeoutMsForDeadline_some htimeout
      · omega
      · exact ⟨hpos, hnow hzero⟩
    · obtain ⟨⟨rv, revents⟩, env₂, hpoll, h⟩ := Exec.bind_some.mp h
      obtain ⟨hother, hexpired⟩ := poll_leaves hpoll
      simp only at h
      split at h
      · next hrv =>
        obtain ⟨-, rfl⟩ := Exec.pure_some.mp h
        exact hother (by omega)
      · split at h
        · next hrv =>
          obtain ⟨_, env₃, hset, h⟩ := Exec.bind_some.mp h
          obtain rfl := setErrno_some.mp hset
          obtain ⟨-, rfl⟩ := Exec.pure_some.mp h
          exact hexpired hrv
        · next hrv =>
          obtain ⟨_, env₃, hget, h⟩ := Exec.bind_some.mp h
          obtain ⟨rfl, rfl⟩ := Exec.get_some.mp hget
          refine trans_of (Leaves deadline) (hother hrv) ?_
          split at h
          · obtain ⟨-, rfl⟩ := Exec.pure_some.mp h
            exact refl_of (Leaves deadline) _
          · exact ih _ _ _ h

/-- The wait for a connection in progress leaves the error of the socket. -/
theorem connectInProgress_leaves : Exec.Within (Leaves deadline) (connectInProgress deadline) := by
  refine .bind (.bind .get fun _ => pollLoop_leaves pollOut _) fun ready => .ite (.pure _) ?_
  intro env connected env' h
  obtain ⟨⟨ok, socketError⟩, env₁, hcall, h⟩ := Exec.bind_some.mp h
  obtain ⟨left, rest, -, rfl⟩ := setupCall_some hcall
  simp only at h
  split at h
  · next hok =>
    obtain ⟨-, rfl⟩ := Exec.pure_some.mp h
    refine .one (Nat.le_refl _) rfl ?_
    rw [Answer.leaves, if_neg fun hleft => by simp [hleft.2.1] at hok]
  split at h
  · next hzero =>
    obtain ⟨-, rfl⟩ := Exec.pure_some.mp h
    refine .one (Nat.le_refl _) rfl ?_
    rw [Answer.leaves, if_neg fun hleft => hleft.2.2 hzero]
  · next hok hzero =>
    -- The socket error takes the place of what `getsockopt` left.
    obtain ⟨_, env₂, hset, h⟩ := Exec.bind_some.mp h
    obtain rfl := setErrno_some.mp hset
    obtain ⟨-, rfl⟩ := Exec.pure_some.mp h
    refine .one (Nat.le_refl _) rfl ?_
    rw [Answer.leaves, if_pos ⟨rfl, by simpa using hok, hzero⟩]

theorem connectPending_leaves : Exec.Within (Leaves deadline) (connectPending deadline) :=
  .bind .get fun _ => .ite connectInProgress_leaves (.pure _)

/-- The loop over the addresses leaves what its last answers do. -/
theorem connectAddresses_leaves (addresses : Nat) :
    Exec.Within (Leaves deadline) (connectAddresses deadline addresses) := by
  induction addresses with
  | zero => exact .pure _
  | succ addresses ih =>
    have hclose : Exec.Within (Leaves deadline) (setupCall .close) := setupCall_leaves (by decide)
    refine .bind (setupCall_leaves (by decide)) fun _ => .ite ih ?_
    refine .bind (setupCall_leaves (by decide)) fun _ => .ite (.bind hclose fun _ => ih) ?_
    refine .bind (setupCall_leaves (by decide)) fun _ => .ite (.pure _) ?_
    refine .bind connectPending_leaves fun _ => .ite (.pure _) ?_
    refine .bind deadlinePassed_leaves fun _ => .ite (.bind hclose fun _ => .pure _) ?_
    exact .bind hclose fun _ => ih

/-- Behind `connect_tcp` the deadline has passed, or `errno` is what its calls left. -/
theorem connectTcp_leaves : Exec.Within (Leaves deadline) (connectTcp deadline) := by
  refine .bind (setupCall_leaves (by decide)) fun resolved => .ite (.pure _) ?_
  intro env connected env' h
  obtain ⟨late, env₁, hlate, h⟩ := Exec.bind_some.mp h
  refine trans_of (Leaves deadline) (deadlinePassed_leaves _ _ _ hlate) ?_
  cases late with
  | true =>
    obtain ⟨_, env₂, hfree, h⟩ := Exec.bind_some.mp h
    obtain ⟨_, env₃, hset, h⟩ := Exec.bind_some.mp h
    obtain ⟨-, rfl⟩ := Exec.pure_some.mp h
    have hfreed : env₁.Leaves deadline env₂ := setupCall_leaves (by decide) _ _ _ hfree
    obtain ⟨answers, hhist, -⟩ := hfreed.answers
    obtain rfl := setErrno_some.mp hset
    exact ⟨hfreed.now, answers, hhist, .inl ((deadlinePassed_late hlate).later hfreed.now)⟩
  | false =>
    have hrest : Exec.Within (Leaves deadline) (do
        let connected ← connectAddresses deadline resolved.2
        let _ ← setupCall .freeaddrinfo
        return connected) :=
      .bind (connectAddresses_leaves _) fun _ =>
        .bind (setupCall_leaves (by decide)) fun _ => .pure _
    exact hrest _ _ _ h

end Env

namespace Proc

variable {req : CallRequest} {w w₁ w' : World} {env : Env}

/-- The lookup whose connection setup ends in `connect_tcp`. -/
theorem getPersistentConnection_connect {key : Bytes} {deadline : Nat} {ssl : Bool}
    {result : Except SetupError ConnId}
    (hadopt : adoptPersistentConnection key deadline w = some (none, w₁))
    (hroom : w₁.cache.length < maxPersistentConnections)
    (hconnect : Env.connectTcp deadline w₁.env = some (false, env))
    (h : getPersistentConnection key deadline ssl w = some (result, w')) :
    w' = { w₁ with env := env } ∧ result =
      .error (if env.errno = Errno.etimedout then .deadlineExceeded else .connectFailed) := by
  obtain ⟨_, w₂, hadopt', h⟩ := Exec.bind_some.mp h
  obtain ⟨rfl, rfl⟩ := Prod.mk.inj (Option.some.inj (hadopt.symm.trans hadopt'))
  simp only at h
  rw [Exec.get_bind_run, if_neg (by omega)] at h
  obtain ⟨created, w₃, hcreate, h⟩ := Exec.bind_some.mp h
  obtain ⟨connected, w₄, htcp, hcreate⟩ := Exec.bind_some.mp hcreate
  obtain ⟨env', hrun, rfl⟩ := Exec.zoom_some.mp htcp
  obtain ⟨rfl, rfl⟩ := Prod.mk.inj (Option.some.inj (hconnect.symm.trans hrun))
  simp only [Bool.not_false, if_true] at hcreate
  rw [Exec.get_bind_run] at hcreate
  obtain ⟨rfl, rfl⟩ := Exec.pure_some.mp hcreate
  obtain ⟨rfl, rfl⟩ := Exec.pure_some.mp h
  exact ⟨rfl, rfl⟩

/-- The report of a failed setup: the code by the clock at the report and the error. -/
theorem setupFailureStatus_some {error : SetupError} {deadline : Nat} {code : Int}
    (h : setupFailureStatus error deadline w = some (code, w')) :
    w.env.now ≤ w'.env.now ∧
      code = if w'.env.Late deadline ∨ error = .deadlineExceeded then Status.deadlineExceeded
        else Status.unavailable := by
  unfold setupFailureStatus at h
  split at h
  · next hpos =>
    obtain ⟨now, w₂, hnow, h⟩ := Exec.bind_some.mp h
    unfold monotonicUs at hnow
    obtain ⟨env, hclock, rfl⟩ := Exec.zoom_some.mp hnow
    obtain ⟨rfl, rfl⟩ := Exec.pure_some.mp h
    refine ⟨(Env.monotonicUs_grows _ _ _ hclock).now, ?_⟩
    rw [Env.monotonicUs_now hclock]
    rfl
  · next hpos =>
    obtain ⟨rfl, rfl⟩ := Exec.pure_some.mp h
    refine ⟨Nat.le_refl _, ?_⟩
    unfold setupFailureCode Env.Late
    simp only [Nat.lt_irrefl, hpos, false_and, gt_iff_lt]

/-- The code by which both drivers report a failure of `connect_tcp` goes by the deadline
exactly if it has passed or `errno` holds something else than `ETIMEDOUT`. -/
theorem classified_iff {deadline : Nat} {error : SetupError} {code : Int}
    (hconnect : Env.connectTcp deadline w₁.env = some (false, env))
    (herror : error = if env.errno = Errno.etimedout then .deadlineExceeded else .connectFailed)
    (h : setupFailureStatus error deadline { w₁ with env := env } = some (code, w')) :
    ClassifiedByDeadline deadline w'.env.now code ↔
      w'.env.Late deadline ∨
        leftErrno w₁.env.errno (env.history.drop w₁.env.history.length) ≠ Errno.etimedout := by
  obtain ⟨hnow, rfl⟩ := setupFailureStatus_some h
  obtain ⟨-, answers, hhist, hleft⟩ := Env.connectTcp_leaves _ _ _ hconnect
  rw [hhist, List.drop_left]
  by_cases hlate : w'.env.Late deadline
  · have hcode : ClassifiedByDeadline deadline w'.env.now Status.deadlineExceeded :=
      (if_pos hlate).symm
    rw [if_pos (.inl hlate)]
    exact ⟨fun _ => .inl hlate, fun _ => hcode⟩
  · have herrno : env.errno = leftErrno w₁.env.errno answers :=
      hleft.resolve_left fun h => hlate (h.later hnow)
    have hcode (code : Int) :
        ClassifiedByDeadline deadline w'.env.now code ↔ code = Status.unavailable := by
      unfold ClassifiedByDeadline
      rw [if_neg (show ¬(0 < deadline ∧ deadline ≤ w'.env.now) from hlate)]
    rw [hcode, ← herrno]
    by_cases htimeout : env.errno = Errno.etimedout
    · rw [if_pos htimeout] at herror
      rw [if_pos (.inr herror)]
      exact ⟨fun h => absurd h (by decide), fun h => (h.elim hlate fun h => h htimeout).elim⟩
    · rw [if_neg htimeout] at herror
      have hneither : ¬(w'.env.Late deadline ∨ error = .deadlineExceeded) := by
        rintro (h | h)
        · exact hlate h
        · exact nomatch herror.symm.trans h
      rw [if_neg hneither]
      exact ⟨fun _ => .inr htimeout, fun _ => rfl⟩

/-- Both drivers on a lookup that fails in `connect_tcp`: the report goes by the deadline
exactly if it has passed by then or the last call that touched `errno` left something else
than `ETIMEDOUT`. -/
theorem setupFailure_classified_iff {retryAttempt : Nat}
    (hadopt : adoptPersistentConnection req.key req.deadlineAbsUs w = some (none, w₁))
    (hroom : w₁.cache.length < maxPersistentConnections)
    (hconnect : Env.connectTcp req.deadlineAbsUs w₁.env = some (false, env)) :
    (∀ left outcome w', unaryAttempts req retryAttempt (left + 1) w = some (outcome, w') →
      ∃ code error, outcome = .setupFailure code error ∧
        (ClassifiedByDeadline req.deadlineAbsUs w'.env.now code ↔
          w'.env.Late req.deadlineAbsUs ∨
            leftErrno w₁.env.errno (env.history.drop w₁.env.history.length) ≠
              Errno.etimedout)) ∧
      ∀ outcome w', req.inputsValid = true → req.message.length ≤ 2 ^ 32 - 1 →
        serverStreamingCallOpenResource req retryAttempt w = some (outcome, w') →
        ∃ code details, outcome = .ok (.setupFailure code details) ∧
          (ClassifiedByDeadline req.deadlineAbsUs w'.env.now code ↔
            w'.env.Late req.deadlineAbsUs ∨
              leftErrno w₁.env.errno (env.history.drop w₁.env.history.length) ≠
                Errno.etimedout) := by
  constructor
  · intro left outcome w' h
    obtain ⟨result, w₂, hget, h⟩ := Exec.bind_some.mp h
    obtain ⟨rfl, rfl⟩ := getPersistentConnection_connect hadopt hroom hconnect hget
    obtain ⟨code, w₃, hstatus, h⟩ := Exec.bind_some.mp h
    obtain ⟨rfl, rfl⟩ := Exec.pure_some.mp h
    exact ⟨code, _, rfl, classified_iff hconnect rfl hstatus⟩
  · intro outcome w' hvalid hlength h
    unfold serverStreamingCallOpenResource at h
    simp only [hvalid, Bool.not_true, Bool.false_eq_true, if_false] at h
    rw [if_neg (by omega)] at h
    obtain ⟨result, w₂, hget, h⟩ := Exec.bind_some.mp h
    obtain ⟨rfl, rfl⟩ := getPersistentConnection_connect hadopt hroom hconnect hget
    obtain ⟨code, w₃, hstatus, h⟩ := Exec.bind_some.mp h
    obtain ⟨rfl, rfl⟩ := Exec.pure_some.mp h
    exact ⟨code, _, rfl, classified_iff hconnect rfl hstatus⟩

/-- A request without a deadline. -/
private def plainRequest : CallRequest := { key := [] }

/-- A setup to one address whose `connect` fails with an error number. -/
private def refusedSetup (errno : Nat) : World where
  env := { script := [
    .setupCall .getaddrinfo true 1 none, .setupCall .socket true 3 none,
    .setupCall .setNonblocking true 0 none, .setupCall .connect false 0 (some errno),
    .setupCall .close true 0 none, .setupCall .freeaddrinfo true 0 none] }

/-- A refused connection is reported by the deadline. -/
theorem setupFailure_refused :
    (∃ code error w', unaryAttempts plainRequest 0 2 (refusedSetup 111) =
      some (.setupFailure code error, w') ∧ ClassifiedByDeadline 0 w'.env.now code) ∧
    ∃ code details w', serverStreamingCallOpenResource plainRequest 0 (refusedSetup 111) =
      some (.ok (.setupFailure code details), w') ∧ ClassifiedByDeadline 0 w'.env.now code := by
  have hadopt : adoptPersistentConnection plainRequest.key plainRequest.deadlineAbsUs
      (refusedSetup 111) = some (none, refusedSetup 111) := rfl
  have hconnect : (Env.connectTcp plainRequest.deadlineAbsUs (refusedSetup 111).env).map
      (fun r => (r.1, leftErrno 0 r.2.history)) = some (false, 111) := by decide +kernel
  obtain ⟨⟨_, env⟩, hrun, heq⟩ := Option.map_eq_some_iff.mp hconnect
  obtain ⟨rfl, herrno⟩ := Prod.mk.inj heq
  have hleft : leftErrno 0 env.history ≠ Errno.etimedout := by
    intro h
    exact absurd (herrno.symm.trans h) (by decide)
  obtain ⟨hunary, hstream⟩ := setupFailure_classified_iff hadopt (by decide) hrun
  constructor
  · have hsome : (unaryAttempts plainRequest 0 2 (refusedSetup 111)).isSome := by decide +kernel
    obtain ⟨⟨outcome, w'⟩, hreport⟩ := Option.isSome_iff_exists.mp hsome
    obtain ⟨code, error, rfl, hiff⟩ := hunary 1 _ _ hreport
    exact ⟨code, error, w', hreport, hiff.mpr (.inr hleft)⟩
  · have hsome : (serverStreamingCallOpenResource plainRequest 0 (refusedSetup 111)).isSome := by
      decide +kernel
    obtain ⟨⟨outcome, w'⟩, hreport⟩ := Option.isSome_iff_exists.mp hsome
    obtain ⟨code, details, rfl, hiff⟩ := hstream _ _ rfl (by decide) hreport
    exact ⟨code, details, w', hreport, hiff.mpr (.inr hleft)⟩

/-- Without a deadline, an address whose `connect` fails with `ETIMEDOUT` is reported as an
expired deadline. -/
theorem setupFailure_etimedout :
    (∃ error w', unaryAttempts plainRequest 0 2 (refusedSetup Errno.etimedout) =
      some (.setupFailure Status.deadlineExceeded error, w')) ∧
    (∃ details w', serverStreamingCallOpenResource plainRequest 0
      (refusedSetup Errno.etimedout) =
        some (.ok (.setupFailure Status.deadlineExceeded details), w')) ∧
    ∀ now, ¬ClassifiedByDeadline plainRequest.deadlineAbsUs now Status.deadlineExceeded := by
  refine ⟨⟨.deadlineExceeded, _, rfl⟩, ⟨.connection .deadlineExceeded, _, rfl⟩, fun now => ?_⟩
  intro h
  rw [ClassifiedByDeadline, if_neg fun hlate => absurd hlate.1 (by decide)] at h
  exact absurd h (by decide)

end Proc

end GrpcLite
