import GrpcLite.Refinement.Operations
import GrpcLite.Refinement.Reports
import GrpcLite.Surface.Timeval
import Mathlib.Order.WithBot

/-!
# Deadlines

The instant that the user gives becomes the absolute deadline of a call, in which
zero stands for none. An expired deadline ends a call before its request is
submitted; an instant that is not positive, or the last one there is, is no
deadline at all.
-/

namespace GrpcLite

namespace World

/-- The submissions of requests so far. -/
def submissions (w : World) : List IoRecord := w.ioLog.filter fun r => r.kind = .submitRequest

theorem Drive.submissions {k : ConnId} {w w' : World} (h : Drive k w w') :
    w'.submissions = w.submissions := by
  cases h with
  | log kind hkind =>
    simp only [World.submissions, World.log, List.filter_append]
    rw [List.filter_cons_of_neg (by simpa using hkind), List.filter_nil, List.append_nil]
  | _ => rfl

/-- No request is submitted outside a submission. -/
theorem Keeps.submissions {w w' : World} (h : Keeps w w') : w'.submissions = w.submissions := by
  induction h with
  | refl => rfl
  | tail _ hkeep ih =>
    rw [← ih]
    cases hkeep with
    | drive k hdrive => exact hdrive.submissions
    | _ => rfl

/-- The clock does not go back. -/
theorem Keeps.now_le {w w' : World} (h : Keeps w w') : w.env.now ≤ w'.env.now := by
  induction h with
  | refl => exact Nat.le_refl _
  | tail _ hkeep ih =>
    refine ih.trans ?_
    cases hkeep with
    | drive k hdrive =>
      cases hdrive with
      | quiet env conn henv => exact henv.now
      | _ => exact Nat.le_refl _
    | _ => exact Nat.le_refl _

end World

/-! ## Expired deadlines -/

/-- A deadline that has passed leaves no time. -/
theorem Env.remainingTimeoutUsForDeadline_expired {env env' : Env} {deadline : Nat}
    {remaining : Int} (h : remainingTimeoutUsForDeadline deadline env = some (remaining, env'))
    (hpos : 0 < deadline) (hpassed : deadline ≤ env.now) : remaining < 0 := by
  unfold remainingTimeoutUsForDeadline at h
  rw [if_neg (Nat.ne_of_gt hpos)] at h
  obtain ⟨now, env₁, hnow, h⟩ := Exec.bind_some.mp h
  have hread := monotonicUs_now hnow
  have hgrows := (monotonicUs_grows _ _ _ hnow).now
  rw [if_pos (by omega)] at h
  obtain ⟨rfl, -⟩ := Exec.pure_some.mp h
  decide

namespace Proc

open World

/-- A failed setup behind an expired deadline is reported as such. -/
theorem setupFailureStatus_expired {error : SetupError} {deadline : Nat} {code : Int}
    {w w' : World} (h : setupFailureStatus error deadline w = some (code, w'))
    (hpos : 0 < deadline) (hpassed : deadline ≤ w.env.now) : code = Status.deadlineExceeded := by
  unfold setupFailureStatus at h
  rw [if_pos hpos] at h
  obtain ⟨now, w₁, hnow, h⟩ := Exec.bind_some.mp h
  obtain ⟨rfl, rfl⟩ := Exec.pure_some.mp h
  rw [monotonicUs] at hnow
  obtain ⟨env, hrun, -⟩ := Exec.zoom_some.mp hnow
  have hread := Env.monotonicUs_now hrun
  have hgrows := (Env.monotonicUs_grows _ _ _ hrun).now
  rw [setupFailureCode, if_pos (.inl ⟨hpos, by omega⟩)]

/-- The status of a call that timed out before its request was submitted. -/
theorem statusCode_timedOut {call : GrpcCall} (h : call.timedOut = true)
    (detail : Option ErrorDetail) (cancelled : Bool) :
    (resolveGrpcCallStatus detail call cancelled).code = Status.deadlineExceeded := by
  rw [resolveGrpcCallStatus, statusCodeFromCall, if_pos h]

/-- A unary call behind its deadline ends before its request is submitted. -/
theorem unaryCallPerformOnConnection_expired {k : ConnId} {req : CallRequest} {retryAttempt : Nat}
    {r : Except Failure UnaryResult} {w w' : World}
    (h : unaryCallPerformOnConnection k req retryAttempt w = some (r, w')) (ho : w.Orderly)
    (hst : Stored w req.key k) (husable : (w.conns k).usable = true)
    (hlength : req.message.length ≤ 2 ^ 32 - 1) (hpos : 0 < req.deadlineAbsUs)
    (hpassed : req.deadlineAbsUs ≤ w.env.now) :
    ∃ result, r = .ok result ∧ result.status.code = Status.deadlineExceeded ∧
      result.outcome.transparentRetryableUnprocessed = false ∧ w'.submissions = w.submissions := by
  obtain ⟨conn, w₀, hconn, h⟩ := Exec.bind_some.mp h
  rw [Proc.conn, Exec.get_bind_run] at hconn
  obtain ⟨rfl, rfl⟩ := Exec.pure_some.mp hconn
  simp only [husable, Bool.not_true, Bool.false_eq_true, if_false] at h
  rw [if_neg (Nat.not_lt.mpr hlength)] at h
  obtain ⟨c, w₁, hnew, h⟩ := Exec.bind_some.mp h
  obtain ⟨hk, hdes⟩ := hst.entry ho.sound
  obtain ⟨-, ha₁, hf₁, hconns₁, hcache₁, -, hcall₁⟩ := newCall_fresh hnew ho hk
    ⟨req, retryAttempt, .inl rfl⟩
  have hsub₁ : w₁.submissions = w.submissions ∧ w₁.env = w.env := by
    rw [newCall, Exec.get_bind_run] at hnew
    obtain ⟨_, w₂, hset, hnew⟩ := Exec.bind_some.mp hnew
    obtain ⟨-, rfl⟩ := Exec.pure_some.mp hnew
    rw [Exec.set_some.mp hset]
    exact ⟨rfl, rfl⟩
  have hwait₁ : Waiting req.key c k w₁ :=
    ⟨ha₁, hf₁.attached.connection, ha₁.sound.inv.detached_of_unsubmitted hf₁.streamId,
      hst.turn hcache₁, hconns₁ ▸ hdes, hconns₁ ▸ husable,
      (ho.idle k id).steady (.of_conns hconns₁)⟩
  obtain ⟨remaining, w₂, hrem, h⟩ := Exec.bind_some.mp h
  have hneg : remaining < 0 := by
    obtain ⟨env, hrun, -⟩ := Exec.zoom_some.mp hrem
    refine Env.remainingTimeoutUsForDeadline_expired hrun hpos ?_
    rw [hsub₁.2]
    exact hpassed
  obtain ⟨hsession₂, hconns₂, hcalls₂, hlate₂⟩ := remainingTimeout_late (k := k) hrem
  have hwait₂ := hwait₁.session hsession₂ hconns₂
  rw [if_pos hneg] at h
  obtain ⟨_, w₃, hmark, h⟩ := Exec.bind_some.mp h
  obtain ⟨result, w₄, hbuild, h⟩ := Exec.bind_some.mp h
  obtain ⟨rfl, rfl⟩ := Exec.pure_some.mp h
  have hdeadline₂ : (w₂.calls c).call.deadlineAbsUs = req.deadlineAbsUs := by
    rw [hcalls₂, hcall₁]
    rfl
  obtain ⟨hsession₃, hconns₃, -⟩ := markTimedOut_session (k := k) hmark
    (hdeadline₂.symm ▸ (hlate₂ hneg).1) (hdeadline₂.symm ▸ (hlate₂ hneg).2)
  have hwait₃ := hwait₂.session hsession₃ hconns₃
  have hcall₃ : (w₃.calls c).call = { req.unaryCall k retryAttempt with timedOut := true } := by
    rw [markTimedOut, Exec.get_bind_run] at hmark
    rw [Exec.modify_some.mp hmark, input_calls_self, hcalls₂, TrackedCall.input]
    dsimp only
    rw [hcall₁]
    rfl
  obtain ⟨hleft, -⟩ := buildUnaryResult_left hbuild hwait₃.around.sound hwait₃.connection
    hwait₃.destroyed hwait₃.detached (by rw [hcall₃]; rfl)
  obtain ⟨hstatus, -, -, -, houtcome⟩ := buildUnaryResult_report hbuild
  refine ⟨result, rfl, ?_, ?_, ?_⟩
  · rw [hstatus]
    refine statusCode_timedOut ?_ _ _
    rw [hcall₃]
    rfl
  · rw [houtcome, hcall₃]
    rfl
  · have hkeeps := (hsession₂.drives.keeps.trans hsession₃.drives.keeps).trans
      hleft.gone.tidy.keeps
    rw [Keeps.submissions hkeeps, hsub₁.1]

/-- The status code that the attempts of a unary call end with; none for an exception. -/
def UnaryAttempts.code : UnaryAttempts → Option Int
  | .setupFailure code _ => some code
  | .failure _ => none
  | .result _ r => some r.status.code

theorem performUnary_expired {req : CallRequest} {r : UnaryAttempts} {w w' : World}
    (h : performUnary req w = some (r, w')) (ho : w.Orderly)
    (hlength : req.message.length ≤ 2 ^ 32 - 1) (hpos : 0 < req.deadlineAbsUs)
    (hpassed : req.deadlineAbsUs ≤ w.env.now) :
    r.code = some Status.deadlineExceeded ∧ w'.submissions = w.submissions := by
  obtain ⟨outcome, w₁, hattempts, h⟩ := Exec.bind_some.mp h
  obtain ⟨_, w₂, hevict, h⟩ := Exec.bind_some.mp h
  obtain ⟨rfl, rfl⟩ := Exec.pure_some.mp h
  obtain ⟨-, hsettle⟩ := unaryAttempts_settles hattempts rfl (.inl ho) (by omega)
  obtain ⟨got, w₃, hget, hattempts⟩ := Exec.bind_some.mp hattempts
  obtain ⟨ho₃, hund₃, hstored⟩ := getPersistentConnection_orderly hget (.inl ho)
  have hpassed₃ := hpassed.trans (Keeps.now_le hund₃.keeps)
  cases got with
  | error error =>
    obtain ⟨code, w₄, hstatus, hattempts⟩ := Exec.bind_some.mp hattempts
    obtain ⟨rfl, rfl⟩ := Exec.pure_some.mp hattempts
    obtain ⟨hkeeps, -⟩ := setupFailureStatus_orderly hstatus ho₃
    obtain ⟨-, rfl⟩ := Exec.pure_some.mp hevict
    refine ⟨?_, Keeps.submissions (hund₃.keeps.trans hkeeps)⟩
    rw [UnaryAttempts.code, setupFailureStatus_expired hstatus hpos hpassed₃]
  | ok k =>
    obtain ⟨hst₃, husable₃⟩ := hstored k rfl
    obtain ⟨attempt, w₄, hperform, hattempts⟩ := Exec.bind_some.mp hattempts
    obtain ⟨result, rfl, hcode, hretry, hsub⟩ := unaryCallPerformOnConnection_expired hperform ho₃
      hst₃ husable₃ hlength hpos hpassed₃
    simp only [hretry, Bool.not_false, if_true] at hattempts
    obtain ⟨rfl, rfl⟩ := Exec.pure_some.mp hattempts
    obtain ⟨hkeeps, -⟩ := removeUnusable_orderly hevict hsettle.1 hsettle.2
    refine ⟨congrArg some hcode, ?_⟩
    rw [Keeps.submissions hkeeps, hsub, Keeps.submissions hund₃.keeps]

/-- A server stream is not opened behind its deadline. -/
theorem serverStreamingCallOpenResource_expired {req : CallRequest} {retryAttempt : Nat}
    {r : Except Failure OpenResult} {w w' : World}
    (h : serverStreamingCallOpenResource req retryAttempt w = some (r, w')) (ho : w.Orderly)
    (hvalid : req.inputsValid = true) (hlength : req.message.length ≤ 2 ^ 32 - 1)
    (hpos : 0 < req.deadlineAbsUs) (hpassed : req.deadlineAbsUs ≤ w.env.now) :
    (∃ details, r = .ok (.setupFailure Status.deadlineExceeded details)) ∧
      w'.submissions = w.submissions := by
  unfold serverStreamingCallOpenResource at h
  rw [if_neg (by rw [hvalid]; decide), if_neg (Nat.not_lt.mpr hlength)] at h
  obtain ⟨got, w₁, hget, h⟩ := Exec.bind_some.mp h
  obtain ⟨ho₁, hund₁, hstored⟩ := getPersistentConnection_orderly hget (.inl ho)
  have hpassed₁ := hpassed.trans (Keeps.now_le hund₁.keeps)
  cases got with
  | error error =>
    obtain ⟨code, w₂, hstatus, h⟩ := Exec.bind_some.mp h
    obtain ⟨rfl, rfl⟩ := Exec.pure_some.mp h
    obtain ⟨hkeeps, -⟩ := setupFailureStatus_orderly hstatus ho₁
    refine ⟨⟨.connection error, ?_⟩, Keeps.submissions (hund₁.keeps.trans hkeeps)⟩
    rw [setupFailureStatus_expired hstatus hpos hpassed₁]
  | ok k =>
    obtain ⟨remaining, w₂, hrem, h⟩ := Exec.bind_some.mp h
    obtain ⟨hsession, -, -, -⟩ := remainingTimeout_late (k := k) hrem
    have hneg : remaining < 0 := by
      obtain ⟨env, hrun, -⟩ := Exec.zoom_some.mp hrem
      exact Env.remainingTimeoutUsForDeadline_expired hrun hpos hpassed₁
    rw [if_pos hneg] at h
    obtain ⟨rfl, rfl⟩ := Exec.pure_some.mp h
    exact ⟨⟨_, rfl⟩, Keeps.submissions (hund₁.keeps.trans hsession.drives.keeps)⟩

end Proc

/-! ## The deadlines of the user -/

namespace Timeval

/-- The absolute deadline of a call that is constructed with the instant; the top is none. -/
def effectiveDeadline (d : Timeval) : WithTop Nat :=
  if CallObj.deadlineAbsUs { key := [], deadlineUs := d.microseconds.val } = 0 then ⊤
  else (CallObj.deadlineAbsUs { key := [], deadlineUs := d.microseconds.val } : Nat)

/-- The instant is a deadline: it is positive and not the last one. -/
def isDeadline (d : Timeval) : Prop :=
  0 < d.microseconds.val ∧ d.microseconds.val ≠ CallObj.zendLongMax

theorem deadlineAbsUs_of_isDeadline {d : Timeval} (h : d.isDeadline) {call : CallObj}
    (hcall : call.deadlineUs = d.microseconds.val) :
    (call.deadlineAbsUs : Int) = d.microseconds.val := by
  obtain ⟨hpos, hmax⟩ := h
  rw [CallObj.deadlineAbsUs, hcall, if_neg (by omega)]
  omega

theorem deadlineAbsUs_of_not_isDeadline {d : Timeval} (h : ¬d.isDeadline) {call : CallObj}
    (hcall : call.deadlineUs = d.microseconds.val) : call.deadlineAbsUs = 0 := by
  rw [CallObj.deadlineAbsUs, hcall, if_pos]
  by_contra hnot
  exact h ⟨by omega, by omega⟩

/-- A call constructed with the instant, which the clock has reached, ends with DEADLINE_EXCEEDED
and does not submit its request. -/
def ExpiresUnsent (d : Timeval) : Prop :=
  ∀ (w : World) (call : CallObj) (message : Bytes), w.Reachable →
    call.deadlineUs = d.microseconds.val → d.microseconds.val ≤ w.env.now →
    call.inputsValid = true → message.length ≤ 2 ^ 32 - 1 →
    (∀ r w', Proc.performUnary (call.request message) w = some (r, w') →
      r.code = some Status.deadlineExceeded ∧ w'.submissions = w.submissions) ∧
    (∀ retryAttempt r w',
      Proc.serverStreamingCallOpenResource (call.request message) retryAttempt w = some (r, w') →
      (∃ details, r = .ok (.setupFailure Status.deadlineExceeded details)) ∧
        w'.submissions = w.submissions)

theorem expiresUnsent_of_isDeadline {d : Timeval} (h : d.isDeadline) : d.ExpiresUnsent := by
  intro w call message hreach hcall hnow hvalid hlength
  have ho := hreach.orderly
  have habs := deadlineAbsUs_of_isDeadline h hcall
  have hpos : 0 < (call.request message).deadlineAbsUs := by
    have := h.1
    change 0 < call.deadlineAbsUs
    omega
  have hpassed : (call.request message).deadlineAbsUs ≤ w.env.now := by
    change call.deadlineAbsUs ≤ w.env.now
    omega
  exact ⟨fun r w' hrun => Proc.performUnary_expired hrun ho hlength hpos hpassed,
    fun retryAttempt r w' hrun =>
      Proc.serverStreamingCallOpenResource_expired hrun ho hvalid hlength hpos hpassed⟩

/-- The exchange of a call that the server closes, behind the last instant there is. -/
private def lateExchange : Env := { World.closedExchange with now := 2 ^ 63 }

theorem not_expiresUnsent {d : Timeval} (h : ¬d.isDeadline) : ¬d.ExpiresUnsent := by
  intro hexpires
  have hrun : (Proc.performUnary { key := [] } { env := lateExchange }).map
      (fun r => r.1.code) = some (some Status.unavailable) := by decide +kernel
  obtain ⟨⟨r, w'⟩, hperform, hcode⟩ := Option.map_eq_some_iff.mp hrun
  have hmax : d.microseconds.val ≤ 2 ^ 63 := by
    have hfits : d.microseconds.val ≤ 2 ^ (64 - 1) - 1 := d.microseconds.property.2
    omega
  have hrequest : CallObj.request { key := [], deadlineUs := d.microseconds.val } [] =
      { key := [] } := by
    have habs : CallObj.deadlineAbsUs { key := [], deadlineUs := d.microseconds.val } = 0 :=
      deadlineAbsUs_of_not_isDeadline h rfl
    rw [CallObj.request, habs]
  obtain ⟨hunary, -⟩ := hexpires { env := lateExchange }
    { key := [], deadlineUs := d.microseconds.val } [] ⟨lateExchange, {}, .refl⟩ rfl hmax rfl
    (Nat.zero_le _)
  rw [hrequest] at hunary
  have hwrong := hcode.symm.trans (hunary r w' hperform).1
  exact absurd hwrong (by decide)

theorem expiresUnsent_iff (d : Timeval) : d.ExpiresUnsent ↔ d.isDeadline :=
  ⟨fun h => by_contra fun hnot => not_expiresUnsent hnot h, expiresUnsent_of_isDeadline⟩

theorem effectiveDeadline_of_isDeadline {d : Timeval} (h : d.isDeadline) :
    d.effectiveDeadline = (d.microseconds.val.toNat : WithTop Nat) := by
  have habs : (CallObj.deadlineAbsUs { key := [], deadlineUs := d.microseconds.val } : Int) =
      d.microseconds.val := deadlineAbsUs_of_isDeadline h rfl
  have hpos := h.1
  rw [effectiveDeadline, if_neg (by omega)]
  congr 1
  omega

theorem effectiveDeadline_of_not_isDeadline {d : Timeval} (h : ¬d.isDeadline) :
    d.effectiveDeadline = ⊤ := by
  rw [effectiveDeadline, if_pos (deadlineAbsUs_of_not_isDeadline h rfl)]

/-- The order of the instants is the order of the deadlines, unless the earlier one is not
positive and the later one is a deadline. -/
theorem effectiveDeadline_le_iff {d₁ d₂ : Timeval}
    (hle : d₁.microseconds.val ≤ d₂.microseconds.val) :
    d₁.effectiveDeadline ≤ d₂.effectiveDeadline ↔ 0 < d₁.microseconds.val ∨ ¬d₂.isDeadline := by
  by_cases h₂ : d₂.isDeadline
  · by_cases h₁ : d₁.isDeadline
    · rw [effectiveDeadline_of_isDeadline h₁, effectiveDeadline_of_isDeadline h₂]
      refine ⟨fun _ => .inl h₁.1, fun _ => ?_⟩
      exact WithTop.coe_le_coe.mpr (Int.toNat_le_toNat hle)
    · have hnot : ¬0 < d₁.microseconds.val := by
        intro hpos
        have hfits : d₂.microseconds.val ≤ CallObj.zendLongMax := d₂.microseconds.property.2
        have hmax := h₂.2
        exact h₁ ⟨hpos, by omega⟩
      rw [effectiveDeadline_of_not_isDeadline h₁, effectiveDeadline_of_isDeadline h₂]
      constructor
      · intro htop
        exact absurd (top_le_iff.mp htop) (WithTop.coe_ne_top)
      · rintro (hpos | hdeadline)
        · exact absurd hpos hnot
        · exact absurd h₂ hdeadline
  · rw [effectiveDeadline_of_not_isDeadline h₂]
    exact ⟨fun _ => .inr h₂, fun _ => le_top⟩

/-- When deadlines are monotone and expired ones end a call unsent: for instants in order, the
earlier one has the earlier deadline unless it is not positive and the later one is a deadline,
and a reached instant ends its call without a submission exactly when it is a deadline. -/
theorem deadlines_iff (d₁ d₂ : Timeval) :
    (d₁.microseconds.val ≤ d₂.microseconds.val →
      (d₁.effectiveDeadline ≤ d₂.effectiveDeadline ↔
        0 < d₁.microseconds.val ∨ ¬d₂.isDeadline)) ∧
    (d₁.ExpiresUnsent ↔ d₁.isDeadline) :=
  ⟨effectiveDeadline_le_iff, expiresUnsent_iff d₁⟩

/-- The first instant that is a deadline. -/
def oneMicrosecond : Timeval := ⟨⟨1, by decide⟩⟩

/-- A new connection is wanted four microseconds after that instant. -/
def lateSetup : Env where
  now := 5
  script := [.setupCall .getaddrinfo true 1 none, .clock 0, .setupCall .freeaddrinfo true 0 none,
    .clock 0]

/-- One microsecond is not later than the infinite future, and behind it a call of either kind
ends with DEADLINE_EXCEEDED and no submission. -/
theorem deadlines_reached :
    oneMicrosecond.effectiveDeadline ≤ infFuture.effectiveDeadline ∧
      oneMicrosecond.ExpiresUnsent ∧
      (Proc.performUnary (CallObj.request { key := [], deadlineUs := 1 } [])
        { env := lateSetup }).map (fun r => (r.1.code, r.2.submissions)) =
          some (some Status.deadlineExceeded, []) ∧
      (Proc.serverStreamingCallOpenResource (CallObj.request { key := [], deadlineUs := 1 } []) 0
        { env := lateSetup }).isSome = true := by
  obtain ⟨horder, hexpires⟩ := deadlines_iff oneMicrosecond infFuture
  exact ⟨(horder (by decide)).mpr (.inl (by decide)), hexpires.mpr (by unfold isDeadline; decide),
    by decide +kernel, by decide +kernel⟩

/-- The instant zero lies before one microsecond but is no deadline: a call constructed with it
has none, and at that instant it submits its request. -/
theorem zero_is_no_deadline :
    Timeval.zero.microseconds.val ≤ (⟨⟨1, by decide⟩⟩ : Timeval).microseconds.val ∧
      ¬Timeval.zero.effectiveDeadline ≤ (⟨⟨1, by decide⟩⟩ : Timeval).effectiveDeadline ∧
      (Proc.performUnary (CallObj.request { key := [], deadlineUs := 0 } [])
        { env := World.closedExchange }).map (fun r => (r.1.code, r.2.submissions.length)) =
          some (some Status.unavailable, 1) := by
  refine ⟨by decide, ?_, by decide +kernel⟩
  rw [effectiveDeadline_le_iff (by decide)]
  unfold isDeadline
  decide

end Timeval

end GrpcLite
