import GrpcLite.Refinement.Unary

/-!
# The server-streaming driver keeps the state in order

A stream that is opened owns its connection until it ends, is cancelled or is
destroyed. Each of these detaches its request first, and an unusable connection
leaves the cache before its owner lets go of it.
-/

namespace GrpcLite

namespace Proc

open World

/-! ## The end of a stream -/

/-- `state->completed = true` behind a detached request. -/
theorem markCompleted_session {k : ConnId} {c : CallId} {w w' : World} {u : Unit}
    (h : markCompleted c w = some (u, w')) (hdet : w.ledger.RequestDetached c) :
    Session k w w' ∧ w'.conns = w.conns ∧ (w'.calls c).completed = true ∧
      (w'.calls c).call = (w.calls c).call := by
  obtain rfl := Exec.modify_some.mp h
  have hself : (w.setCall c fun tc => { tc with completed := true }).calls c =
      { w.calls c with completed := true } := Function.update_self ..
  refine ⟨.of_drives (.single (.complete c hdet)) (fun c' hc' => ?_) rfl, rfl, ?_, ?_⟩
  · have hcalls : (w.setCall c fun tc => { tc with completed := true }).calls =
        Function.update w.calls c { w.calls c with completed := true } := rfl
    rw [hcalls, Function.update_apply] at hc'
    split at hc'
    · next hc => exact hc ▸ hc'
    · exact hc'
  · rw [hself]
  · rw [hself]

/-- The destructor of a stream that has a connection. -/
theorem destroyState_orderly {k : ConnId} {c : CallId} {w w' : World} {u : Unit}
    (h : destroyServerStreamingCallState c w = some (u, w')) (ha : w.Around (· = k) (· = c))
    (hat : w.Attached c k) (hdes : (w.conns k).destroyed = 0) (hp : w.Placed k)
    (hidle : w.Idle k) : Keeps w w' ∧ w'.Orderly := by
  obtain ⟨hgone, hkept, hfit⟩ :=
    destroyServerStreamingCallState_gone h ha.sound ha.settled hat hdes
  have hidle' := destroyServerStreamingCallState_idle h ha.sound hat.connection hdes hidle
  exact ⟨hgone.tidy.keeps, ha.gone hgone (hkept hp) hfit hidle'⟩

/-- The stream that opening has given exists. -/
def Opens (w : World) : Except Failure OpenResult → Prop
  | .ok (.opened c) => (w.calls c).live = true
  | _ => True

/-- A setup failure behind the creation of the state. -/
theorem failOpen_orderly {k : ConnId} {c : CallId} {code : Int} {details : SetupDetails}
    {r : Except Failure OpenResult} {w w' : World}
    (h : failOpen c code details w = some (r, w')) (ha : w.Around (· = k) (· = c))
    (hat : w.Attached c k) (hdes : (w.conns k).destroyed = 0) (hp : w.Placed k)
    (hidle : w.Idle k) : Proceeds w w' ∧ w'.Orderly ∧ Opens w' r := by
  obtain ⟨_, w₁, hdestroy, h⟩ := Exec.bind_some.mp h
  obtain ⟨rfl, rfl⟩ := Exec.pure_some.mp h
  obtain ⟨hkeeps, horder⟩ := destroyState_orderly hdestroy ha hat hdes hp hidle
  exact ⟨hkeeps.proceeds, horder, trivial⟩

/-! ## Opening -/

/-- A stream that owns its connection is in order. -/
theorem Engaged.orderly {k : ConnId} {c : CallId} {w : World} (he : w.Engaged c k)
    (ha : w.Around (· = k) (· = c)) (hp : w.Placed k) (hidle : w.Idle k) : w.Orderly := by
  obtain ⟨hkept, hfit⟩ := kept_of_owned ha.sound he.attached.connection he.owned hp
  refine (ha.settle (fun _ => hkept) hfit hidle).seat fun _ => ?_
  exact .inl ⟨k, he.attached, he.owned, he.streamId⟩

/-- `server_streaming_call_open_resource` from the submission of the request on. -/
theorem openExchange_orderly {key : Bytes} {k : ConnId} {c : CallId}
    {r : Except Failure OpenResult} {w w' : World} (h : openExchange k c w = some (r, w'))
    (ha : w.Around (· = k) (· = c)) (hf : w.Fresh c k) (hst : Stored w key k)
    (hdes : (w.conns k).destroyed = 0) (husable : (w.conns k).usable = true)
    (hidle : w.Idle k) : Proceeds w w' ∧ w'.Orderly ∧ Opens w' r := by
  have hr : w.Ready k := by
    simp only [H2Connection.usable, Bool.and_eq_true, Bool.not_eq_true'] at husable
    exact ⟨husable.1, hdes⟩
  obtain ⟨rv, w₁, hsubmit, h⟩ := Exec.bind_some.mp h
  obtain ⟨hsteps₁, ha₁, hcache₁, ⟨streams, outbound, hconn₁⟩, hrefused, htaken⟩ :=
    submitRequest_around hsubmit ha hf hr
  have hst₁ := hst.turn hcache₁
  have hclean₁ : w₁.Clean k := by
    intro hu
    rw [hconn₁] at hu ⊢
    exact hidle.clean hu
  have hr₁ : w₁.Ready k := by
    refine ⟨?_, ?_⟩
    · rw [hconn₁]
      exact hr.dead
    · rw [hconn₁]
      exact hr.destroyed
  split at h
  · next hneg =>
    obtain ⟨_, w₂, hnote, hfail⟩ := Exec.bind_some.mp h
    obtain ⟨hf₁, hconn⟩ := hrefused hneg
    have hidle₁ : w₁.Idle k := by
      unfold Idle
      rw [hconn]
      exact hidle
    rcases noteSubmitFailure_tidy hnote ha₁.sound with rfl | ⟨htidy, hre, hplace, hdead, hdes₂, -⟩
    · obtain ⟨hsteps, horder, hopens⟩ :=
        failOpen_orderly hfail ha₁ hf₁.attached hr₁.destroyed (.inl hst₁.cached) hidle₁
      exact ⟨hsteps₁.trans hsteps, horder, hopens⟩
    · obtain ⟨hsteps, horder, hopens⟩ := failOpen_orderly hfail (ha₁.move htidy hre fun c' _ => hplace c')
        (hf₁.attached.same (hplace c)) (hdes₂.trans hr₁.destroyed)
        (hre.placed (.inl hst₁.cached)) (.of_dead hdead)
      exact ⟨hsteps₁.trans ((Keeps.proceeds htidy.keeps).trans hsteps), horder, hopens⟩
  · next hnn =>
    obtain ⟨registered, w₂, hregister, h⟩ := Exec.bind_some.mp h
    obtain ⟨hsteps₂, ha₂, hcache₂, hr₂, hsteady₂, hengaged, hsubmitted⟩ :=
      registerGrpcCallStream_around hregister ha₁ (htaken hnn) hr₁
    have hto₂ := hsteps₁.trans hsteps₂
    have hst₂ := hst₁.turn hcache₂
    have hclean₂ := hclean₁.spares hsteady₂.spares
    cases registered with
    | false =>
      simp only [Bool.not_false, if_true] at h
      obtain ⟨_, w₃, hmark, h⟩ := Exec.bind_some.mp h
      obtain ⟨hsession, hdead⟩ := markGrpcCallStreamRegistrationFailed_session hmark hr₂
      obtain ⟨hsteps, horder, hopens⟩ := failOpen_orderly h (ha₂.turn hsession.turn)
        ((hsubmitted rfl).attached.drives hsession.drives)
        (hsession.drives.destroyed.trans hr₂.destroyed)
        (.inl (hst₂.turn hsession.turn.cache).cached) (.of_dead hdead)
      exact ⟨hto₂.trans ((Keeps.proceeds hsession.drives.keeps).trans hsteps), horder, hopens⟩
    | true =>
      have he₂ := hengaged rfl
      simp only [Bool.not_true, Bool.false_eq_true, if_false] at h
      obtain ⟨rv', w₃, hsend, h⟩ := Exec.bind_some.mp h
      obtain ⟨hturn, -, -⟩ := sendPendingH2Frames_turn hsend ha₂.sound hr₂.destroyed
      have ha₃ := ha₂.turn hturn
      have hst₃ := hst₂.turn hturn.cache
      have he₃ := he₂.drives hturn.drives
      have hto₃ := hto₂.trans (Keeps.proceeds hturn.drives.keeps)
      split at h
      · obtain ⟨call, w₄, hcall, h⟩ := Exec.bind_some.mp h
        rw [Proc.call, Exec.get_bind_run] at hcall
        obtain ⟨rfl, rfl⟩ := Exec.pure_some.mp hcall
        obtain ⟨_, w₄, hdie, h⟩ := Exec.bind_some.mp h
        obtain ⟨hsession, hdead⟩ := markConnectionDead_session hdie
        have he₄ := he₃.drives hsession.drives
        have hfail {code : Int} {details : SetupDetails}
            (h : failOpen c code details w₄ = some (r, w')) : Proceeds w w' ∧ w'.Orderly ∧ Opens w' r := by
          obtain ⟨hsteps, horder, hopens⟩ := failOpen_orderly h (ha₃.turn hsession.turn) he₄.attached
            he₄.destroyed (.inl (hst₃.turn hsession.turn.cache).cached) (.of_dead hdead)
          exact ⟨hto₃.trans ((Keeps.proceeds hsession.drives.keeps).trans hsteps), horder, hopens⟩
        split at h
        · exact hfail h
        · exact hfail h
      · obtain ⟨rfl, rfl⟩ := Exec.pure_some.mp h
        have hidle₃ := sendPendingH2Frames_idle hsend ha₂.sound hr₂.destroyed hclean₂
        exact ⟨hto₃, Engaged.orderly he₃ ha₃ (.inl hst₃.cached) hidle₃, he₃.live⟩

/-- `server_streaming_call_open_resource` on a stored connection. -/
theorem openOnConnection_orderly {k : ConnId} {req : CallRequest} {retryAttempt : Nat}
    {r : Except Failure OpenResult} {w w' : World}
    (h : openOnConnection k req retryAttempt w = some (r, w')) (ho : w.Orderly)
    (hst : Stored w req.key k) (husable : (w.conns k).usable = true) :
    Steps w w' ∧ w'.Orderly ∧ Opens w' r ∧ w.Creates k w' := by
  obtain ⟨remaining, w₀, hrem, h⟩ := Exec.bind_some.mp h
  obtain ⟨ho₀, hund, hcache₀⟩ :=
    onEnv_orderly (Env.remainingTimeoutUsForDeadline_grows req.deadlineAbsUs) hrem ho
  obtain ⟨-, hconns₀, -, -⟩ := remainingTimeout_late (k := k) hrem
  have hto₀ := Keeps.steps hund.keeps
  split at h
  · obtain ⟨rfl, rfl⟩ := Exec.pure_some.mp h
    exact ⟨hto₀, ho₀, trivial, .of_nextCall hund.keeps.nextCall k⟩
  · obtain ⟨c, w₁, hnew, h⟩ := Exec.bind_some.mp h
    have hst₀ := hst.turn hcache₀
    obtain ⟨hk, hdes⟩ := hst₀.entry ho₀.sound
    obtain ⟨hsteps₁, ha₁, hf₁, hconns₁, hcache₁, hnew₁, hcall₁⟩ := newCall_fresh hnew ho₀ hk
      ⟨req, retryAttempt, .inr rfl⟩
    have husable₁ : (w₁.conns k).usable = true := by rw [hconns₁, hconns₀]; exact husable
    have hwait₁ : Waiting req.key c k w₁ :=
      ⟨ha₁, hf₁.attached.connection, ha₁.sound.inv.detached_of_unsubmitted hf₁.streamId,
        hst₀.turn hcache₁, hconns₁ ▸ hdes, husable₁, (ho₀.idle k id).steady (.of_conns hconns₁)⟩
    obtain ⟨remaining', w₂, hrem', h⟩ := Exec.bind_some.mp h
    obtain ⟨hsession₂, hconns₂, hcalls₂, -⟩ := remainingTimeout_late (k := k) hrem'
    have hwait₂ := hwait₁.session hsession₂ hconns₂
    have hat₂ := hf₁.attached.drives hsession₂.drives
    have hto₁ := hto₀.trans hsteps₁
    have hpast₂ := Keeps.proceeds hsession₂.drives.keeps
    have hcreates {w'' : World} (hrest : Proceeds w₁ w'') : w.Creates k w'' := by
      intro c' hc' hlt
      exact hnew₁ w'' hrest c' (hund.keeps.nextCall ▸ hc') hlt
    split at h
    · obtain ⟨hsteps, horder, hopens⟩ := failOpen_orderly h hwait₂.around hat₂ hwait₂.destroyed
        (.inl hwait₂.stored.cached) hwait₂.idle
      have hto := hpast₂.trans hsteps
      exact ⟨hto₁.trans (Proceeds.steps hto), horder, hopens, hcreates hto⟩
    · split at h
      · obtain ⟨_, w₃, hdestroy, h⟩ := Exec.bind_some.mp h
        obtain ⟨rfl, rfl⟩ := Exec.pure_some.mp h
        obtain ⟨hkeeps, horder⟩ := destroyState_orderly hdestroy hwait₂.around hat₂
          hwait₂.destroyed (.inl hwait₂.stored.cached) hwait₂.idle
        have hto := hpast₂.trans hkeeps.proceeds
        exact ⟨hto₁.trans (Proceeds.steps hto), horder, trivial, hcreates hto⟩
      · have hf₂ : w₂.Fresh c k :=
          hf₁.same hcalls₂ (Ledger.Driven.of_drives hsession₂.drives.ledger).nextCall
        obtain ⟨hsteps, horder, hopens⟩ := openExchange_orderly h hwait₂.around hf₂ hwait₂.stored
          hwait₂.destroyed hwait₂.usable hwait₂.idle
        have hto := hpast₂.trans hsteps
        exact ⟨hto₁.trans (Proceeds.steps hto), horder, hopens, hcreates hto⟩

/-- Opening a stream leaves the state in order. -/
theorem serverStreamingCallOpenResource_orderly {req : CallRequest} {retryAttempt : Nat}
    {r : Except Failure OpenResult} {w w' : World}
    (h : serverStreamingCallOpenResource req retryAttempt w = some (r, w')) (ho : w.Orderly) :
    Steps w w' ∧ w'.Orderly ∧ Opens w' r := by
  unfold serverStreamingCallOpenResource at h
  split at h
  · obtain ⟨rfl, rfl⟩ := Exec.pure_some.mp h
    exact ⟨.refl, ho, trivial⟩
  · split at h
    · obtain ⟨rfl, rfl⟩ := Exec.pure_some.mp h
      exact ⟨.refl, ho, trivial⟩
    · obtain ⟨got, w₁, hget, h⟩ := Exec.bind_some.mp h
      obtain ⟨ho₁, hund₁, hstored⟩ := getPersistentConnection_orderly hget (.inl ho)
      have hto₁ := Keeps.steps hund₁.keeps
      cases got with
      | error error =>
        obtain ⟨code, w₂, hstatus, h⟩ := Exec.bind_some.mp h
        obtain ⟨rfl, rfl⟩ := Exec.pure_some.mp h
        obtain ⟨hkeeps, horder⟩ := setupFailureStatus_orderly hstatus ho₁
        exact ⟨hto₁.trans hkeeps.steps, horder, trivial⟩
      | ok k =>
        obtain ⟨hst₁, husable₁⟩ := hstored k rfl
        obtain ⟨hsteps, horder, hopens, -⟩ := openOnConnection_orderly h ho₁ hst₁ husable₁
        exact ⟨hto₁.trans hsteps, horder, hopens⟩

end Proc

end GrpcLite
