import GrpcLite.Refinement.Queues
import GrpcLite.Refinement.ServerStreaming

/-!
# Pulls, cancels and destructors keep the state in order

A pull reads for its stream until there is a message or the stream has ended. A
stream gives up its connection behind a detached request: when a pull reports the
end, when the user cancels it and when it is destroyed.
-/

namespace GrpcLite

/-- A usable connection was usable before. -/
theorem World.Drives.usable {k : ConnId} {w w' : World} (h : Drives k w w')
    (hk : (w'.conns k).usable = true) : (w.conns k).usable = true := by
  have hd := Ledger.Driven.of_drives h.ledger
  simp only [H2Connection.usable, Bool.and_eq_true, Bool.not_eq_true'] at hk ⊢
  constructor
  · by_contra hdead
    exact absurd ((hd.dead (Bool.not_eq_false _ ▸ hdead)).symm.trans hk.1) (by decide)
  · by_contra hdrain
    exact absurd ((hd.draining (Bool.not_eq_false _ ▸ hdrain)).symm.trans hk.2) (by decide)

namespace Proc

open World

/-! ## Reading -/

theorem deadlinePassed_session {k : ConnId} {deadline : Nat} {late : Bool} {w w' : World}
    (h : deadlinePassed deadline w = some (late, w')) :
    Session k w w' ∧ w'.conns = w.conns ∧ w'.calls = w.calls ∧
      (late = true → 0 < deadline ∧ w'.env.Elapsed deadline) := by
  unfold deadlinePassed at h
  split at h
  · next hpos =>
    obtain ⟨now, w₁, hnow, h⟩ := Exec.bind_some.mp h
    obtain ⟨rfl, rfl⟩ := Exec.pure_some.mp h
    obtain ⟨hsession, hconns, hcalls⟩ := onEnv_session (k := k) Env.monotonicUs_grows hnow
    refine ⟨hsession, hconns, hcalls, fun hlate => ⟨hpos, .inl ?_⟩⟩
    have hzoom : onEnv Env.monotonicUs w = some (now, w₁) := hnow
    obtain ⟨env, hrun, rfl⟩ := Exec.zoom_some.mp hzoom
    rw [Env.monotonicUs_now hrun] at hlate
    exact of_decide_eq_true hlate
  · obtain ⟨rfl, rfl⟩ := Exec.pure_some.mp h
    exact ⟨.refl, rfl, rfl, (by intro hno; cases hno)⟩

/-- What a round that ends a pull leaves behind. -/
structure RoundEnds (k : ConnId) (c : CallId) (w w' : World) : Prop where
  /-- It drives the session of the connection. -/
  turn : Turn k w w'
  /-- The connection is idle. -/
  idle : w'.Idle k
  /-- The stream has ended. -/
  completed : (w'.calls c).completed = true

theorem RoundEnds.after {k : ConnId} {c : CallId} {w w₁ w' : World} (ht : Turn k w w₁)
    (h : RoundEnds k c w₁ w') : RoundEnds k c w w' :=
  ⟨ht.trans h.turn, h.idle, h.completed⟩

/-- The connection died under the stream. -/
theorem breakStream_ends {k : ConnId} {c : CallId} {errorCode : Int} {go : Bool} {w w' : World}
    (h : breakStream k c errorCode w = some (go, w')) (hs : w.Sound) (he : w.Engaged c k) :
    RoundEnds k c w w' ∧ go = false := by
  obtain ⟨_, w₁, hdie, h⟩ := Exec.bind_some.mp h
  obtain ⟨_, w₂, hbreak, h⟩ := Exec.bind_some.mp h
  obtain ⟨_, w₃, hmark, h⟩ := Exec.bind_some.mp h
  obtain ⟨rfl, rfl⟩ := Exec.pure_some.mp h
  obtain ⟨hsession₁, hdead⟩ := markConnectionDead_session hdie
  obtain ⟨hsession₂, hconns₂⟩ := noteConnectionBroken_session (k := k) hbreak
  have hto₂ := hsession₁.trans hsession₂
  have hdead₂ : (w₂.conns k).dead = true := hconns₂ ▸ hdead
  obtain ⟨hsession₃, hconns₃, hdone, -⟩ := markCompleted_session (k := k) hmark
    (Engaged.detached_of_dead (he.drives hto₂.drives) (hs.drives hto₂.drives) hdead₂)
  exact ⟨⟨(hto₂.trans hsession₃).turn, .of_dead (hconns₃ ▸ hdead₂), hdone⟩, rfl⟩

/-- The deadline of the stream passed. -/
theorem expireStream_ends {k : ConnId} {c : CallId} {go : Bool} {w w' : World}
    (h : expireStream c w = some (go, w')) (hs : w.Sound)
    (hset : Ledger.Settled w.ledger) (he : w.Engaged c k)
    (hpos : 0 < (w.calls c).call.deadlineAbsUs)
    (hlate : w.env.Elapsed (w.calls c).call.deadlineAbsUs)
    (hidle : w.Idle k ∨ ((w.calls c).call.streamClosed = false ∧ (w.calls c).completed = false)) :
    RoundEnds k c w w' ∧ go = false := by
  obtain ⟨_, w₁, hmark, h⟩ := Exec.bind_some.mp h
  obtain ⟨_, w₂, hcancel, h⟩ := Exec.bind_some.mp h
  obtain ⟨_, w₃, hend, h⟩ := Exec.bind_some.mp h
  obtain ⟨rfl, rfl⟩ := Exec.pure_some.mp h
  obtain ⟨hsession₁, hconns₁, -⟩ := markTimedOut_session (k := k) hmark hpos hlate
  have hs₁ := hs.drives hsession₁.drives
  have he₁ := he.drives hsession₁.drives
  obtain ⟨hturn₂, hdet⟩ := cancelActiveServerStreamingCallState_turn hcancel hs₁
    (hsession₁.settled hset) he₁.attached he₁.destroyed
  have hidle₁ : w₁.Idle k ∨ (0 < (w₁.calls c).call.streamId ∧
      (w₁.calls c).call.streamClosed = false ∧ (w₁.calls c).completed = false) := by
    refine hidle.imp (fun hi => hi.steady (.of_conns hconns₁)) fun hopen => ⟨he₁.streamId, ?_⟩
    rw [markTimedOut, Exec.get_bind_run] at hmark
    rw [Exec.modify_some.mp hmark, input_calls_self]
    exact hopen
  have hidle₂ := cancelActiveServerStreamingCallState_idle hcancel hs₁
    he₁.attached.connection he₁.destroyed hidle₁
  obtain ⟨hsession₃, hconns₃, hdone, -⟩ := markCompleted_session (k := k) hend hdet
  exact ⟨⟨hsession₁.turn.trans (hturn₂.trans hsession₃.turn), hidle₂.steady (.of_conns hconns₃),
    hdone⟩, rfl⟩

/-- A read that returned nothing ends the pull. -/
theorem endPullRead_ends {k : ConnId} {c : CallId} {nread : Int} {go : Bool} {w w' : World}
    (h : endPullRead k c nread w = some (go, w')) (hs : w.Sound)
    (hset : Ledger.Settled w.ledger) (he : w.Engaged c k)
    (hopen : (w.conns k).usable = true →
      (w.calls c).call.streamClosed = false ∧ (w.calls c).completed = false)
    (hlate : socketTimeout nread w.env.errno (w.calls c).call.deadlineAbsUs = true →
      0 < (w.calls c).call.deadlineAbsUs ∧ w.env.Elapsed (w.calls c).call.deadlineAbsUs) :
    RoundEnds k c w w' ∧ go = false := by
  obtain ⟨late, w₁, hnote, h⟩ := Exec.bind_some.mp h
  have hsame : (w₁.calls c).completed = (w.calls c).completed ∧
      (w₁.calls c).call.streamClosed = (w.calls c).call.streamClosed := by
    rw [noteReadFailure, Exec.get_bind_run] at hnote
    obtain ⟨conn, w₂, hconn, hnote⟩ := Exec.bind_some.mp hnote
    rw [Proc.conn, Exec.get_bind_run] at hconn
    obtain ⟨rfl, rfl⟩ := Exec.pure_some.mp hconn
    obtain ⟨_, w₃, hwhen, hnote⟩ := Exec.bind_some.mp hnote
    obtain ⟨call, w₄, hcall, hnote⟩ := Exec.bind_some.mp hnote
    rw [Proc.call, Exec.get_bind_run] at hcall
    obtain ⟨rfl, rfl⟩ := Exec.pure_some.mp hcall
    obtain ⟨-, rfl⟩ := Exec.pure_some.mp hnote
    obtain ⟨-, hin⟩ | ⟨-, rfl⟩ := Exec.when_some.mp hwhen
    · rw [Exec.modify_some.mp hin, input_calls_self]
      exact ⟨rfl, rfl⟩
    · exact ⟨rfl, rfl⟩
  obtain ⟨hsession₁, hconns₁, henv₁, -, rfl⟩ := noteReadFailure_session hnote
  have hs₁ := hs.drives hsession₁.drives
  have he₁ := he.drives hsession₁.drives
  split at h
  · next hyes =>
    obtain ⟨hpos, hpassed⟩ := hlate hyes
    have hdeadline := Drives.deadline hsession₁.drives c
    have hidle₁ : w₁.Idle k ∨ ((w₁.calls c).call.streamClosed = false ∧
        (w₁.calls c).completed = false) := by
      by_cases husable : (w.conns k).usable = true
      · rw [hsame.1, hsame.2]
        exact .inr (hopen husable)
      · refine .inl (.of_unusable ?_)
        rw [hconns₁]
        exact Bool.not_eq_true _ ▸ husable
    obtain ⟨hends, rfl⟩ := expireStream_ends h hs₁
      (hsession₁.settled hset) he₁ (by rw [hdeadline]; exact hpos)
      (by rw [hdeadline, henv₁]; exact hpassed) hidle₁
    exact ⟨hends.after hsession₁.turn, rfl⟩
  · rw [Exec.get_bind_run] at h
    obtain ⟨hends, rfl⟩ := breakStream_ends h hs₁ he₁
    exact ⟨hends.after hsession₁.turn, rfl⟩

/-- A round of a pull: the connection stays idle, and the stream has ended unless the loop
goes on. -/
theorem pullRound_turn {k : ConnId} {c : CallId} {go : Bool} {w w' : World}
    (h : pullRound k c w = some (go, w')) (hs : w.Sound) (hcalm : w.Calm)
    (hset : Ledger.Settled w.ledger) (he : w.Engaged c k) (hidle : w.Idle k)
    (hopen : (w.calls c).call.streamClosed = false) (hactive : (w.calls c).completed = false) :
    Turn k w w' ∧ w'.Idle k ∧ (go = false → (w'.calls c).completed = true) := by
  have hends {w₁ : World} {go : Bool} (hto : Turn k w w₁) (h : RoundEnds k c w₁ w' ∧ go = false) :
      Turn k w w' ∧ w'.Idle k ∧ (go = false → (w'.calls c).completed = true) :=
    ⟨hto.trans h.1.turn, h.1.idle, fun _ => h.1.completed⟩
  obtain ⟨conn, w₀, hconn, h⟩ := Exec.bind_some.mp h
  rw [Proc.conn, Exec.get_bind_run] at hconn
  obtain ⟨rfl, rfl⟩ := Exec.pure_some.mp hconn
  split at h
  · next hio =>
    have hdead : (w.conns k).dead = true := by simpa [H2Connection.ioAllowed] using hio
    obtain ⟨_, w₁, hbreak, h⟩ := Exec.bind_some.mp h
    obtain ⟨rfl, rfl⟩ := Exec.pure_some.mp h
    obtain ⟨_, w₂, hnote, hmark⟩ := Exec.bind_some.mp hbreak
    obtain ⟨hsession₂, hconns₂⟩ := noteConnectionBroken_session (k := k) hnote
    have hdead₂ : (w₂.conns k).dead = true := hconns₂ ▸ hdead
    obtain ⟨hsession₃, hconns₃, hdone, -⟩ := markCompleted_session (k := k) hmark
      (Engaged.detached_of_dead (he.drives hsession₂.drives) (hs.drives hsession₂.drives) hdead₂)
    exact ⟨(hsession₂.trans hsession₃).turn, .of_dead (hconns₃ ▸ hdead₂), fun _ => hdone⟩
  · next hio =>
    have halive : (w.conns k).dead = false := by simpa [H2Connection.ioAllowed] using hio
    obtain ⟨call, w₀, hcall, h⟩ := Exec.bind_some.mp h
    rw [Proc.call, Exec.get_bind_run] at hcall
    obtain ⟨rfl, rfl⟩ := Exec.pure_some.mp hcall
    obtain ⟨late, w₁, hlate, h⟩ := Exec.bind_some.mp h
    obtain ⟨hsession₁, hconns₁, hcalls₁, hpassed⟩ := deadlinePassed_session (k := k) hlate
    have hs₁ := hs.drives hsession₁.drives
    have he₁ := he.drives hsession₁.drives
    have hidle₁ : w₁.Idle k := hidle.steady (.of_conns hconns₁)
    cases late with
    | true =>
      obtain ⟨hpos, helapsed⟩ := hpassed rfl
      exact hends hsession₁.turn (expireStream_ends h hs₁ (hsession₁.settled hset) he₁
        (by rw [hcalls₁]; exact hpos) (by rw [hcalls₁]; exact helapsed) (.inl hidle₁))
    | false =>
      obtain ⟨rv, w₂, hsend, h⟩ := Exec.bind_some.mp h
      obtain ⟨hturn₂, halive₂, -⟩ := sendPendingH2Frames_turn hsend hs₁ he₁.destroyed
      have hto₂ := hsession₁.turn.trans hturn₂
      have hs₂ := hs.drives hto₂.drives
      have he₂ := he.drives hto₂.drives
      split at h
      · exact hends hto₂ (breakStream_ends h hs₂ he₂)
      · next hzero =>
        obtain rfl : rv = 0 := not_not.mp hzero
        have hidle₂ := sendPendingH2Frames_idle hsend hs₁ he₁.destroyed hidle₁.clean
        have hsteady₂ := sendPendingH2Frames_steady k (some c) _ _ _ hsend rfl
        obtain ⟨_, w₃, hlog, h⟩ := Exec.bind_some.mp h
        have hsteady₃ : Steady w₂ w₃ := log_steady k _ _ _ _ hlog
        obtain rfl := Exec.modify_some.mp hlog
        obtain ⟨nread, w₄, hread, h⟩ := Exec.bind_some.mp h
        obtain ⟨hsession₄, hcalls₄, hdead₄, hsteady₄, hlate₄⟩ := connectionRecv_session hread
        have hsession₄' : Session k w₂ w₄ :=
          Session.trans (.log (by simp) ⟨halive₂ rfl, he₂.destroyed⟩) hsession₄
        have hto₄ := hto₂.trans hsession₄'.turn
        have hs₄ := hs.drives hto₄.drives
        have hcalm₄ := hcalm.drives hto₄.drives
        have he₄ := he.drives hto₄.drives
        have hcalls₄ : w₄.calls = w₂.calls := hcalls₄
        have hdeadline₂ := Drives.deadline hto₂.drives c
        split at h
        · refine hends hto₄ (endPullRead_ends h hs₄ (hto₄.settled hset) he₄ ?_ ?_)
          · intro husable
            -- A connection that is still usable had nothing to send, so the stream is still open.
            have husable₁ : (w₁.conns k).usable = true :=
              Drives.usable (hturn₂.trans hsession₄'.turn).drives husable
            have hcalls₂ := sendPendingH2Frames_calls hsend (hidle₁ husable₁).2
            rw [hcalls₄, hcalls₂, hcalls₁]
            exact ⟨hopen, hactive⟩
          · rw [hcalls₄, hdeadline₂]
            exact hlate₄
        · next hpos =>
          have hclean₄ : w₄.Clean k := hidle₂.clean.spares
            (trans_of Steady hsteady₃ (hsteady₄ (Int.not_le.mp hpos))).spares
          obtain ⟨rv, w₅, hfeed, h⟩ := Exec.bind_some.mp h
          obtain ⟨hsession₅, hdead₅, hspares₅⟩ := feedSession_session hfeed hs₄ hcalm₄
            ⟨hdead₄.trans (halive₂ rfl), he₄.destroyed⟩
          have hto₅ := hto₄.trans hsession₅.turn
          have he₅ := he.drives hto₅.drives
          split at h
          · obtain ⟨_, w₆, hdie, h⟩ := Exec.bind_some.mp h
            obtain ⟨_, w₇, hmark, h⟩ := Exec.bind_some.mp h
            obtain ⟨rfl, rfl⟩ := Exec.pure_some.mp h
            obtain ⟨hsession₆, hdead₆⟩ := markConnectionDead_session hdie
            have hto₆ := hto₅.trans hsession₆.turn
            obtain ⟨hsession₇, hconns₇, hdone, -⟩ := markCompleted_session (k := k) hmark
              (Engaged.detached_of_dead (he.drives hto₆.drives) (hs.drives hto₆.drives) hdead₆)
            exact ⟨hto₆.trans hsession₇.turn, .of_dead (hconns₇ ▸ hdead₆), fun _ => hdone⟩
          · next hrv =>
            obtain ⟨rv', w₆, hflush, h⟩ := Exec.bind_some.mp h
            obtain ⟨hturn₆, -, hidle₆⟩ := flushAfterRead_turn hflush (hs.drives hto₅.drives)
              ⟨hdead₅ hrv, he₅.destroyed⟩ (hclean₄.spares hspares₅)
            have hto₆ := hto₅.trans hturn₆
            split at h
            · exact hends hto₆
                (breakStream_ends h (hs.drives hto₆.drives) (he.drives hto₆.drives))
            · obtain ⟨rfl, rfl⟩ := Exec.pure_some.mp h
              exact ⟨hto₆, hidle₆, (by intro hno; cases hno)⟩

/-- The loop of a pull ends when there is nothing more to read for. -/
theorem pullLoop_turn {k : ConnId} {c : CallId} {fuel : Nat} {w w' : World} {u : Unit}
    (h : pullLoop c fuel w = some (u, w')) (hs : w.Sound) (hcalm : w.Calm)
    (hset : Ledger.Settled w.ledger) (he : w.Engaged c k) (hidle : w.Idle k) :
    Turn k w w' ∧ w'.Idle k ∧ (w'.calls c).wantsRead = false := by
  induction fuel generalizing w with
  | zero => exact (Exec.block_some.mp h).elim
  | succ fuel ih =>
    obtain ⟨tc, w₁, htc, h⟩ := Exec.bind_some.mp h
    rw [Proc.tracked, Exec.get_bind_run] at htc
    obtain ⟨rfl, rfl⟩ := Exec.pure_some.mp htc
    split at h
    · next hwants =>
      obtain ⟨-, rfl⟩ := Exec.pure_some.mp h
      exact ⟨.refl, hidle, by simpa using hwants⟩
    · next hwants =>
      have hwants : (w.calls c).wantsRead = true := by simpa using hwants
      simp only [TrackedCall.wantsRead, Bool.and_eq_true, Bool.not_eq_true'] at hwants
      obtain ⟨⟨⟨-, hopen⟩, hactive⟩, -⟩ := hwants
      simp only [he.attached.connection] at h
      obtain ⟨go, w₁, hround, h⟩ := Exec.bind_some.mp h
      obtain ⟨hturn, hidle₁, hend⟩ := pullRound_turn hround hs hcalm hset he hidle hopen hactive
      cases go with
      | false =>
        obtain ⟨-, rfl⟩ := Exec.pure_some.mp h
        exact ⟨hturn, hidle₁, by simp [TrackedCall.wantsRead, hend rfl]⟩
      | true =>
        obtain ⟨hturn', hidle', hdone⟩ := ih h (hs.drives hturn.drives) (hcalm.drives hturn.drives)
          (hturn.settled hset) (he.drives hturn.drives) hidle₁
        exact ⟨hturn.trans hturn', hidle', hdone⟩

/-- The loop of a pull on a stream that gave up its connection. -/
theorem pullLoop_aside {k : ConnId} {c : CallId} {fuel : Nat} {w w' : World} {u : Unit}
    (h : pullLoop c fuel w = some (u, w')) (hconn : (w.calls c).call.connection = none)
    (hdet : w.ledger.RequestDetached c) : Turn k w w' ∧ w'.conns = w.conns := by
  cases fuel with
  | zero => exact (Exec.block_some.mp h).elim
  | succ fuel =>
    obtain ⟨tc, w₁, htc, h⟩ := Exec.bind_some.mp h
    rw [Proc.tracked, Exec.get_bind_run] at htc
    obtain ⟨rfl, rfl⟩ := Exec.pure_some.mp htc
    split at h
    · obtain ⟨-, rfl⟩ := Exec.pure_some.mp h
      exact ⟨.refl, rfl⟩
    · simp only [hconn] at h
      obtain ⟨_, w₂, hnote, hmark⟩ := Exec.bind_some.mp h
      obtain ⟨hsession₂, hconns₂⟩ := noteConnectionBroken_session (k := k) hnote
      obtain ⟨hsession₃, hconns₃, -, -⟩ := markCompleted_session (k := k) hmark
        ((Ledger.Driven.of_drives hsession₂.drives.ledger).requestDetached hdet)
      exact ⟨(hsession₂.trans hsession₃).turn, hconns₃.trans hconns₂⟩

/-- A stream that works on its connection. -/
structure Busy (w : World) (c : CallId) (k : ConnId) : Prop where
  /-- The rest of the state is in order. -/
  around : w.Around (· = k) (· = c)
  /-- The stream owns the connection. -/
  engaged : w.Engaged c k
  /-- The connection has a place. -/
  placed : w.Placed k
  /-- It is idle. -/
  idle : w.Idle k

theorem Busy.of_orderly {w : World} {c : CallId} {k : ConnId} (ho : w.Orderly)
    (hlive : (w.calls c).live = true) (hat : w.Attached c k)
    (howned : (w.calls c).call.connectionOwned = true) (hid : 0 < (w.calls c).call.streamId) :
    Busy w c k := by
  have hk : k < w.nextConn := ho.sound.inv.housed.home c k hat.connection
  refine ⟨ho.widen (fun _ => False.elim) fun _ => False.elim, ⟨hlive, hat, howned, hid, ?_⟩,
    (ho.kept k hk id).placed, ho.idle k id⟩
  exact ho.sound.inv.alive_of_owned howned hat.connection

theorem Busy.turn {w w' : World} {c : CallId} {k : ConnId} (h : Busy w c k) (ht : Turn k w w')
    (hidle : w'.Idle k) : Busy w' c k :=
  ⟨h.around.turn ht, h.engaged.drives ht.drives, (Rehouse.drives ht.drives).placed h.placed, hidle⟩

/-- A connection that is not usable leaves the cache. -/
theorem Busy.detach {w w' : World} {c : CallId} {k : ConnId} {u : Unit} (h : Busy w c k)
    (hdetach : detachUnlessUsable c w = some (u, w')) : Tidy w w' ∧ w'.calls = w.calls ∧ Busy w' c k := by
  obtain ⟨htidy, hcalls, hre, -, hdes, -⟩ :=
    detachUnlessUsable_tidy hdetach h.around.sound h.engaged.attached.connection
  have hplace (c' : CallId) : SamePlace w w' c' := .of_calls (by rw [hcalls])
  have he := h.engaged
  refine ⟨htidy, hcalls, h.around.move htidy hre fun c' _ => hplace c', ⟨?_, he.attached.same (hplace c),
    ?_, ?_, hdes.trans he.destroyed⟩, hre.placed h.placed,
    h.idle.steady (detachUnlessUsable_steady c _ _ _ hdetach)⟩
  · rw [hcalls]
    exact he.live
  · rw [hcalls]
    exact he.owned
  · rw [hcalls]
    exact he.streamId

/-- A stream whose request is detached gives up its connection. -/
theorem Busy.clear {w w' : World} {c : CallId} {k : ConnId} {u : Unit} (h : Busy w c k)
    (hclear : clearConnectionServerStreamingCallStateOwner c w = some (u, w'))
    (hdet : w.ledger.RequestDetached c) :
    Keeps w w' ∧ w'.Orderly ∧ (w'.calls c).live = true := by
  obtain ⟨hgave, hconn, hkept, hfit⟩ := clearConnectionServerStreamingCallStateOwner_gaveUp hclear
    h.around.sound h.engaged.attached.connection h.engaged.destroyed hdet
  have hidle := h.idle.steady (clearConnectionServerStreamingCallStateOwner_steady c _ _ _ hclear)
  have hmoved := h.around.move hgave.tidy hgave.rehouse fun c' hc' => hgave.others c' hc'
  refine ⟨hgave.tidy.keeps, (hmoved.settle (fun _ => hkept h.placed) hfit hidle).seat fun _ => ?_,
    hgave.live.trans h.engaged.live⟩
  exact .inr ⟨hconn, hgave.cleared⟩

/-- The end of a pull on a stream whose request is detached. -/
theorem Busy.finish {w w' : World} {c : CallId} {k : ConnId} {r : NextResult} (h : Busy w c k)
    (hfinish : finishStream c w = some (r, w')) (hdet : w.ledger.RequestDetached c) :
    Keeps w w' ∧ w'.Orderly ∧ (w'.calls c).live = true := by
  obtain ⟨call, w₀, hcall, hfinish⟩ := Exec.bind_some.mp hfinish
  rw [Proc.call, Exec.get_bind_run] at hcall
  obtain ⟨rfl, rfl⟩ := Exec.pure_some.mp hcall
  obtain ⟨_, w₁, hwhen, hfinish⟩ := Exec.bind_some.mp hfinish
  obtain ⟨_, w₂, hmark, hfinish⟩ := Exec.bind_some.mp hfinish
  obtain ⟨tc, w₃, htc, hfinish⟩ := Exec.bind_some.mp hfinish
  rw [Proc.tracked, Exec.get_bind_run] at htc
  obtain ⟨rfl, rfl⟩ := Exec.pure_some.mp htc
  obtain ⟨detail, w₃, hdetail, hfinish⟩ := Exec.bind_some.mp hfinish
  obtain rfl := connectionDetail_same hdetail
  obtain ⟨_, w₄, hclear, hfinish⟩ := Exec.bind_some.mp hfinish
  obtain ⟨-, rfl⟩ := Exec.pure_some.mp hfinish
  have hsession₁ : Session k w w₁ ∧ w₁.conns = w.conns := by
    obtain ⟨-, hin⟩ | ⟨-, rfl⟩ := Exec.when_some.mp hwhen
    · obtain rfl := Exec.modify_some.mp hin
      exact ⟨.note (i := .truncated) trivial, rfl⟩
    · exact ⟨.refl, rfl⟩
  obtain ⟨hsession₂, hconns₂, -, -⟩ := markCompleted_session (k := k) hmark
    ((Ledger.Driven.of_drives hsession₁.1.drives.ledger).requestDetached hdet)
  have hto₂ := hsession₁.1.trans hsession₂
  have hbusy := h.turn hto₂.turn (h.idle.steady (.of_conns (hconns₂.trans hsession₁.2)))
  obtain ⟨hkeeps, horder, hlive⟩ := hbusy.clear hclear
    ((Ledger.Driven.of_drives hto₂.drives.ledger).requestDetached hdet)
  exact ⟨(Drives.keeps hto₂.drives).trans hkeeps, horder, hlive⟩

/-- The pop of a pull. -/
theorem popMessage_turn {k : ConnId} {c : CallId} {payload : Bytes} {rest : List Bytes}
    {r : NextResult} {w w' : World} (h : popMessage c payload w = some (r, w'))
    (hqueue : (w.calls c).call.responseQueue = payload :: rest)
    (hvalid : (w.calls c).call.validationFailed = false)
    (hcalm : (w.calls c).cancelled = false) : Turn k w w' ∧ w'.conns = w.conns ∧ w' = w.pop c payload := by
  obtain ⟨_, w₁, hin, h⟩ := Exec.bind_some.mp h
  obtain rfl := Exec.modify_some.mp hin
  obtain ⟨_, w₂, hset, h⟩ := Exec.bind_some.mp h
  obtain rfl := Exec.modify_some.mp hset
  obtain ⟨tc, w₃, htc, h⟩ := Exec.bind_some.mp h
  rw [Proc.tracked, Exec.get_bind_run] at htc
  obtain ⟨rfl, rfl⟩ := Exec.pure_some.mp htc
  obtain ⟨-, rfl⟩ := Exec.pure_some.mp h
  have hpop : Drive k w (w.pop c payload) := .pop c payload rest hqueue hvalid hcalm
  refine ⟨(Session.of_drives (.single hpop) (fun c' hc' => ?_) rfl).turn, rfl, rfl⟩
  have hcalls : (w.pop c payload).calls = Function.update (w.input c .dequeue).calls c _ := rfl
  have hsame (c₀ : CallId) : ((w.input c .dequeue).calls c₀).call.streamClosed =
      (w.calls c₀).call.streamClosed := by
    by_cases hc : c₀ = c
    · subst hc
      rw [input_calls_self]
      exact ((w.calls c₀).call.apply_link_quiet (i := .dequeue) rfl).2.2.2.2
    · have hne : (w.input c .dequeue).calls c₀ = w.calls c₀ := Function.update_of_ne hc ..
      rw [hne]
  rw [← hsame c']
  rw [hcalls, Function.update_apply] at hc'
  split at hc'
  · next hc => exact hc ▸ hc'
  · exact hc'

theorem freeQueue_session {k : ConnId} {c : CallId} {w : World}
    (hvalid : (w.calls c).call.validationFailed = true) : Session k w (w.input c .freeQueue) := by
  refine .of_drives (.single (.free c hvalid)) (fun c' hc' => ?_) rfl
  by_cases hc : c' = c
  · subst hc
    rw [input_calls_self] at hc'
    exact hc'
  · have hsame : (w.input c .freeQueue).calls c' = w.calls c' := Function.update_of_ne hc ..
    rwa [hsame] at hc'

/-- A stream with an invalid response is cancelled: its queue is empty and its request is
detached. -/
theorem Busy.terminate {w w' : World} {c : CallId} {k : ConnId} {u : Unit} (h : Busy w c k)
    (hterm : terminateWithCancel c w = some (u, w'))
    (hvalid : (w.calls c).call.validationFailed = true) :
    Keeps w w' ∧ Busy w' c k ∧ w'.ledger.RequestDetached c ∧
      (w'.calls c).call.responseQueue = [] := by
  obtain ⟨_, w₁, hfree, hterm⟩ := Exec.bind_some.mp hterm
  obtain rfl := Exec.modify_some.mp hfree
  obtain ⟨_, w₂, hcancel, hterm⟩ := Exec.bind_some.mp hterm
  obtain ⟨_, w₃, hdetach, hmark⟩ := Exec.bind_some.mp hterm
  have hsession₁ : Session k w (w.input c .freeQueue) := freeQueue_session hvalid
  have hbusy₁ := h.turn hsession₁.turn (h.idle.steady (.of_conns rfl))
  obtain ⟨hturn₂, hdet₂⟩ := cancelGrpcCallStream_turn hcancel hbusy₁.around.sound
    hbusy₁.around.settled hbusy₁.engaged.attached hbusy₁.engaged.destroyed
  have hidle₂ := cancelGrpcCallStream_idle hcancel hbusy₁.around.sound
    hbusy₁.engaged.attached.connection hbusy₁.engaged.destroyed (.inl hbusy₁.idle)
  have hqueue₂ : (w₂.calls c).call.responseQueue = [] := by
    refine cancelGrpcCallStream_hushed c _ _ _ hcancel c ?_
    rw [input_calls_self]
    rfl
  obtain ⟨htidy₃, hcalls₃, hbusy₃⟩ := (hbusy₁.turn hturn₂ hidle₂).detach hdetach
  have hdet₃ := Keeps.requestDetached htidy₃.keeps hdet₂
  obtain ⟨hsession₄, hconns₄, -, hcall₄⟩ := markCompleted_session (k := k) hmark hdet₃
  refine ⟨(Drives.keeps hsession₁.drives).trans ((Drives.keeps hturn₂.drives).trans
    (htidy₃.keeps.trans (Drives.keeps hsession₄.drives))),
    hbusy₃.turn hsession₄.turn (hbusy₃.idle.steady (.of_conns hconns₄)),
    Keeps.requestDetached (Drives.keeps hsession₄.drives) hdet₃, ?_⟩
  rw [hcall₄, hcalls₃]
  exact hqueue₂

/-- A pull on a stream that owns its connection. -/
theorem Busy.next {w w' : World} {c : CallId} {k : ConnId} {r : NextResult} (hbusy : Busy w c k)
    (h : serverStreamingCallNextResource c w = some (r, w')) :
    Keeps w w' ∧ w'.Orderly ∧ (w'.calls c).live = true := by
  rw [serverStreamingCallNextResource, Exec.get_bind_run] at h
  obtain ⟨_, w₁, hloop, h⟩ := Exec.bind_some.mp h
  obtain ⟨hturn, hidle₁, hdone⟩ := pullLoop_turn hloop hbusy.around.sound hbusy.around.calm
    hbusy.around.settled hbusy.engaged hbusy.idle
  have hbusy₁ := hbusy.turn hturn hidle₁
  have hto₁ := Drives.keeps hturn.drives
  obtain ⟨call, w₀, hcall, h⟩ := Exec.bind_some.mp h
  rw [Proc.call, Exec.get_bind_run] at hcall
  obtain ⟨rfl, rfl⟩ := Exec.pure_some.mp hcall
  obtain ⟨_, w₂, hwhen, h⟩ := Exec.bind_some.mp h
  obtain ⟨call, w₃, hcall, h⟩ := Exec.bind_some.mp h
  rw [Proc.call, Exec.get_bind_run] at hcall
  obtain ⟨rfl, rfl⟩ := Exec.pure_some.mp hcall
  obtain ⟨hvalid, hterm⟩ | ⟨hvalid, rfl⟩ := Exec.when_some.mp hwhen
  · obtain ⟨_, w₃, hterm, hdetach⟩ := Exec.bind_some.mp hterm
    obtain ⟨hkeeps₃, hbusy₃, hdet₃, hqueue₃⟩ := hbusy₁.terminate hterm hvalid
    obtain ⟨htidy, hcalls, hbusy₂⟩ := hbusy₃.detach hdetach
    have hqueue : (w₂.calls c).call.responseQueue = [] := by
      rw [hcalls]
      exact hqueue₃
    simp only [hqueue] at h
    obtain ⟨hkeeps, horder, hlive⟩ := hbusy₂.finish h (Keeps.requestDetached htidy.keeps hdet₃)
    exact ⟨hto₁.trans (hkeeps₃.trans (htidy.keeps.trans hkeeps)), horder, hlive⟩
  · have hvalid : (w₁.calls c).call.validationFailed = false := by simpa using hvalid
    cases hqueue : (w₁.calls c).call.responseQueue with
    | cons payload rest =>
      simp only [hqueue] at h
      have hcalm : (w₁.calls c).cancelled = false := by
        by_contra hcan
        have hempty := hbusy₁.around.sound.emptied c (Bool.not_eq_false _ ▸ hcan)
        exact absurd (hqueue.symm.trans hempty) (List.cons_ne_nil _ _)
      obtain ⟨hpop, hconns, -⟩ := popMessage_turn (k := k) h hqueue hvalid hcalm
      have hbusy₂ := hbusy₁.turn hpop (hbusy₁.idle.steady (.of_conns hconns))
      exact ⟨hto₁.trans (Drives.keeps hpop.drives),
        Engaged.orderly hbusy₂.engaged hbusy₂.around hbusy₂.placed hbusy₂.idle,
        hbusy₂.engaged.live⟩
    | nil =>
      simp only [hqueue] at h
      have hdet : w₁.ledger.RequestDetached c := by
        simp only [TrackedCall.wantsRead, hqueue, List.isEmpty_nil, hvalid, Bool.not_false,
          Bool.and_true, Bool.true_and, Bool.and_eq_false_iff, Bool.not_eq_false'] at hdone
        rcases hdone with hclosed | hcompleted
        · exact hbusy₁.around.settled c hclosed
        · exact hbusy₁.around.sound.ended c hcompleted
      obtain ⟨hkeeps, horder, hlive⟩ := hbusy₁.finish h hdet
      exact ⟨hto₁.trans hkeeps, horder, hlive⟩

/-! ## Streams that gave up their connection -/

/-- A change of calls that leaves the connections and the places of the calls. -/
theorem orderly_of_conns {k : ConnId} {w w' : World} (ho : w.Orderly) (ht : Turn k w w')
    (hconns : w'.conns = w.conns) : w'.Orderly :=
  ho.relocate ht.tidy hconns ht.cache (Ledger.Driven.of_drives ht.drives.ledger).nextConn
    fun c _ => .drives ht.drives c

theorem detachUnlessUsable_none {c : CallId} {w w' : World} {u : Unit}
    (h : detachUnlessUsable c w = some (u, w')) (hconn : (w.calls c).call.connection = none) :
    w' = w := by
  obtain ⟨call, w₁, hcall, h⟩ := Exec.bind_some.mp h
  rw [Proc.call, Exec.get_bind_run] at hcall
  obtain ⟨rfl, rfl⟩ := Exec.pure_some.mp hcall
  simp only [hconn] at h
  exact (Exec.pure_some.mp h).2.symm

theorem cancelGrpcCallStream_none {c : CallId} {w w' : World} {u : Unit}
    (h : cancelGrpcCallStream c w = some (u, w')) (hconn : (w.calls c).call.connection = none) :
    w' = w := by
  obtain ⟨call, w₁, hcall, h⟩ := Exec.bind_some.mp h
  rw [Proc.call, Exec.get_bind_run] at hcall
  obtain ⟨rfl, rfl⟩ := Exec.pure_some.mp hcall
  simp only [hconn] at h
  exact (Exec.pure_some.mp h).2.symm

/-- A stream without a connection drops its invalid response. -/
theorem terminateWithCancel_aside {k : ConnId} {c : CallId} {w w' : World} {u : Unit}
    (h : terminateWithCancel c w = some (u, w')) (hconn : (w.calls c).call.connection = none)
    (hdet : w.ledger.RequestDetached c) (hvalid : (w.calls c).call.validationFailed = true) :
    Turn k w w' ∧ w'.conns = w.conns ∧ (w'.calls c).call.responseQueue = [] := by
  obtain ⟨_, w₁, hfree, h⟩ := Exec.bind_some.mp h
  obtain rfl := Exec.modify_some.mp hfree
  have hsession₁ : Session k w (w.input c .freeQueue) := freeQueue_session hvalid
  have hconn₁ : ((w.input c .freeQueue).calls c).call.connection = none :=
    (SamePlace.drives hsession₁.drives c).connection.trans hconn
  obtain ⟨_, w₂, hcancel, h⟩ := Exec.bind_some.mp h
  obtain rfl := cancelGrpcCallStream_none hcancel hconn₁
  obtain ⟨_, w₃, hdetach, hmark⟩ := Exec.bind_some.mp h
  obtain rfl := detachUnlessUsable_none hdetach hconn₁
  obtain ⟨hsession₂, hconns₂, -, hcall₂⟩ := markCompleted_session (k := k) hmark
    ((Ledger.Driven.of_drives hsession₁.drives.ledger).requestDetached hdet)
  refine ⟨(hsession₁.trans hsession₂).turn, hconns₂, ?_⟩
  rw [hcall₂, input_calls_self]
  rfl

/-- The end of a pull on a stream without a connection. -/
theorem finishStream_aside {k : ConnId} {c : CallId} {r : NextResult} {w w' : World}
    (h : finishStream c w = some (r, w')) (hconn : (w.calls c).call.connection = none)
    (hdet : w.ledger.RequestDetached c) : Turn k w w' ∧ w'.conns = w.conns := by
  obtain ⟨call, w₀, hcall, h⟩ := Exec.bind_some.mp h
  rw [Proc.call, Exec.get_bind_run] at hcall
  obtain ⟨rfl, rfl⟩ := Exec.pure_some.mp hcall
  obtain ⟨_, w₁, hwhen, h⟩ := Exec.bind_some.mp h
  obtain ⟨_, w₂, hmark, h⟩ := Exec.bind_some.mp h
  obtain ⟨tc, w₃, htc, h⟩ := Exec.bind_some.mp h
  rw [Proc.tracked, Exec.get_bind_run] at htc
  obtain ⟨rfl, rfl⟩ := Exec.pure_some.mp htc
  obtain ⟨detail, w₃, hdetail, h⟩ := Exec.bind_some.mp h
  obtain rfl := connectionDetail_same hdetail
  obtain ⟨_, w₄, hclear, h⟩ := Exec.bind_some.mp h
  obtain ⟨-, rfl⟩ := Exec.pure_some.mp h
  have hsession₁ : Session k w w₁ ∧ w₁.conns = w.conns := by
    obtain ⟨-, hin⟩ | ⟨-, rfl⟩ := Exec.when_some.mp hwhen
    · obtain rfl := Exec.modify_some.mp hin
      exact ⟨.note (i := .truncated) trivial, rfl⟩
    · exact ⟨.refl, rfl⟩
  obtain ⟨hsession₂, hconns₂, -, -⟩ := markCompleted_session (k := k) hmark
    ((Ledger.Driven.of_drives hsession₁.1.drives.ledger).requestDetached hdet)
  have hto₂ := hsession₁.1.trans hsession₂
  have hsame : w₄ = w₃ := by
    obtain ⟨call, w₅, hcall, hclear⟩ := Exec.bind_some.mp hclear
    rw [Proc.call, Exec.get_bind_run] at hcall
    obtain ⟨rfl, rfl⟩ := Exec.pure_some.mp hcall
    simp only [(SamePlace.drives hto₂.drives c).connection.trans hconn] at hclear
    exact (Exec.pure_some.mp hclear).2.symm
  subst hsame
  exact ⟨hto₂.turn, hconns₂.trans hsession₁.2⟩

/-- A pull on a stream that gave up its connection. -/
theorem next_aside {k : ConnId} {c : CallId} {r : NextResult} {w w' : World}
    (h : serverStreamingCallNextResource c w = some (r, w')) (hs : w.Sound)
    (hconn : (w.calls c).call.connection = none) (hcleared : (w.ledger.calls c).cleared = true) :
    Turn k w w' ∧ w'.conns = w.conns := by
  rw [serverStreamingCallNextResource, Exec.get_bind_run] at h
  obtain ⟨_, w₁, hloop, h⟩ := Exec.bind_some.mp h
  have hdet : w.ledger.RequestDetached c := hs.inv.detached_of_cleared hcleared
  obtain ⟨hturn₁, hconns₁⟩ := pullLoop_aside (k := k) hloop hconn hdet
  have hconn₁ := (SamePlace.drives hturn₁.drives c).connection.trans hconn
  have hdet₁ := (Ledger.Driven.of_drives hturn₁.drives.ledger).requestDetached hdet
  obtain ⟨call, w₀, hcall, h⟩ := Exec.bind_some.mp h
  rw [Proc.call, Exec.get_bind_run] at hcall
  obtain ⟨rfl, rfl⟩ := Exec.pure_some.mp hcall
  obtain ⟨_, w₂, hwhen, h⟩ := Exec.bind_some.mp h
  obtain ⟨call, w₃, hcall, h⟩ := Exec.bind_some.mp h
  rw [Proc.call, Exec.get_bind_run] at hcall
  obtain ⟨rfl, rfl⟩ := Exec.pure_some.mp hcall
  obtain ⟨hvalid, hterm⟩ | ⟨hvalid, rfl⟩ := Exec.when_some.mp hwhen
  · obtain ⟨_, w₃, hterm, hdetach⟩ := Exec.bind_some.mp hterm
    obtain ⟨hturn₂, hconns₂, hqueue⟩ := terminateWithCancel_aside (k := k) hterm hconn₁ hdet₁ hvalid
    have hconn₂ := (SamePlace.drives hturn₂.drives c).connection.trans hconn₁
    obtain rfl := detachUnlessUsable_none hdetach hconn₂
    simp only [hqueue] at h
    obtain ⟨hturn₃, hconns₃⟩ := finishStream_aside (k := k) h hconn₂
      ((Ledger.Driven.of_drives hturn₂.drives.ledger).requestDetached hdet₁)
    exact ⟨hturn₁.trans (hturn₂.trans hturn₃), hconns₃.trans (hconns₂.trans hconns₁)⟩
  · have hvalid : (w₁.calls c).call.validationFailed = false := by simpa using hvalid
    cases hqueue : (w₁.calls c).call.responseQueue with
    | cons payload rest =>
      simp only [hqueue] at h
      have hcalm : (w₁.calls c).cancelled = false := by
        by_contra hcan
        have hempty := (hs.drives hturn₁.drives).emptied c (Bool.not_eq_false _ ▸ hcan)
        exact absurd (hqueue.symm.trans hempty) (List.cons_ne_nil _ _)
      obtain ⟨hpop, hconns, -⟩ := popMessage_turn (k := k) h hqueue hvalid hcalm
      exact ⟨hturn₁.trans hpop, hconns.trans hconns₁⟩
    | nil =>
      simp only [hqueue] at h
      obtain ⟨hturn₂, hconns₂⟩ := finishStream_aside (k := k) h hconn₁ hdet₁
      exact ⟨hturn₁.trans hturn₂, hconns₂.trans hconns₁⟩

/-- A pull leaves the state in order. -/
theorem serverStreamingCallNextResource_orderly {c : CallId} {r : NextResult} {w w' : World}
    (h : serverStreamingCallNextResource c w = some (r, w')) (ho : w.Orderly)
    (hlive : (w.calls c).live = true) :
    Keeps w w' ∧ w'.Orderly ∧ (w'.calls c).live = true := by
  rcases ho.seated c id hlive with ⟨k, hat, howned, hid⟩ | ⟨hconn, hcleared⟩
  · exact (Busy.of_orderly ho hlive hat howned hid).next h
  · obtain ⟨hturn, hconns⟩ := next_aside (k := 0) h ho.sound hconn hcleared
    exact ⟨Drives.keeps hturn.drives, orderly_of_conns ho hturn hconns,
      (SamePlace.drives hturn.drives c).live.trans hlive⟩

/-! ## Cancelling and destroying -/

/-- The user gives up a stream. -/
theorem Busy.cancel {w w₁ w' : World} {c : CallId} {k : ConnId} {u₁ u₂ : Unit} (h : Busy w c k)
    (hterm : terminateWithCancel c ((w.setCall c fun tc => { tc with cancelled := true }).input c
      .userCancelled) = some (u₁, w₁))
    (hclear : clearConnectionServerStreamingCallStateOwner c w₁ = some (u₂, w')) :
    Keeps w w' ∧ w'.Orderly ∧ (w'.calls c).live = true := by
  obtain ⟨_, w₂, hfree, hterm⟩ := Exec.bind_some.mp hterm
  have hw₂ : w₂ = w.abort c := Exec.modify_some.mp hfree
  obtain ⟨_, w₃, hcancel, hterm⟩ := Exec.bind_some.mp hterm
  obtain ⟨_, w₄, hdetach, hmark⟩ := Exec.bind_some.mp hterm
  have hself : w₂.calls c =
      { (((w.calls c).input .userCancelled).input .freeQueue) with cancelled := true } := by
    rw [hw₂]
    simp only [World.abort, World.input, World.setCall, Function.update_self]
    rfl
  have hothers (c' : CallId) (hne : c' ≠ c) : w₂.calls c' = w.calls c' := by
    rw [hw₂]
    simp only [World.abort, World.input, World.setCall, Function.update_of_ne hne]
  have hkeep : Keeps w w₂ := by
    rw [hw₂]
    exact .single (.abort c)
  have hledger : w₂.ledger = w.ledger := by rw [hw₂, ledger_abort]
  have hconns : w₂.conns = w.conns := by rw [hw₂]; rfl
  have hcache : w₂.cache = w.cache := by rw [hw₂]; rfl
  have hnext : w₂.nextConn = w.nextConn := by rw [hw₂]; rfl
  have hplace (c' : CallId) : SamePlace w w₂ c' := by
    by_cases hne : c' = c
    · subst hne
      refine ⟨by rw [hself]; rfl, by rw [hself]; rfl, by rw [hself]; rfl, by rw [hledger], ?_⟩
      rw [hself]
      rfl
    · exact .of_calls (hothers c' hne)
  have hs₂ := h.around.sound.keeps hkeep
  have hat₂ := h.engaged.attached.same (hplace c)
  have hset₂ : Ledger.Settled w₂.ledger := hledger ▸ h.around.settled
  have hdes₂ : (w₂.conns k).destroyed = 0 := by
    rw [hconns]
    exact h.engaged.destroyed
  obtain ⟨hturn₃, hdet₃⟩ := cancelGrpcCallStream_turn hcancel hs₂ hset₂ hat₂ hdes₂
  have hidle₃ := cancelGrpcCallStream_idle hcancel hs₂ hat₂.connection hdes₂
    (.inl (h.idle.steady (.of_conns hconns)))
  have hs₃ := hs₂.drives hturn₃.drives
  have hat₃ := hat₂.drives hturn₃.drives
  obtain ⟨htidy₄, hcalls₄, hre₄, -, hdes₄, -⟩ := detachUnlessUsable_tidy hdetach hs₃ hat₃.connection
  have hplace₄ : SamePlace w₃ w₄ c := .of_calls (by rw [hcalls₄])
  have hat₄ := hat₃.same hplace₄
  have hdet₄ := Keeps.requestDetached htidy₄.keeps hdet₃
  obtain ⟨hsession₁, hconns₁, -, -⟩ := markCompleted_session (k := k) hmark hdet₄
  have hat₁ := hat₄.drives hsession₁.drives
  have hdes₁ : (w₁.conns k).destroyed = 0 := by
    rw [hconns₁, hdes₄, hturn₃.drives.destroyed, hdes₂]
  obtain ⟨hgave, hconn, hkept, hfit⟩ := clearConnectionServerStreamingCallStateOwner_gaveUp hclear
    ((hs₃.keeps htidy₄.keeps).drives hsession₁.drives) hat₁.connection hdes₁
    (Keeps.requestDetached (Drives.keeps hsession₁.drives) hdet₄)
  -- From the abort on the run is tidy; the abort itself disturbs the cancelled stream only,
  -- which is not registered any more.
  have htidy₂ : Tidy w₂ w' :=
    hturn₃.tidy.trans (htidy₄.trans (hsession₁.tidy.trans hgave.tidy))
  have hre₂ : Rehouse k w₂ w' :=
    (Rehouse.drives hturn₃.drives).trans (hre₄.trans ((Rehouse.drives hsession₁.drives).trans
      hgave.rehouse))
  have hre : Rehouse k w w' := (rehouse_of_conns hconns hcache hnext k).trans hre₂
  have hkeeps : Keeps w w' := hkeep.trans htidy₂.keeps
  have htidy : Tidy w w' := by
    refine ⟨hkeeps, fun _ => htidy₂.settled hset₂, fun c' hc' => ?_⟩
    by_cases hne : c' = c
    · subst hne
      intro hreg
      have howned := ((h.around.sound.keeps hkeeps).inv.counted.registered c' hreg).1
      exact absurd (hgave.owned.symm.trans howned) Bool.false_ne_true
    · refine htidy₂.calm c' ?_
      unfold CalmAt
      rw [hothers c' hne]
      exact hc'
  have hidle : w'.Idle k := by
    have hsteady := trans_of Steady (detachUnlessUsable_steady c _ _ _ hdetach)
      (trans_of Steady (.of_conns hconns₁)
        (clearConnectionServerStreamingCallStateOwner_steady c _ _ _ hclear))
    exact hidle₃.steady hsteady
  have hplaces (c' : CallId) (hne : c' ≠ c) : SamePlace w w' c' :=
    (hplace c').trans ((SamePlace.drives hturn₃.drives c').trans
      ((SamePlace.of_calls (by rw [hcalls₄])).trans
        ((SamePlace.drives hsession₁.drives c').trans (hgave.others c' hne))))
  have hplaced₁ : w₁.Placed k :=
    (Rehouse.drives hsession₁.drives).placed (hre₄.placed ((Rehouse.drives hturn₃.drives).placed
      ((rehouse_of_conns hconns hcache hnext k).placed h.placed)))
  have hsame₁ : SamePlace w w₁ c :=
    (hplace c).trans ((SamePlace.drives hturn₃.drives c).trans
      (hplace₄.trans (SamePlace.drives hsession₁.drives c)))
  exact ⟨hkeeps, ((h.around.move htidy hre hplaces).settle (fun _ => hkept hplaced₁) hfit
    hidle).seat fun _ => .inr ⟨hconn, hgave.cleared⟩,
    hgave.live.trans (hsame₁.live.trans h.engaged.live)⟩

/-- `server_streaming_call_cancel_resource` leaves the state in order. -/
theorem serverStreamingCallCancelResource_orderly {c : CallId} {w w' : World} {u : Unit}
    (h : serverStreamingCallCancelResource c w = some (u, w')) (ho : w.Orderly)
    (hlive : (w.calls c).live = true) :
    Keeps w w' ∧ w'.Orderly ∧ (w'.calls c).live = true := by
  obtain ⟨tc, w₁, htc, h⟩ := Exec.bind_some.mp h
  rw [Proc.tracked, Exec.get_bind_run] at htc
  obtain ⟨rfl, rfl⟩ := Exec.pure_some.mp htc
  rcases ho.seated c id hlive with ⟨k, hat, howned, hid⟩ | ⟨hconn, hcleared⟩
  · simp only [hat.connection] at h
    obtain ⟨conn, w₁, hconn, h⟩ := Exec.bind_some.mp h
    rw [Proc.conn, Exec.get_bind_run] at hconn
    obtain ⟨rfl, rfl⟩ := Exec.pure_some.mp hconn
    split at h
    · obtain ⟨_, w₁, hset, h⟩ := Exec.bind_some.mp h
      obtain rfl := Exec.modify_some.mp hset
      obtain ⟨_, w₂, hin, h⟩ := Exec.bind_some.mp h
      obtain rfl := Exec.modify_some.mp hin
      obtain ⟨_, w₃, hterm, hclear⟩ := Exec.bind_some.mp h
      exact (Busy.of_orderly ho hlive hat howned hid).cancel hterm hclear
    · obtain ⟨-, rfl⟩ := Exec.pure_some.mp h
      exact ⟨.refl, ho, hlive⟩
  · simp only [hconn] at h
    obtain ⟨-, rfl⟩ := Exec.pure_some.mp h
    exact ⟨.refl, ho, hlive⟩

/-- `destroy_server_streaming_call_state` leaves the state in order. -/
theorem destroyServerStreamingCallState_orderly {c : CallId} {w w' : World} {u : Unit}
    (h : destroyServerStreamingCallState c w = some (u, w')) (ho : w.Orderly)
    (hlive : (w.calls c).live = true) : Keeps w w' ∧ w'.Orderly := by
  rcases ho.seated c id hlive with ⟨k, hat, howned, hid⟩ | ⟨hconn, hcleared⟩
  · have hbusy := Busy.of_orderly ho hlive hat howned hid
    exact destroyState_orderly h hbusy.around hat hbusy.engaged.destroyed hbusy.placed hbusy.idle
  · obtain ⟨htidy, hconns, hcache, hnext, hdead, hothers⟩ :=
      destroyServerStreamingCallState_cleared h ho.sound hconn hcleared
    have hwide : w.Around (fun _ => False) (· = c) := ho.widen (fun _ => id) fun _ => False.elim
    refine ⟨htidy.keeps, (hwide.relocate htidy hconns hcache hnext fun c' hne =>
      .of_calls (hothers c' hne)).seat fun hlive' => ?_⟩
    exact absurd (hdead.symm.trans hlive') Bool.false_ne_true

end Proc

end GrpcLite
