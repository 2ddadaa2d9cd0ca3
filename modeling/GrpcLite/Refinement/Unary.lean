import GrpcLite.Drivers.Wrapper
import GrpcLite.Refinement.Receiving

/-!
# The unary driver keeps the state in order

An attempt ends with its call released and its request detached. The connection
stays under its key, or has left the cache behind an exception that killed it,
and an unusable one is evicted by the caller or by the next lookup.
-/

namespace GrpcLite

namespace World

theorem Turn.cache {k : ConnId} {w w' : World} (h : Turn k w w') : w'.cache = w.cache :=
  (Ledger.Driven.of_drives h.drives.ledger).cache

end World

namespace Proc

open World

/-! ## The end of an attempt -/

/-- The owner of a connection leaves the cache alone. -/
theorem clearConnectionCallOwner_place {k : ConnId} {c : CallId} {w w' : World} {u : Unit}
    (h : clearConnectionCallOwner k c w = some (u, w')) (hs : w.Sound)
    (hconn : (w.calls c).call.connection = some k) :
    w'.cache = w.cache ∧ (w'.conns k).usable = (w.conns k).usable := by
  obtain ⟨call, w₁, hcall, h⟩ := Exec.bind_some.mp h
  rw [Proc.call, Exec.get_bind_run] at hcall
  obtain ⟨rfl, rfl⟩ := Exec.pure_some.mp hcall
  rw [if_neg (not_not.mpr hconn)] at h
  obtain ⟨_, w₂, hunreg, h⟩ := Exec.bind_some.mp h
  obtain ⟨hsession, -, -, -, -⟩ := unregisterGrpcCallStream_session hunreg hs hconn
  obtain rfl := releaseOwner_some h
  refine ⟨(Ledger.Driven.of_drives hsession.drives.ledger).cache, ?_⟩
  have hself : (w₂.clearOwner k c false).conns k = _ := Function.update_self ..
  rw [hself, ← unregisterGrpcCallStream_usable hunreg k]
  rfl

/-- What the exits of the unary driver share. -/
structure Left (k : ConnId) (c : CallId) (w w' : World) : Prop where
  /-- The call is gone. -/
  gone : Gone k c w w'
  /-- The connection is not lost. -/
  kept : w.Placed k → w'.Kept k
  /-- The cache stays. -/
  cache : w'.cache = w.cache
  /-- The connection is usable as before. -/
  usable : (w'.conns k).usable = (w.conns k).usable
  /-- No connection gets a detail. -/
  steady : Steady w w'

/-- A unary call that leaves its connection. -/
theorem leaveUnary {k : ConnId} {c : CallId} {w w₁ w₂ w' : World} {u₁ u₂ u₃ : Unit}
    (hclear : clearConnectionCallOwner k c w = some (u₁, w₁))
    (hrelease : releaseCall c w₁ = some (u₂, w₂))
    (hdestroy : destroyDetachedConnectionIfUnowned k w₂ = some (u₃, w')) (hs : w.Sound)
    (hconn : (w.calls c).call.connection = some k) (hdes : (w.conns k).destroyed = 0)
    (hdet : w.ledger.RequestDetached c) : Left k c w w' := by
  obtain ⟨hgave, hdes₁, -⟩ := clearConnectionCallOwner_gaveUp hclear hs hconn hdet
  obtain ⟨hcache₁, husable₁⟩ := clearConnectionCallOwner_place hclear hs hconn
  obtain ⟨hgone, hconns₂, hcache₂⟩ := hgave.release hrelease
  have hdes₂ : (w₂.conns k).destroyed = 0 := by
    rw [hconns₂]
    exact hdes₁.trans hdes
  obtain ⟨htidy, hcalls, hcache, hre, hkept⟩ :=
    destroyDetachedConnectionIfUnowned_tidy hdestroy (hs.keeps hgone.tidy.keeps) hdes₂
  refine ⟨⟨hgone.tidy.trans htidy, hgone.rehouse.trans hre, ?_, fun c' hc' => ?_⟩,
    fun hp => hkept (hgone.rehouse.placed hp), hcache.trans (hcache₂.trans hcache₁), ?_, ?_⟩
  · rw [hcalls]
    exact hgone.dead
  · exact (hgone.others c' hc').trans (.of_calls (by rw [hcalls]))
  · rw [destroyDetachedConnectionIfUnowned_usable hdestroy, hconns₂, husable₁]
  · exact trans_of Steady (clearConnectionCallOwner_steady k c _ _ _ hclear)
      (trans_of Steady (releaseCall_steady c _ _ _ hrelease)
        (destroyDetachedConnectionIfUnowned_steady k _ _ _ hdestroy))

/-- The changes of a session before the exit. -/
theorem Left.after {k : ConnId} {c : CallId} {w w₁ w' : World} (hsession : Session k w w₁)
    (hconns : w₁.conns = w.conns) (h : Left k c w₁ w') : Left k c w w' := by
  have hre : Rehouse k w w₁ := .drives hsession.drives
  refine ⟨⟨hsession.tidy.trans h.gone.tidy, hre.trans h.gone.rehouse, h.gone.dead,
    fun c' hc' => (SamePlace.drives hsession.drives c').trans (h.gone.others c' hc')⟩,
    fun hp => h.kept (hre.placed hp),
    h.cache.trans (Ledger.Driven.of_drives hsession.drives.ledger).cache, ?_,
    trans_of Steady (.of_conns hconns) h.steady⟩
  rw [h.usable, hconns]

theorem connectionDetail_same {c : CallId} {detail : Option ErrorDetail} {w w' : World}
    (h : connectionDetail c w = some (detail, w')) : w' = w := by
  obtain ⟨call, w₁, hcall, h⟩ := Exec.bind_some.mp h
  rw [Proc.call, Exec.get_bind_run] at hcall
  obtain ⟨rfl, rfl⟩ := Exec.pure_some.mp hcall
  cases hconn : (w.calls c).call.connection with
  | none =>
    simp only [hconn] at h
    exact (Exec.pure_some.mp h).2.symm
  | some k =>
    simp only [hconn] at h
    obtain ⟨conn, w₂, hread, h⟩ := Exec.bind_some.mp h
    rw [Proc.conn, Exec.get_bind_run] at hread
    obtain ⟨rfl, rfl⟩ := Exec.pure_some.mp hread
    exact (Exec.pure_some.mp h).2.symm

/-- The label `build_unary_result`. -/
theorem buildUnaryResult_left {k : ConnId} {c : CallId} {r : UnaryResult} {w w' : World}
    (h : buildUnaryResult k c w = some (r, w')) (hs : w.Sound)
    (hconn : (w.calls c).call.connection = some k) (hdes : (w.conns k).destroyed = 0)
    (hdet : w.ledger.RequestDetached c) (hunary : (w.calls c).call.maxResponseMessages = 1) :
    Left k c w w' ∧ (r.outcome.transparentRetryableUnprocessed = true →
      (w.calls c).call.retryAttempt = 0) := by
  obtain ⟨call, w₀, hcall, h⟩ := Exec.bind_some.mp h
  rw [Proc.call, Exec.get_bind_run] at hcall
  obtain ⟨rfl, rfl⟩ := Exec.pure_some.mp hcall
  obtain ⟨_, w₁, hwhen, h⟩ := Exec.bind_some.mp h
  obtain ⟨detail, w₂, hdetail, h⟩ := Exec.bind_some.mp h
  obtain ⟨call₁, w₃, hcall₁, h⟩ := Exec.bind_some.mp h
  rw [Proc.call, Exec.get_bind_run] at hcall₁
  obtain ⟨rfl, rfl⟩ := Exec.pure_some.mp hcall₁
  obtain ⟨call₂, w₄, hcall₂, h⟩ := Exec.bind_some.mp h
  rw [Proc.call, Exec.get_bind_run] at hcall₂
  obtain ⟨rfl, rfl⟩ := Exec.pure_some.mp hcall₂
  obtain ⟨_, w₅, htake, h⟩ := Exec.bind_some.mp h
  obtain ⟨call₃, w₆, hcall₃, h⟩ := Exec.bind_some.mp h
  rw [Proc.call, Exec.get_bind_run] at hcall₃
  obtain ⟨rfl, rfl⟩ := Exec.pure_some.mp hcall₃
  obtain ⟨_, w₇, hclear, h⟩ := Exec.bind_some.mp h
  obtain ⟨_, w₈, hrelease, h⟩ := Exec.bind_some.mp h
  obtain ⟨_, w₉, hdestroy, h⟩ := Exec.bind_some.mp h
  obtain ⟨rfl, rfl⟩ := Exec.pure_some.mp h
  have hsession₁ : Session k w w₁ ∧ w₁.conns = w.conns := by
    obtain ⟨-, hin⟩ | ⟨-, rfl⟩ := Exec.when_some.mp hwhen
    · obtain rfl := Exec.modify_some.mp hin
      exact ⟨.note (i := .truncated) trivial, rfl⟩
    · exact ⟨.refl, rfl⟩
  obtain rfl := connectionDetail_same hdetail
  obtain rfl := Exec.modify_some.mp htake
  have hunary₂ : (w₂.calls c).call.maxResponseMessages = 1 := by
    have hconfig := (Keeps.extends hsession₁.1.drives.keeps c).config
    exact (congrArg GrpcCall.maxResponseMessages hconfig).trans hunary
  have hsession : Session k w (w₂.input c .take) :=
    hsession₁.1.trans (.note (i := .take) hunary₂)
  refine ⟨Left.after hsession hsession₁.2 (leaveUnary hclear hrelease hdestroy
    (hs.drives hsession.drives) ?_ (hsession.drives.destroyed.trans hdes) ?_), fun hretry => ?_⟩
  · exact (SamePlace.drives hsession.drives c).connection.trans hconn
  · exact (Ledger.Driven.of_drives hsession.drives.ledger).requestDetached hdet
  · simp only [attemptOutcomeFromCall, Bool.and_eq_true, decide_eq_true_eq] at hretry
    have hconfig := (Keeps.extends hsession.drives.keeps c).config
    exact (congrArg GrpcCall.retryAttempt hconfig).symm.trans hretry.1.1.2

/-- A unary call that is given up has left its connection. -/
theorem abandonUnaryCall_left {k : ConnId} {c : CallId} {failure : Failure}
    {r : Except Failure UnaryResult} {w w' : World}
    (h : abandonUnaryCall k c failure w = some (r, w')) (hs : w.Sound)
    (hconn : (w.calls c).call.connection = some k) (hdes : (w.conns k).destroyed = 0)
    (hdet : w.ledger.RequestDetached c) : Left k c w w' ∧ r = .error failure := by
  obtain ⟨_, w₁, hclear, h⟩ := Exec.bind_some.mp h
  obtain ⟨_, w₂, hrelease, h⟩ := Exec.bind_some.mp h
  obtain ⟨_, w₃, hdestroy, h⟩ := Exec.bind_some.mp h
  obtain ⟨rfl, rfl⟩ := Exec.pure_some.mp h
  exact ⟨leaveUnary hclear hrelease hdestroy hs hconn hdes hdet, rfl⟩

/-! ## The receive loop -/

/-- A connection that breaks under a call is dead. -/
theorem breakCall_session {k : ConnId} {c : CallId} {errorCode : Int} {w w' : World} {u : Unit}
    (h : breakCall k c errorCode w = some (u, w')) :
    Session k w w' ∧ (w'.conns k).dead = true := by
  obtain ⟨_, w₁, hdie, h⟩ := Exec.bind_some.mp h
  obtain ⟨hsession₁, hdead⟩ := markConnectionDead_session hdie
  obtain ⟨hsession₂, hconns⟩ := noteConnectionBroken_session (k := k) h
  exact ⟨hsession₁.trans hsession₂, hconns ▸ hdead⟩

/-- The request of an engaged call on a dead connection is detached. -/
theorem Engaged.detached_of_dead {k : ConnId} {c : CallId} {w : World} (h : w.Engaged c k)
    (hs : w.Sound) (hdead : (w.conns k).dead = true) : w.ledger.RequestDetached c :=
  hs.inv.detached_of_dead h.attached.cleared h.attached.connection hdead

/-- A read that returned nothing ends the exchange: the stream is cancelled, or the
connection is dead. -/
theorem endUnaryRead_turn {k : ConnId} {c : CallId} {nread : Int} {w w' : World} {u : Unit}
    (h : endUnaryRead k c nread w = some (u, w')) (hs : w.Sound)
    (hset : Ledger.Settled w.ledger) (he : w.Engaged c k)
    (hopen : (w.calls c).call.streamClosed = false)
    (hlate : socketTimeout nread w.env.errno (w.calls c).call.deadlineAbsUs = true →
      0 < (w.calls c).call.deadlineAbsUs ∧ w.env.Elapsed (w.calls c).call.deadlineAbsUs) :
    Turn k w w' ∧ w'.ledger.RequestDetached c ∧ w'.Idle k := by
  obtain ⟨late, w₁, hnote, h⟩ := Exec.bind_some.mp h
  obtain ⟨hsession₁, hconns₁, henv₁, hledger₁, rfl⟩ := noteReadFailure_session hnote
  split at h
  · next hyes =>
    obtain ⟨hpos, hpassed⟩ := hlate hyes
    obtain ⟨_, w₂, hmark, h⟩ := Exec.bind_some.mp h
    have hdeadline := Drives.deadline hsession₁.drives c
    obtain ⟨hsession₂, hconns₂, hledger₂⟩ := markTimedOut_session (k := k) hmark
      (by rw [hdeadline]; exact hpos) (by rw [hdeadline, henv₁]; exact hpassed)
    have hto₂ := hsession₁.trans hsession₂
    have he₂ := he.drives hto₂.drives
    have hs₂ := hs.drives hto₂.drives
    obtain ⟨hturn, hdet⟩ := cancelGrpcCallStream_turn h hs₂
      (hto₂.settled hset) he₂.attached he₂.destroyed
    refine ⟨hto₂.turn.trans hturn, hdet, cancelGrpcCallStream_idle h hs₂
      he₂.attached.connection he₂.destroyed (.inr ⟨he₂.streamId, ?_⟩)⟩
    have hclosed : (w₂.ledger.calls c).closed = (w.ledger.calls c).closed := by
      rw [hledger₂, hledger₁]
    exact hclosed.trans hopen
  · rw [Exec.get_bind_run] at h
    obtain ⟨hsession₂, hdead⟩ := breakCall_session h
    have hto₂ := hsession₁.trans hsession₂
    exact ⟨hto₂.turn, Engaged.detached_of_dead (he.drives hto₂.drives) (hs.drives hto₂.drives) hdead,
      .of_dead hdead⟩

/-- The receive loop ends with a detached request, or the session failed and the connection
is dead. -/
theorem unaryRecvLoop_turn {k : ConnId} {c : CallId} {fuel : Nat} {ok : Bool} {w w' : World}
    (h : unaryRecvLoop k c fuel w = some (ok, w')) (hs : w.Sound) (hcalm : w.Calm)
    (hset : Ledger.Settled w.ledger) (he : w.Engaged c k) (halive : (w.conns k).dead = false)
    (hidle : w.Idle k) :
    Turn k w w' ∧ w'.ledger.RequestDetached c ∧ w'.Idle k ∧
      (ok = false → (w'.conns k).dead = true) := by
  induction fuel generalizing w with
  | zero => exact (Exec.block_some.mp h).elim
  | succ fuel ih =>
    obtain ⟨call, w₀, hcall, h⟩ := Exec.bind_some.mp h
    rw [Proc.call, Exec.get_bind_run] at hcall
    obtain ⟨rfl, rfl⟩ := Exec.pure_some.mp hcall
    split at h
    · next hclosed =>
      obtain ⟨rfl, rfl⟩ := Exec.pure_some.mp h
      exact ⟨.refl, hset c hclosed, hidle, (by intro hno; cases hno)⟩
    · next hopen =>
      obtain ⟨_, w₁, hlog, h⟩ := Exec.bind_some.mp h
      have hsteady₁ : Steady w w₁ := log_steady k _ _ _ _ hlog
      obtain rfl := Exec.modify_some.mp hlog
      obtain ⟨nread, w₂, hread, h⟩ := Exec.bind_some.mp h
      obtain ⟨hsession, hcalls₂, hdead₂, hsteady₂, hlate⟩ := connectionRecv_session hread
      have hto₂ : Session k w w₂ := Session.trans (.log (by simp) ⟨halive, he.destroyed⟩) hsession
      have hcalls₂ : w₂.calls = w.calls := hcalls₂
      have hdead₂ : (w₂.conns k).dead = false := hdead₂.trans halive
      have hs₂ := hs.drives hto₂.drives
      have hcalm₂ := hcalm.drives hto₂.drives
      have he₂ := he.drives hto₂.drives
      split at h
      · obtain ⟨_, w₃, hend, h⟩ := Exec.bind_some.mp h
        obtain ⟨rfl, rfl⟩ := Exec.pure_some.mp h
        obtain ⟨hturn, hdet, hidle₃⟩ := endUnaryRead_turn hend hs₂ (hto₂.settled hset) he₂
          (by rw [hcalls₂]; simpa using hopen) (by rw [hcalls₂]; exact hlate)
        exact ⟨hto₂.turn.trans hturn, hdet, hidle₃, (by intro hno; cases hno)⟩
      · next hpos =>
        have hclean₂ : w₂.Clean k :=
          hidle.clean.spares (trans_of Steady hsteady₁ (hsteady₂ (Int.not_le.mp hpos))).spares
        obtain ⟨rv, w₃, hfeed, h⟩ := Exec.bind_some.mp h
        obtain ⟨hsession₃, hdead₃, hspares₃⟩ := feedSession_session hfeed hs₂ hcalm₂
          ⟨hdead₂, he₂.destroyed⟩
        have hto₃ := hto₂.trans hsession₃
        have he₃ := he.drives hto₃.drives
        split at h
        · obtain ⟨_, w₄, hdie, h⟩ := Exec.bind_some.mp h
          obtain ⟨rfl, rfl⟩ := Exec.pure_some.mp h
          obtain ⟨hsession₄, hdead₄⟩ := markConnectionDead_session hdie
          have hto₄ := hto₃.trans hsession₄
          exact ⟨hto₄.turn, Engaged.detached_of_dead (he.drives hto₄.drives) (hs.drives hto₄.drives)
            hdead₄, .of_dead hdead₄, fun _ => hdead₄⟩
        · next hrv =>
          obtain ⟨rv', w₄, hflush, h⟩ := Exec.bind_some.mp h
          obtain ⟨hturn₄, hdead₄, hidle₄⟩ := flushAfterRead_turn hflush (hs.drives hto₃.drives)
            ⟨hdead₃ hrv, he₃.destroyed⟩ (hclean₂.spares hspares₃)
          have hto₄ := hto₃.turn.trans hturn₄
          split at h
          · obtain ⟨_, w₅, hbreak, h⟩ := Exec.bind_some.mp h
            obtain ⟨rfl, rfl⟩ := Exec.pure_some.mp h
            obtain ⟨hsession₅, hdead₅⟩ := breakCall_session hbreak
            have hto₅ := hto₄.trans hsession₅.turn
            exact ⟨hto₅, Engaged.detached_of_dead (he.drives hto₅.drives) (hs.drives hto₅.drives)
              hdead₅, .of_dead hdead₅, (by intro hno; cases hno)⟩
          · next hzero =>
            obtain ⟨hturn, hdet, hidle', hfail⟩ := ih h (hs.drives hto₄.drives)
              (hcalm.drives hto₄.drives) (hto₄.settled hset) (he.drives hto₄.drives)
              (hdead₄ (not_not.mp hzero)) hidle₄
            exact ⟨hto₄.trans hturn, hdet, hidle', hfail⟩

/-! ## An attempt -/

/-- The state in which an attempt leaves its connection. -/
def Settles (key : Bytes) (k : ConnId) (retryAttempt : Nat) (w' : World) :
    Except Failure UnaryResult → Prop
  | .error _ => w'.Orderly
  | .ok result => Stored w' key k ∧ (w'.Orderly ∨ Stale w' key) ∧
      (result.outcome.transparentRetryableUnprocessed = true → retryAttempt = 0)

/-- Behind an exit the call is in order. -/
theorem Left.around {k : ConnId} {c : CallId} {w w' : World} (h : Left k c w w')
    (ha : w.Around (· = k) (· = c)) : w'.Around (· = k) fun _ => False := by
  refine (ha.move h.gone.tidy h.gone.rehouse fun c' hc' => h.gone.others c' hc').seat fun hlive => ?_
  exact absurd (h.gone.dead.symm.trans hlive) Bool.false_ne_true

/-- An exit behind which the connection may stay where it is. -/
theorem Left.orderly {k : ConnId} {c : CallId} {w w' : World} (h : Left k c w w')
    (ha : w.Around (· = k) (· = c)) (hp : w.Placed k) (hidle : w.Idle k)
    (hfit : (w.conns k).usable = true ∨ ¬w.ledger.Cached k) : w'.Orderly := by
  refine (h.around ha).settle (fun _ => h.kept hp) (fun hin => .inl ?_)
    (hidle.steady h.steady)
  rw [h.usable]
  refine hfit.resolve_right (not_not_intro ?_)
  rw [cached_iff, ← h.cache, ← cached_iff]
  exact hin

/-- An exit with a result. -/
theorem Left.settles {key : Bytes} {k : ConnId} {c : CallId} {retryAttempt : Nat} {w w' : World}
    {r : UnaryResult} (h : Left k c w w') (ha : w.Around (· = k) (· = c)) (hst : Stored w key k)
    (hidle : w.Idle k)
    (hretry : r.outcome.transparentRetryableUnprocessed = true → retryAttempt = 0) :
    Settles key k retryAttempt w' (.ok r) := by
  have hst' : Stored w' key k := by
    obtain ⟨entry, hfind, hk⟩ := hst
    exact ⟨entry, h.cache ▸ hfind, hk⟩
  refine ⟨hst', ?_, hretry⟩
  by_cases husable : (w.conns k).usable = true
  · exact .inl (h.orderly ha (.inl hst.cached) hidle (.inl husable))
  · refine .inr ⟨k, h.around ha, hst', ?_⟩
    rw [h.usable]
    exact Bool.not_eq_true _ ▸ husable

theorem Stored.turn {key : Bytes} {k : ConnId} {w w' : World} (h : Stored w key k)
    (hcache : w'.cache = w.cache) : Stored w' key k := by
  obtain ⟨entry, hfind, hk⟩ := h
  exact ⟨entry, hcache ▸ hfind, hk⟩

/-- A dead connection leaves the cache and the call ends with an exception. -/
theorem detachAndAbandon_orderly {k : ConnId} {c : CallId} {failure : Failure}
    {r : Except Failure UnaryResult} {w w₁ w' : World} {u : Unit}
    (hdetach : detachPersistentConnectionByPtr k w = some (u, w₁))
    (h : abandonUnaryCall k c failure w₁ = some (r, w')) (ha : w.Around (· = k) (· = c))
    (hp : w.Placed k) (hat : w.Attached c k) (hdes : (w.conns k).destroyed = 0)
    (hdet : w.ledger.RequestDetached c) (hidle : w.Idle k) :
    Keeps w w' ∧ w'.Orderly ∧ r = .error failure := by
  obtain ⟨htidy, hcalls, hre, hgone, -, hdes₁⟩ :=
    detachPersistentConnectionByPtr_tidy hdetach ha.sound
  have hplace (c' : CallId) : SamePlace w w₁ c' := .of_calls (by rw [hcalls])
  obtain ⟨hleft, rfl⟩ := abandonUnaryCall_left h (ha.sound.keeps htidy.keeps)
    (hat.same (hplace c)).connection (hdes₁.trans hdes) (Keeps.requestDetached htidy.keeps hdet)
  refine ⟨htidy.keeps.trans hleft.gone.tidy.keeps, ?_, rfl⟩
  exact hleft.orderly (ha.move htidy hre fun c' _ => hplace c') (hre.placed hp)
    (hidle.steady (detachPersistentConnectionByPtr_steady k _ _ _ hdetach)) (.inr hgone)

/-- The driver from the submitted request on. -/
theorem unaryExchange_settles {key : Bytes} {k : ConnId} {c : CallId}
    {r : Except Failure UnaryResult} {w w' : World} (h : unaryExchange k c w = some (r, w'))
    (ha : w.Around (· = k) (· = c)) (hf : w.Fresh c k) (hst : Stored w key k)
    (hdes : (w.conns k).destroyed = 0) (husable : (w.conns k).usable = true)
    (hidle : w.Idle k) (hunary : (w.calls c).call.maxResponseMessages = 1) :
    Proceeds w w' ∧ Settles key k (w.calls c).call.retryAttempt w' r := by
  -- The driver does not change the number of the attempt.
  have hsame {w₀ : World} (hsteps : Proceeds w w₀) :
      (w₀.calls c).call.retryAttempt = (w.calls c).call.retryAttempt := by
    have hconfig := congrArg GrpcCall.retryAttempt (Steps.extends hsteps.steps hf.created).config
    exact hconfig
  have honce {w₀ : World} (hsteps : Proceeds w w₀) :
      (w₀.calls c).call.maxResponseMessages = 1 := by
    have hconfig := (Steps.extends hsteps.steps hf.created).config
    exact (congrArg GrpcCall.maxResponseMessages hconfig).trans hunary
  have hr : w.Ready k := by
    simp only [H2Connection.usable, Bool.and_eq_true, Bool.not_eq_true'] at husable
    exact ⟨husable.1, hdes⟩
  obtain ⟨rv, w₁, hsubmit, h⟩ := Exec.bind_some.mp h
  obtain ⟨hsteps₁, ha₁, hcache₁, ⟨streams, outbound, hconn₁⟩, hrefused, htaken⟩ :=
    submitRequest_around hsubmit ha hf hr
  have hst₁ := hst.turn hcache₁
  have hclean₁ : w₁.Clean k := by
    intro hu
    rw [hconn₁] at hu ⊢
    exact hidle.clean hu
  have hr₁ : w₁.Ready k := by
    refine ⟨?_, ?_⟩
    · rw [hconn₁]
      exact hr.dead
    · rw [hconn₁]
      exact hr.destroyed
  have husable₁ : (w₁.conns k).usable = true := by
    rw [hconn₁]
    exact husable
  split at h
  · next hneg =>
    obtain ⟨_, w₂, hnote, habandon⟩ := Exec.bind_some.mp h
    obtain ⟨hf₁, hconn⟩ := hrefused hneg
    have hidle₁ : w₁.Idle k := by
      unfold Idle
      rw [hconn]
      exact hidle
    have hdet₁ : w₁.ledger.RequestDetached c := ha₁.sound.inv.detached_of_unsubmitted hf₁.streamId
    rcases noteSubmitFailure_tidy hnote ha₁.sound with rfl | ⟨htidy, hre, hplace, hdead, hdes₂, hgone⟩
    · obtain ⟨hleft, rfl⟩ := abandonUnaryCall_left habandon ha₁.sound hf₁.attached.connection hr₁.destroyed
        hdet₁
      exact ⟨hsteps₁.trans hleft.gone.tidy.keeps.proceeds,
        hleft.orderly ha₁ (.inl hst₁.cached) hidle₁ (.inl husable₁)⟩
    · obtain ⟨hleft, rfl⟩ := abandonUnaryCall_left habandon (ha₁.sound.keeps htidy.keeps)
        (hf₁.attached.same (hplace c)).connection (hdes₂.trans hr₁.destroyed)
        (Keeps.requestDetached htidy.keeps hdet₁)
      refine ⟨hsteps₁.trans (Keeps.proceeds (htidy.keeps.trans hleft.gone.tidy.keeps)), ?_⟩
      exact hleft.orderly (ha₁.move htidy hre fun c' _ => hplace c')
        (hre.placed (.inl hst₁.cached)) (.of_dead hdead) (.inr hgone)
  · next hnn =>
    obtain ⟨registered, w₂, hregister, h⟩ := Exec.bind_some.mp h
    obtain ⟨hsteps₂, ha₂, hcache₂, hr₂, hsteady₂, hengaged, hsubmitted⟩ :=
      registerGrpcCallStream_around hregister ha₁ (htaken hnn) hr₁
    have hto₂ := hsteps₁.trans hsteps₂
    have hst₂ := hst₁.turn hcache₂
    have hclean₂ := hclean₁.spares hsteady₂.spares
    cases registered with
    | false =>
      simp only [Bool.not_false, if_true] at h
      obtain ⟨_, w₃, hmark, h⟩ := Exec.bind_some.mp h
      obtain ⟨_, w₄, hdetach, h⟩ := Exec.bind_some.mp h
      obtain ⟨hsession, hdead⟩ := markGrpcCallStreamRegistrationFailed_session hmark hr₂
      have hat₃ := (hsubmitted rfl).attached.drives hsession.drives
      have ha₃ := ha₂.turn hsession.turn
      obtain ⟨hkeeps, horder, rfl⟩ := detachAndAbandon_orderly hdetach h ha₃
        (.inl (hst₂.turn hsession.turn.cache).cached) hat₃
        (hsession.drives.destroyed.trans hr₂.destroyed)
        (ha₃.sound.inv.detached_of_dead hat₃.cleared hat₃.connection hdead) (.of_dead hdead)
      exact ⟨hto₂.trans (Keeps.proceeds (hsession.drives.keeps.trans hkeeps)), horder⟩
    | true =>
      have he₂ := hengaged rfl
      simp only [Bool.not_true, Bool.false_eq_true, if_false] at h
      obtain ⟨rv', w₃, hsend, h⟩ := Exec.bind_some.mp h
      obtain ⟨hturn, halive, -⟩ := sendPendingH2Frames_turn hsend ha₂.sound hr₂.destroyed
      have ha₃ := ha₂.turn hturn
      have hst₃ := hst₂.turn hturn.cache
      have he₃ := he₂.drives hturn.drives
      split at h
      · obtain ⟨_, w₄, hbreak, h⟩ := Exec.bind_some.mp h
        obtain ⟨result, w₅, hbuild, h⟩ := Exec.bind_some.mp h
        obtain ⟨rfl, rfl⟩ := Exec.pure_some.mp h
        obtain ⟨hsession, hdead⟩ := breakCall_session hbreak
        have ha₄ := ha₃.turn hsession.turn
        have he₄ := he₃.drives hsession.drives
        have hto₄ := hto₂.trans (Keeps.proceeds (hturn.drives.keeps.trans hsession.drives.keeps))
        obtain ⟨hleft, hretry⟩ := buildUnaryResult_left hbuild ha₄.sound he₄.attached.connection
          he₄.destroyed (Engaged.detached_of_dead he₄ ha₄.sound hdead) (honce hto₄)
        refine ⟨hto₄.trans (Keeps.proceeds hleft.gone.tidy.keeps), ?_⟩
        exact hleft.settles ha₄ (hst₃.turn hsession.turn.cache) (.of_dead hdead)
          fun hyes => (hsame hto₄).symm.trans (hretry hyes)
      · next hzero =>
        have hidle₃ := sendPendingH2Frames_idle hsend ha₂.sound hr₂.destroyed hclean₂
        rw [Exec.get_bind_run] at h
        obtain ⟨ok, w₄, hloop, h⟩ := Exec.bind_some.mp h
        obtain ⟨hturn₄, hdet, hidle₄, hfail⟩ := unaryRecvLoop_turn hloop ha₃.sound ha₃.calm
          ha₃.settled he₃ (halive (not_not.mp hzero)) hidle₃
        have ha₄ := ha₃.turn hturn₄
        have hst₄ := hst₃.turn hturn₄.cache
        have he₄ := he₃.drives hturn₄.drives
        have hto₄ := hto₂.trans (Keeps.proceeds (hturn.drives.keeps.trans hturn₄.drives.keeps))
        split at h
        · obtain ⟨result, w₅, hbuild, h⟩ := Exec.bind_some.mp h
          obtain ⟨rfl, rfl⟩ := Exec.pure_some.mp h
          obtain ⟨hleft, hretry⟩ := buildUnaryResult_left hbuild ha₄.sound he₄.attached.connection
            he₄.destroyed hdet (honce hto₄)
          exact ⟨hto₄.trans hleft.gone.tidy.keeps.proceeds, hleft.settles ha₄ hst₄ hidle₄
            fun hyes => (hsame hto₄).symm.trans (hretry hyes)⟩
        · obtain ⟨_, w₅, hdetach, h⟩ := Exec.bind_some.mp h
          obtain ⟨hkeeps, horder, rfl⟩ := detachAndAbandon_orderly hdetach h ha₄
            (.inl hst₄.cached) he₄.attached he₄.destroyed hdet hidle₄
          exact ⟨hto₄.trans hkeeps.proceeds, horder⟩

/-- The time that remains is negative only behind the deadline. -/
theorem remainingTimeout_late {k : ConnId} {deadline : Nat} {remaining : Int} {w w' : World}
    (h : onEnv (Env.remainingTimeoutUsForDeadline deadline) w = some (remaining, w')) :
    Session k w w' ∧ w'.conns = w.conns ∧ w'.calls = w.calls ∧
      (remaining < 0 → 0 < deadline ∧ w'.env.Elapsed deadline) := by
  obtain ⟨hsession, hconns, hcalls⟩ :=
    onEnv_session (k := k) (Env.remainingTimeoutUsForDeadline_grows deadline) h
  refine ⟨hsession, hconns, hcalls, fun hneg => ?_⟩
  obtain ⟨env, hrun, rfl⟩ := Exec.zoom_some.mp h
  obtain ⟨hpos, hpassed⟩ := Env.remainingTimeoutUsForDeadline_neg hrun hneg
  exact ⟨hpos, .inl hpassed⟩

/-- A call on a stored connection that is usable, before its request is submitted. -/
structure Waiting (key : Bytes) (c : CallId) (k : ConnId) (w : World) : Prop where
  /-- The rest of the state is in order. -/
  around : w.Around (· = k) (· = c)
  /-- The call points at the connection. -/
  connection : (w.calls c).call.connection = some k
  /-- Its request is detached. -/
  detached : w.ledger.RequestDetached c
  /-- The connection is stored. -/
  stored : Stored w key k
  /-- It exists. -/
  destroyed : (w.conns k).destroyed = 0
  /-- It is usable. -/
  usable : (w.conns k).usable = true
  /-- It is idle. -/
  idle : w.Idle k

theorem Waiting.session {key : Bytes} {c : CallId} {k : ConnId} {w w' : World}
    (h : Waiting key c k w) (hs : Session k w w') (hconns : w'.conns = w.conns) :
    Waiting key c k w' := by
  refine ⟨h.around.turn hs.turn, (SamePlace.drives hs.drives c).connection.trans h.connection,
    (Ledger.Driven.of_drives hs.drives.ledger).requestDetached h.detached,
    h.stored.turn hs.turn.cache, hconns ▸ h.destroyed, hconns ▸ h.usable, ?_⟩
  exact h.idle.steady (.of_conns hconns)

/-- The call gives up its connection, which stays usable. -/
theorem Waiting.clear {key : Bytes} {c : CallId} {k : ConnId} {w w' : World} {u : Unit}
    (h : Waiting key c k w) (hclear : clearConnectionCallOwner k c w = some (u, w')) :
    Waiting key c k w' ∧ GaveUp k c w w' := by
  obtain ⟨hgave, hdes, hconn⟩ :=
    clearConnectionCallOwner_gaveUp hclear h.around.sound h.connection h.detached
  obtain ⟨hcache, husable⟩ := clearConnectionCallOwner_place hclear h.around.sound h.connection
  refine ⟨⟨h.around.move hgave.tidy hgave.rehouse fun c' hc' => hgave.others c' hc', hconn,
    hgave.detached, h.stored.turn hcache, hdes.trans h.destroyed, husable.trans h.usable, ?_⟩, hgave⟩
  exact h.idle.steady (clearConnectionCallOwner_steady k c _ _ _ hclear)

/-- The result of a unary call is built once it waits for nothing. -/
theorem Waiting.build {key : Bytes} {c : CallId} {k : ConnId} {w w' : World} {result : UnaryResult}
    (h : Waiting key c k w) (hbuild : buildUnaryResult k c w = some (result, w'))
    (hunary : (w.calls c).call.maxResponseMessages = 1) :
    Proceeds w w' ∧ Settles key k (w.calls c).call.retryAttempt w' (.ok result) := by
  obtain ⟨hleft, hretry⟩ :=
    buildUnaryResult_left hbuild h.around.sound h.connection h.destroyed h.detached hunary
  exact ⟨Keeps.proceeds hleft.gone.tidy.keeps, hleft.settles h.around h.stored h.idle hretry⟩

/-- The exit behind rejected metadata, which leaves the connection in the cache. -/
theorem Waiting.release {key : Bytes} {c : CallId} {k : ConnId} {w w₁ w' : World} {u₁ u₂ : Unit}
    (h : Waiting key c k w) (hclear : clearConnectionCallOwner k c w = some (u₁, w₁))
    (hrelease : releaseCall c w₁ = some (u₂, w')) : Proceeds w w' ∧ w'.Orderly := by
  obtain ⟨h₁, hgave⟩ := h.clear hclear
  obtain ⟨hgone, hconns, hcache⟩ := hgave.release hrelease
  have hcached : w'.ledger.Cached k := (h₁.stored.turn hcache).cached
  refine ⟨Keeps.proceeds hgone.tidy.keeps, h.around.gone hgone (.inl hcached) (fun _ => .inl ?_) ?_⟩
  · rw [hconns]
    exact h₁.usable
  · exact h₁.idle.steady (.of_conns hconns)

/-- The deadline of the call passed. -/
theorem Waiting.expire {key : Bytes} {c : CallId} {k : ConnId} {w w' : World} {u : Unit}
    (h : Waiting key c k w) (hmark : markTimedOut c w = some (u, w'))
    (hpos : 0 < (w.calls c).call.deadlineAbsUs)
    (hlate : w.env.Elapsed (w.calls c).call.deadlineAbsUs) :
    Proceeds w w' ∧ Waiting key c k w' := by
  obtain ⟨hsession, hconns, -⟩ := markTimedOut_session (k := k) hmark hpos hlate
  exact ⟨Keeps.proceeds hsession.drives.keeps, h.session hsession hconns⟩

/-- A stored connection exists. -/
theorem Stored.entry {key : Bytes} {k : ConnId} {w : World} (h : Stored w key k) (hs : w.Sound) :
    k < w.nextConn ∧ (w.conns k).destroyed = 0 := by
  obtain ⟨entry, hfind, rfl⟩ := h
  obtain ⟨hk, hdes, -⟩ := hs.inv.housed.entry entry (List.mem_of_find?_eq_some hfind)
  exact ⟨hk, hdes⟩

/-- `grpc_lite_unary_call_perform_core_on_connection` on a stored connection. -/
theorem unaryCallPerformOnConnection_settles {k : ConnId} {req : CallRequest} {retryAttempt : Nat}
    {r : Except Failure UnaryResult} {w w' : World}
    (h : unaryCallPerformOnConnection k req retryAttempt w = some (r, w')) (ho : w.Orderly)
    (hst : Stored w req.key k) (husable : (w.conns k).usable = true) :
    Steps w w' ∧ Settles req.key k retryAttempt w' r ∧ w.Creates k w' := by
  obtain ⟨conn, w₀, hconn, h⟩ := Exec.bind_some.mp h
  rw [Proc.conn, Exec.get_bind_run] at hconn
  obtain ⟨rfl, rfl⟩ := Exec.pure_some.mp hconn
  simp only [husable, Bool.not_true, Bool.false_eq_true, if_false] at h
  split at h
  · obtain ⟨rfl, rfl⟩ := Exec.pure_some.mp h
    exact ⟨.refl, ho, .of_nextCall rfl k⟩
  · obtain ⟨c, w₁, hnew, h⟩ := Exec.bind_some.mp h
    obtain ⟨hk, hdes⟩ := hst.entry ho.sound
    obtain ⟨hsteps₁, ha₁, hf₁, hconns₁, hcache₁, hcreates, hcall₁⟩ := newCall_fresh hnew ho hk
      ⟨req, retryAttempt, .inl rfl⟩
    have hwait₁ : Waiting req.key c k w₁ :=
      ⟨ha₁, hf₁.attached.connection, ha₁.sound.inv.detached_of_unsubmitted hf₁.streamId,
        hst.turn hcache₁, hconns₁ ▸ hdes, hconns₁ ▸ husable,
        (ho.idle k id).steady (.of_conns hconns₁)⟩
    have hdeadline₁ : (w₁.calls c).call.deadlineAbsUs = req.deadlineAbsUs := by
      rw [hcall₁]
      rfl
    have hsame {w₀ : World} (hsteps : Proceeds w₁ w₀) :
        (w₀.calls c).call.retryAttempt = retryAttempt := by
      have hconfig := congrArg GrpcCall.retryAttempt (Steps.extends hsteps.steps hf₁.created).config
      rw [hcall₁] at hconfig
      exact hconfig
    have honce {w₀ : World} (hsteps : Proceeds w₁ w₀) :
        (w₀.calls c).call.maxResponseMessages = 1 := by
      have hconfig := (Steps.extends hsteps.steps hf₁.created).config
      rw [hcall₁] at hconfig
      exact congrArg GrpcCall.maxResponseMessages hconfig
    obtain ⟨remaining, w₂, hrem, h⟩ := Exec.bind_some.mp h
    obtain ⟨hsession₂, hconns₂, hcalls₂, hlate₂⟩ := remainingTimeout_late (k := k) hrem
    have hwait₂ := hwait₁.session hsession₂ hconns₂
    have hto₂ := Keeps.proceeds hsession₂.drives.keeps
    have hdeadline₂ : (w₂.calls c).call.deadlineAbsUs = req.deadlineAbsUs := by
      rw [hcalls₂, hdeadline₁]
    split at h
    · next hneg =>
      obtain ⟨_, w₃, hmark, h⟩ := Exec.bind_some.mp h
      obtain ⟨result, w₄, hbuild, h⟩ := Exec.bind_some.mp h
      obtain ⟨rfl, rfl⟩ := Exec.pure_some.mp h
      obtain ⟨hsteps₃, hwait₃⟩ := hwait₂.expire hmark (hdeadline₂.symm ▸ (hlate₂ hneg).1)
        (hdeadline₂.symm ▸ (hlate₂ hneg).2)
      obtain ⟨hsteps₄, hsettles⟩ := hwait₃.build hbuild (honce (hto₂.trans hsteps₃))
      rw [hsame (hto₂.trans hsteps₃)] at hsettles
      have hto := hto₂.trans (hsteps₃.trans hsteps₄)
      exact ⟨hsteps₁.trans (Proceeds.steps hto), hsettles, hcreates _ hto⟩
    · obtain ⟨remaining', w₃, hrem', h⟩ := Exec.bind_some.mp h
      obtain ⟨hsession₃, hconns₃, hcalls₃, hlate₃⟩ := remainingTimeout_late (k := k) hrem'
      have hwait₃ := hwait₂.session hsession₃ hconns₃
      have hto₃ := hto₂.trans (Keeps.proceeds hsession₃.drives.keeps)
      have hdeadline₃ : (w₃.calls c).call.deadlineAbsUs = req.deadlineAbsUs := by
        rw [hcalls₃, hdeadline₂]
      split at h
      · next hneg =>
        obtain ⟨_, w₄, hmark, h⟩ := Exec.bind_some.mp h
        obtain ⟨_, w₅, hclear, h⟩ := Exec.bind_some.mp h
        obtain ⟨result, w₆, hbuild, h⟩ := Exec.bind_some.mp h
        obtain ⟨rfl, rfl⟩ := Exec.pure_some.mp h
        obtain ⟨hsteps₄, hwait₄⟩ := hwait₃.expire hmark (hdeadline₃.symm ▸ (hlate₃ hneg).1)
          (hdeadline₃.symm ▸ (hlate₃ hneg).2)
        obtain ⟨hwait₅, hgave⟩ := hwait₄.clear hclear
        have hto₅ := hto₃.trans (hsteps₄.trans (Keeps.proceeds hgave.tidy.keeps))
        obtain ⟨hsteps₆, hsettles⟩ := hwait₅.build hbuild (honce hto₅)
        rw [hsame hto₅] at hsettles
        have hto := hto₅.trans hsteps₆
        exact ⟨hsteps₁.trans (Proceeds.steps hto), hsettles, hcreates _ hto⟩
      · split at h
        · obtain ⟨_, w₄, hclear, h⟩ := Exec.bind_some.mp h
          obtain ⟨_, w₅, hrelease, h⟩ := Exec.bind_some.mp h
          obtain ⟨rfl, rfl⟩ := Exec.pure_some.mp h
          obtain ⟨hsteps₅, horder⟩ := hwait₃.release hclear hrelease
          have hto := hto₃.trans hsteps₅
          exact ⟨hsteps₁.trans (Proceeds.steps hto), horder, hcreates _ hto⟩
        · have hd₃ := Ledger.Driven.of_drives (hsession₂.trans hsession₃).drives.ledger
          have hf₃ : w₃.Fresh c k := hf₁.same (hcalls₃.trans hcalls₂) hd₃.nextCall
          obtain ⟨hsteps₄, hsettles⟩ := unaryExchange_settles h hwait₃.around hf₃ hwait₃.stored
            hwait₃.destroyed hwait₃.usable hwait₃.idle (honce hto₃)
          rw [hsame hto₃] at hsettles
          have hto := hto₃.trans hsteps₄
          exact ⟨hsteps₁.trans (Proceeds.steps hto), hsettles, hcreates _ hto⟩

/-! ## The attempts of a call -/

/-- The removal of a stored connection that is not usable, if it is not. -/
theorem removeUnusable_orderly {key : Bytes} {k : ConnId} {w w' : World} {u : Unit}
    (h : removeUnusablePersistentConnection key k w = some (u, w')) (hst : Stored w key k)
    (ho : w.Orderly ∨ Stale w key) : Keeps w w' ∧ w'.Orderly := by
  obtain ⟨entry, hfind, rfl⟩ := hst
  by_cases husable : (w.conns entry.connection).usable = true
  · obtain ⟨conn, w₁, hconn, h⟩ := Exec.bind_some.mp h
    rw [Proc.conn, Exec.get_bind_run] at hconn
    obtain ⟨rfl, rfl⟩ := Exec.pure_some.mp hconn
    simp only [husable, if_true] at h
    obtain ⟨-, rfl⟩ := Exec.pure_some.mp h
    refine ⟨.refl, ho.resolve_right ?_⟩
    rintro ⟨k, -, ⟨entry', hfind', rfl⟩, hunusable⟩
    rw [← Option.some.inj (hfind.symm.trans hfind')] at hunusable
    exact absurd (hunusable.symm.trans husable) Bool.false_ne_true
  · have hwide : w.Around (· = entry.connection) fun _ => False := by
      rcases ho with ho | ⟨k, ho, ⟨entry', hfind', rfl⟩, -⟩
      · exact ho.widen (fun _ hno => hno.elim) fun _ => id
      · rw [Option.some.inj (hfind.symm.trans hfind')]
        exact ho
    obtain ⟨hor, hund, -⟩ := removeUnusablePersistentConnection_orderly h hwide
      (Bool.not_eq_true _ ▸ husable) hfind
    exact ⟨hund.keeps, hor⟩

/-- How the attempts of a unary call leave the state. -/
def AttemptsSettle (key : Bytes) (w' : World) : UnaryAttempts → Prop
  | .result k _ => Stored w' key k ∧ (w'.Orderly ∨ Stale w' key)
  | _ => w'.Orderly

theorem setupFailureStatus_orderly {error : SetupError} {deadline : Nat} {code : Int}
    {w w' : World} (h : setupFailureStatus error deadline w = some (code, w')) (ho : w.Orderly) :
    Keeps w w' ∧ w'.Orderly := by
  unfold setupFailureStatus at h
  split at h
  · obtain ⟨now, w₁, hnow, h⟩ := Exec.bind_some.mp h
    obtain ⟨-, rfl⟩ := Exec.pure_some.mp h
    obtain ⟨horder, hund, -⟩ := onEnv_orderly Env.monotonicUs_grows hnow ho
    exact ⟨hund.keeps, horder⟩
  · obtain ⟨-, rfl⟩ := Exec.pure_some.mp h
    exact ⟨.refl, ho⟩

/-- The attempt loop of `grpc_lite_perform_call_unary`. Only the first of two attempts can
be repeated, so the loop does not run out of attempts. -/
theorem unaryAttempts_settles {req : CallRequest} {retryAttempt left : Nat} {r : UnaryAttempts}
    {w w' : World} (h : unaryAttempts req retryAttempt left w = some (r, w'))
    (hleft : retryAttempt + left = 2) (ho : w.Orderly ∨ Stale w req.key)
    (hlast : left = 0 → w.Orderly) : Steps w w' ∧ AttemptsSettle req.key w' r := by
  induction left generalizing w retryAttempt with
  | zero =>
    obtain ⟨rfl, rfl⟩ := Exec.pure_some.mp h
    exact ⟨.refl, hlast rfl⟩
  | succ left ih =>
    obtain ⟨got, w₁, hget, h⟩ := Exec.bind_some.mp h
    obtain ⟨ho₁, hund₁, hstored⟩ := getPersistentConnection_orderly hget ho
    have hto₁ := Keeps.steps hund₁.keeps
    cases got with
    | error error =>
      obtain ⟨code, w₂, hstatus, h⟩ := Exec.bind_some.mp h
      obtain ⟨rfl, rfl⟩ := Exec.pure_some.mp h
      obtain ⟨hkeeps, horder⟩ := setupFailureStatus_orderly hstatus ho₁
      exact ⟨hto₁.trans hkeeps.steps, horder⟩
    | ok k =>
      obtain ⟨hst₁, husable₁⟩ := hstored k rfl
      obtain ⟨attempt, w₂, hperform, h⟩ := Exec.bind_some.mp h
      obtain ⟨hsteps₂, hsettles, -⟩ :=
        unaryCallPerformOnConnection_settles hperform ho₁ hst₁ husable₁
      have hto₂ := hto₁.trans hsteps₂
      cases attempt with
      | error failure =>
        obtain ⟨rfl, rfl⟩ := Exec.pure_some.mp h
        exact ⟨hto₂, hsettles⟩
      | ok result =>
        obtain ⟨hst₂, ho₂, hretry⟩ := hsettles
        simp only at h
        split at h
        · obtain ⟨rfl, rfl⟩ := Exec.pure_some.mp h
          exact ⟨hto₂, hst₂, ho₂⟩
        · next hagain =>
          have hfirst : retryAttempt = 0 := hretry (by simpa using hagain)
          obtain ⟨_, w₃, hwhen, h⟩ := Exec.bind_some.mp h
          obtain ⟨-, hremove⟩ | ⟨-, rfl⟩ := Exec.when_some.mp hwhen
          · obtain ⟨hkeeps, horder⟩ := removeUnusable_orderly hremove hst₂ ho₂
            obtain ⟨hsteps, hr⟩ := ih h (by omega) (.inl horder) (by omega)
            exact ⟨hto₂.trans ((Keeps.steps hkeeps).trans hsteps), hr⟩
          · obtain ⟨hsteps, hr⟩ := ih h (by omega) ho₂ (by omega)
            exact ⟨hto₂.trans hsteps, hr⟩

/-- The attempts of a unary call and the eviction behind them leave the state in order. -/
theorem performUnary_orderly {req : CallRequest} {r : UnaryAttempts} {w w' : World}
    (h : performUnary req w = some (r, w')) (ho : w.Orderly) : Steps w w' ∧ w'.Orderly := by
  obtain ⟨outcome, w₁, hattempts, h⟩ := Exec.bind_some.mp h
  obtain ⟨_, w₂, hevict, h⟩ := Exec.bind_some.mp h
  obtain ⟨rfl, rfl⟩ := Exec.pure_some.mp h
  obtain ⟨hsteps, hsettle⟩ := unaryAttempts_settles hattempts rfl (.inl ho) (by omega)
  cases outcome with
  | result k result =>
    obtain ⟨hkeeps, horder⟩ := removeUnusable_orderly hevict hsettle.1 hsettle.2
    exact ⟨hsteps.trans hkeeps.steps, horder⟩
  | setupFailure code error =>
    obtain ⟨-, rfl⟩ := Exec.pure_some.mp hevict
    exact ⟨hsteps, hsettle⟩
  | failure failure =>
    obtain ⟨-, rfl⟩ := Exec.pure_some.mp hevict
    exact ⟨hsteps, hsettle⟩

end Proc

end GrpcLite
