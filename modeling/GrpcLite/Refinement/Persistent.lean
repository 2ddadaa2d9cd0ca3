import GrpcLite.Refinement.Orderly

/-!
# The lookup of a connection

The preflight of a cached connection rejects it only behind a change that makes
it unusable, and whatever the lookup returns is usable, stored under the key and
without an error detail. The state is orderly again behind it.
-/

namespace GrpcLite

namespace Proc

open World

theorem setErrorDetail_session {k : ConnId} {detail : ErrorDetail} {w w' : World} {u : Unit}
    (h : setErrorDetail k detail w = some (u, w')) : Session k w w' := by
  rw [Exec.modify_some.mp h]
  exact .setConn (.tune rfl (.inr ⟨rfl, rfl⟩)) rfl

theorem markConnectionDead_session {k : ConnId} {errorCode : Int} {w w' : World} {u : Unit}
    (h : markConnectionDead k errorCode w = some (u, w')) :
    Session k w w' ∧ (w'.conns k).dead = true := by
  rw [Exec.modify_some.mp h]
  refine ⟨die_session k w errorCode, ?_⟩
  rw [setConn_conns_self]
  rfl

theorem noteTlsFailure_session {k : ConnId} {sslError : Nat} {tlsFailed : Nat → ErrorDetail}
    {w w' : World} {u : Unit} (h : noteTlsFailure k sslError tlsFailed w = some (u, w')) :
    Session k w w' ∧ (w'.conns k).dead = true := by
  unfold noteTlsFailure at h
  split at h
  · obtain ⟨_, w₁, hdetail, h⟩ := Exec.bind_some.mp h
    obtain ⟨hdie, hdead⟩ := markConnectionDead_session h
    exact ⟨(setErrorDetail_session hdetail).trans hdie, hdead⟩
  · obtain ⟨_, w₁, hdetail, h⟩ := Exec.bind_some.mp h
    obtain ⟨hdie, hdead⟩ := markConnectionDead_session h
    exact ⟨(setErrorDetail_session hdetail).trans hdie, hdead⟩

/-- One read or peek of the preflight: it fails and kills the connection, or it changes
nothing that matters for its reuse. -/
theorem preflightRead_session {k : ConnId} {length : Nat} {draining : Bool}
    {tlsFailed : Nat → ErrorDetail} {r : Option Int} {w w' : World}
    (h : preflightRead k length draining tlsFailed w = some (r, w')) (hr : w.Ready k) :
    Session k w w' ∧ ((r = some (-1) ∧ (w'.conns k).dead = true) ∨
      (Steady w w' ∧ (w'.conns k).dead = false ∧ ∀ n, r = some n → 0 < n)) := by
  obtain ⟨_, w₁, hlog, h⟩ := Exec.bind_some.mp h
  have hsteady₁ : Steady w w₁ := log_steady k _ _ _ _ hlog
  obtain rfl := Exec.modify_some.mp hlog
  have hsession₁ : Session k w (w.log k .read) := .log (by simp) hr
  obtain ⟨conn, w₂, hconn, h⟩ := Exec.bind_some.mp h
  rw [Proc.conn, Exec.get_bind_run] at hconn
  obtain ⟨rfl, rfl⟩ := Exec.pure_some.mp hconn
  split at h
  · obtain ⟨⟨nread, sslError, errno⟩, w₃, hask, h⟩ := Exec.bind_some.mp h
    obtain ⟨_, w₄, herrno, h⟩ := Exec.bind_some.mp h
    obtain ⟨hsession₃, hconns₃, -⟩ := onEnv_session (k := k) (Env.ask_grows _) hask
    obtain ⟨hsession₄, hconns₄, -⟩ := onEnv_session (k := k) (Env.setErrno_grows _) herrno
    have hto₄ := hsession₁.trans (hsession₃.trans hsession₄)
    have hsteady₄ : Steady w w₄ := trans_of Steady hsteady₁ (.of_conns (hconns₄.trans hconns₃))
    have hdead₄ : (w₄.conns k).dead = false := by
      rw [hconns₄, hconns₃]
      exact hr.dead
    split at h
    · next hpos =>
      obtain ⟨rfl, rfl⟩ := Exec.pure_some.mp h
      exact ⟨hto₄, .inr ⟨hsteady₄, hdead₄, fun n hn => Option.some.inj hn ▸ hpos⟩⟩
    · obtain ⟨_, w₅, hwhen, h⟩ := Exec.bind_some.mp h
      have hwhen₅ : Session k w₄ w₅ ∧ Steady w₄ w₅ ∧ (w₅.conns k).dead = (w₄.conns k).dead := by
        obtain ⟨-, hset⟩ | ⟨-, rfl⟩ := Exec.when_some.mp hwhen
        · have hsteady : Steady w₄ w₅ := by
            exact .setConn hset (fun _ => rfl) (fun _ => rfl) fun _ => ⟨rfl, id⟩
          obtain rfl := Exec.modify_some.mp hset
          refine ⟨.setConn (.tune rfl (.inr ⟨rfl, rfl⟩)) rfl, hsteady, ?_⟩
          rw [setConn_conns_self]
        · exact ⟨.refl, Std.Refl.refl _, rfl⟩
      obtain ⟨hsession₅, hsteady₅, hdead₅⟩ := hwhen₅
      split at h
      · obtain ⟨rfl, rfl⟩ := Exec.pure_some.mp h
        exact ⟨hto₄.trans hsession₅, .inr ⟨trans_of Steady hsteady₄ hsteady₅,
          hdead₅.trans hdead₄, (by intro n hn; cases hn)⟩⟩
      · obtain ⟨_, w₆, hfail, h⟩ := Exec.bind_some.mp h
        obtain ⟨rfl, rfl⟩ := Exec.pure_some.mp h
        obtain ⟨hsession₆, hdead₆⟩ := noteTlsFailure_session hfail
        exact ⟨hto₄.trans (hsession₅.trans hsession₆), .inl ⟨rfl, hdead₆⟩⟩
  · obtain ⟨⟨nread, errno⟩, w₃, hask, h⟩ := Exec.bind_some.mp h
    obtain ⟨hsession₃, hconns₃, -⟩ := onEnv_session (k := k) (Env.ask_grows _) hask
    have hto₃ := hsession₁.trans hsession₃
    have hsteady₃ : Steady w w₃ := trans_of Steady hsteady₁ (.of_conns hconns₃)
    have hdead₃ : (w₃.conns k).dead = false := by
      rw [hconns₃]
      exact hr.dead
    simp only at h
    split at h
    · next hpos =>
      obtain ⟨rfl, rfl⟩ := Exec.pure_some.mp h
      exact ⟨hto₃, .inr ⟨hsteady₃, hdead₃, fun n hn => Option.some.inj hn ▸ hpos⟩⟩
    split at h
    · obtain ⟨_, w₄, hdetail, h⟩ := Exec.bind_some.mp h
      obtain ⟨_, w₅, hdie, h⟩ := Exec.bind_some.mp h
      obtain ⟨rfl, rfl⟩ := Exec.pure_some.mp h
      obtain ⟨hsession₅, hdead₅⟩ := markConnectionDead_session hdie
      exact ⟨hto₃.trans ((setErrorDetail_session hdetail).trans hsession₅), .inl ⟨rfl, hdead₅⟩⟩
    · obtain ⟨_, w₄, herrno, h⟩ := Exec.bind_some.mp h
      obtain ⟨hsession₄, hconns₄, -⟩ := onEnv_session (k := k) (Env.setErrno_grows _) herrno
      have hto₄ := hto₃.trans hsession₄
      split at h
      · obtain ⟨rfl, rfl⟩ := Exec.pure_some.mp h
        refine ⟨hto₄, .inr ⟨trans_of Steady hsteady₃ (.of_conns hconns₄), ?_,
          (by intro n hn; cases hn)⟩⟩
        rw [hconns₄]
        exact hdead₃
      · obtain ⟨_, w₅, hdie, h⟩ := Exec.bind_some.mp h
        obtain ⟨rfl, rfl⟩ := Exec.pure_some.mp h
        obtain ⟨hsession₅, hdead₅⟩ := markConnectionDead_session hdie
        exact ⟨hto₄.trans hsession₅, .inl ⟨rfl, hdead₅⟩⟩

/-- The flush of a drain round. -/
theorem drainFlush_turn {k : ConnId} {deadline : Nat} {ok : Bool} {w w' : World}
    (h : drainFlush k deadline w = some (ok, w')) (hs : w.Sound) (hr : w.Ready k) :
    Turn k w w' ∧ (ok = true → (w.Clean k → w'.Idle k) ∧ (w'.conns k).dead = false) ∧
      (ok = false → (w'.conns k).dead = true) := by
  obtain ⟨wants, w₁, hwants, h⟩ := Exec.bind_some.mp h
  obtain ⟨hsession₁, -, hdead₁, hsteady₁, hdry⟩ := sessionWantWrite_session hwants
  cases wants with
  | false =>
    obtain ⟨rfl, rfl⟩ := Exec.pure_some.mp h
    refine ⟨hsession₁.turn, fun _ => ⟨fun hclean => ?_, hdead₁.trans hr.dead⟩,
      (by intro hno; cases hno)⟩
    exact (hclean.spares hsteady₁.spares).idle (hdry rfl)
  | true =>
    obtain ⟨rv, w₂, hsend, h⟩ := Exec.bind_some.mp h
    have hs₁ := hs.drives hsession₁.drives
    have hdes₁ := hsession₁.drives.destroyed.trans hr.destroyed
    obtain ⟨hturn, halive, -⟩ := sendPendingH2FramesWithDeadline_turn hsend hs₁ hdes₁
    have hto₂ := hsession₁.turn.trans hturn
    split at h
    · next hrv =>
      obtain ⟨rfl, rfl⟩ := Exec.pure_some.mp h
      refine ⟨hto₂, fun _ => ⟨fun hclean => ?_, halive hrv⟩, (by intro hno; cases hno)⟩
      exact sendPendingH2FramesWithDeadline_idle hsend hs₁ hdes₁
        (hclean.spares hsteady₁.spares)
    · obtain ⟨_, w₃, hdetail, h⟩ := Exec.bind_some.mp h
      obtain ⟨_, w₄, hdie, h⟩ := Exec.bind_some.mp h
      obtain ⟨rfl, rfl⟩ := Exec.pure_some.mp h
      obtain rfl := Exec.modify_some.mp hdetail
      obtain ⟨hsession₄, hdead⟩ := markConnectionDead_session hdie
      have hnote : Session k w₂ (w₂.setConn k fun conn =>
          { conn with lastErrorDetail := conn.lastErrorDetail <|> some (.preflightSendFailed rv) }) :=
        .setConn (.tune rfl (.inr ⟨rfl, rfl⟩)) rfl
      exact ⟨hto₂.trans (hnote.trans hsession₄).turn, (by intro hno; cases hno), fun _ => hdead⟩

/-- What a rejected drain leaves: the connection drains from now on. -/
theorem giveUpDrain_turn {k : ConnId} {ok : Bool} {w w' : World}
    (h : (do setErrorDetail k .preflightDrainLimit
             setConn k (·.markDraining 0 Nghttp2.noError)
             return false : Proc Bool) w = some (ok, w')) :
    Turn k w w' ∧ (w'.conns k).usable = ok ∧ (ok = true → w.Idle k → w'.Idle k) := by
  obtain ⟨_, w₁, hdetail, h⟩ := Exec.bind_some.mp h
  obtain ⟨_, w₂, hdrain, h⟩ := Exec.bind_some.mp h
  obtain ⟨rfl, rfl⟩ := Exec.pure_some.mp h
  obtain rfl := Exec.modify_some.mp hdrain
  have hdrained : Turn k w₁ (w₁.setConn k (·.markDraining 0 Nghttp2.noError)) :=
    .of_drive (.drain 0 Nghttp2.noError) rfl
  refine ⟨(setErrorDetail_session hdetail).turn.trans hdrained, ?_,
    (by intro hno; cases hno)⟩
  rw [setConn_conns_self]
  simp [H2Connection.usable, H2Connection.markDraining]

/-- A connection that ends dead is not usable. -/
theorem usable_of_dead {conn : H2Connection} (h : conn.dead = true) : conn.usable = false := by
  simp [H2Connection.usable, h]

/-- The drain ends with a usable connection or gives up one that is not. -/
theorem drainLoop_turn {k : ConnId} {deadline maxBytes iterations totalRead : Nat} {ok : Bool}
    {w w' : World} (h : drainLoop k deadline maxBytes iterations totalRead w = some (ok, w'))
    (hs : w.Sound) (hcalm : w.Calm) (hr : w.Ready k) :
    Turn k w w' ∧ (w'.conns k).usable = ok ∧ (ok = true → w.Idle k → w'.Idle k) := by
  induction iterations generalizing w totalRead with
  | zero => exact giveUpDrain_turn h
  | succ iterations ih =>
    unfold drainLoop at h
    split at h
    · exact giveUpDrain_turn h
    · obtain ⟨r, w₁, hread, h⟩ := Exec.bind_some.mp h
      obtain ⟨hsession₁, hcases⟩ := preflightRead_session hread hr
      rcases hcases with ⟨rfl, hdead₁⟩ | ⟨hsteady₁, hdead₁, hpos⟩
      · obtain ⟨rfl, rfl⟩ := Exec.pure_some.mp h
        exact ⟨hsession₁.turn, usable_of_dead hdead₁, (by intro hno; cases hno)⟩
      · cases r with
        | none =>
          obtain ⟨conn, w₂, hconn, h⟩ := Exec.bind_some.mp h
          rw [Proc.conn, Exec.get_bind_run] at hconn
          obtain ⟨rfl, rfl⟩ := Exec.pure_some.mp hconn
          obtain ⟨rfl, rfl⟩ := Exec.pure_some.mp h
          exact ⟨hsession₁.turn, rfl, fun _ hidle => hidle.steady hsteady₁⟩
        | some nread =>
          have hnn : ¬nread < 0 := by
            have := hpos nread rfl
            omega
          simp only [if_neg hnn] at h
          have hs₁ := hs.drives hsession₁.drives
          have hcalm₁ := hcalm.drives hsession₁.drives
          have hr₁ : w₁.Ready k := ⟨hdead₁, hsession₁.drives.destroyed.trans hr.destroyed⟩
          obtain ⟨rv, w₂, hfeed, h⟩ := Exec.bind_some.mp h
          obtain ⟨hsession₂, -⟩ := sessionMemRecv_session hfeed hs₁ hcalm₁ hr₁
          have hspares₂ : Spares w w₂ :=
            trans_of Spares hsteady₁.spares (sessionMemRecv_spares k _ _ _ hfeed)
          have hto₂ := hsession₁.trans hsession₂
          split at h
          · obtain ⟨_, w₃, hdetail, h⟩ := Exec.bind_some.mp h
            obtain ⟨_, w₄, hdie, h⟩ := Exec.bind_some.mp h
            obtain ⟨rfl, rfl⟩ := Exec.pure_some.mp h
            obtain ⟨hsession₄, hdead₄⟩ := markConnectionDead_session hdie
            exact ⟨(hto₂.trans ((setErrorDetail_session hdetail).trans hsession₄)).turn,
              usable_of_dead hdead₄, (by intro hno; cases hno)⟩
          · obtain ⟨conn, w₃, hconn, h⟩ := Exec.bind_some.mp h
            rw [Proc.conn, Exec.get_bind_run] at hconn
            obtain ⟨rfl, rfl⟩ := Exec.pure_some.mp hconn
            split at h
            · next hunusable =>
              obtain ⟨rfl, rfl⟩ := Exec.pure_some.mp h
              exact ⟨hto₂.turn, by simpa using hunusable, (by intro hno; cases hno)⟩
            · next husable =>
              have hr₂ : w₂.Ready k := by
                refine ⟨?_, hto₂.drives.destroyed.trans hr.destroyed⟩
                simp only [H2Connection.usable, Bool.not_and, Bool.not_not, Bool.or_eq_true,
                  not_or, Bool.not_eq_true] at husable
                exact husable.1
              obtain ⟨flushed, w₃, hflush, h⟩ := Exec.bind_some.mp h
              obtain ⟨hturn₃, hyes, hno⟩ := drainFlush_turn hflush (hs.drives hto₂.drives) hr₂
              have hto₃ := hto₂.turn.trans hturn₃
              cases flushed with
              | false =>
                obtain ⟨rfl, rfl⟩ := Exec.pure_some.mp h
                exact ⟨hto₃, usable_of_dead (hno rfl), (by intro hno; cases hno)⟩
              | true =>
                obtain ⟨hflushed, hdead₃⟩ := hyes rfl
                obtain ⟨hturn, husable', hkeeps⟩ := ih h (hs.drives hto₃.drives)
                  (hcalm.drives hto₃.drives)
                  ⟨hdead₃, hto₃.drives.destroyed.trans hr.destroyed⟩
                exact ⟨hto₃.trans hturn, husable', fun hok hidle =>
                  hkeeps hok (hflushed (hidle.clean.spares hspares₂))⟩

/-- `preflight_persistent_connection` accepts exactly the connections that are usable
afterwards; a rejected one has been made unusable. -/
theorem preflightPersistentConnection_turn {k : ConnId} {deadline : Nat} {ok : Bool}
    {w w' : World} (h : preflightPersistentConnection k deadline w = some (ok, w')) (hs : w.Sound)
    (hcalm : w.Calm) (hdes : (w.conns k).destroyed = 0) :
    Turn k w w' ∧ (w'.conns k).usable = ok ∧ (ok = true → w.Idle k → w'.Idle k) := by
  obtain ⟨conn, w₁, hconn, h⟩ := Exec.bind_some.mp h
  rw [Proc.conn, Exec.get_bind_run] at hconn
  obtain ⟨rfl, rfl⟩ := Exec.pure_some.mp hconn
  split at h
  · next hunusable =>
    obtain ⟨rfl, rfl⟩ := Exec.pure_some.mp h
    exact ⟨.refl, by simpa using hunusable, (by intro hno; cases hno)⟩
  · next husable =>
    have husable' : (w.conns k).usable = true := by simpa using husable
    have hr : w.Ready k := by
      refine ⟨?_, hdes⟩
      simp only [H2Connection.usable, Bool.and_eq_true, Bool.not_eq_true'] at husable'
      exact husable'.1
    split at h
    · obtain ⟨rfl, rfl⟩ := Exec.pure_some.mp h
      exact ⟨.refl, husable', fun _ => id⟩
    · obtain ⟨r, w₂, hread, h⟩ := Exec.bind_some.mp h
      obtain ⟨hsession, hcases⟩ := preflightRead_session hread hr
      rcases hcases with ⟨rfl, hdead⟩ | ⟨hsteady, hdead, hpos⟩
      · obtain ⟨rfl, rfl⟩ := Exec.pure_some.mp h
        exact ⟨hsession.turn, usable_of_dead hdead, (by intro hno; cases hno)⟩
      · have husable₂ : (w₂.conns k).usable = true := by
          have hdraining := hsteady.draining k
          simp only [H2Connection.usable, Bool.and_eq_true, Bool.not_eq_true'] at husable' ⊢
          exact ⟨hdead, hdraining.trans husable'.2⟩
        cases r with
        | none =>
          obtain ⟨rfl, rfl⟩ := Exec.pure_some.mp h
          exact ⟨hsession.turn, husable₂, fun _ hidle => hidle.steady hsteady⟩
        | some nread =>
          have hnn : ¬nread < 0 := by
            have := hpos nread rfl
            omega
          simp only [if_neg hnn] at h
          obtain ⟨conn, w₃, hconn, h⟩ := Exec.bind_some.mp h
          rw [Proc.conn, Exec.get_bind_run] at hconn
          obtain ⟨rfl, rfl⟩ := Exec.pure_some.mp hconn
          simp only [husable₂, Bool.not_true, Bool.false_eq_true, if_false] at h
          rw [Exec.get_bind_run] at h
          obtain ⟨hturn, hend, hkeeps⟩ := drainLoop_turn h (hs.drives hsession.drives)
            (hcalm.drives hsession.drives)
            ⟨hdead, hsession.drives.destroyed.trans hr.destroyed⟩
          exact ⟨hsession.turn.trans hturn, hend, fun hok hidle => hkeeps hok (hidle.steady hsteady)⟩

/-! ## Lookup -/

/-- A connection is the one that the cache holds under a key. -/
def Stored (w : World) (key : Bytes) (k : ConnId) : Prop :=
  ∃ entry, (w.cache.find? fun e => e.key = key) = some entry ∧ entry.connection = k

theorem Stored.cached {w : World} {key : Bytes} {k : ConnId} (h : Stored w key k) :
    w.ledger.Cached k := by
  obtain ⟨entry, hfind, hk⟩ := h
  exact ⟨entry, List.mem_of_find?_eq_some hfind, hk⟩

/-- The calls are where they were, and no request is touched. -/
structure Undisturbed (w w' : World) : Prop where
  /-- The moves made. -/
  keeps : Keeps w w'
  /-- The places of the calls. -/
  calls : ∀ c, SamePlace w w' c

theorem Undisturbed.trans {w w₁ w' : World} (h : Undisturbed w w₁) (h' : Undisturbed w₁ w') :
    Undisturbed w w' :=
  ⟨h.keeps.trans h'.keeps, fun c => (h.calls c).trans (h'.calls c)⟩

theorem Turn.undisturbed {k : ConnId} {w w' : World} (h : Turn k w w') : Undisturbed w w' :=
  ⟨h.drives.keeps, fun c => .drives h.drives c⟩

/-- A stored connection leaves the cache. -/
theorem evict_orderly {key : Bytes} {entry : CacheEntry} {w w' : World} {u : Unit}
    (h : evict key entry.connection w = some (u, w'))
    (ho : w.Around (· = entry.connection) fun _ => False) (hidle : w.Idle entry.connection)
    (hfind : (w.cache.find? fun e => e.key = key) = some entry) :
    w'.Orderly ∧ Undisturbed w w' ∧ ∀ e ∈ w'.cache, e.key ≠ key := by
  obtain ⟨htidy, hcalls, hre, hout, hkept, hkeys⟩ := evict_tidy h ho.sound hfind
  have hplace (c : CallId) : SamePlace w w' c := .of_calls (by rw [hcalls])
  have hmoved := ho.move htidy hre fun c _ => hplace c
  exact ⟨hmoved.settle (fun _ => hkept) (fun hin => absurd hin hout)
    (hidle.steady (evict_steady key entry.connection _ _ _ h)), ⟨htidy.keeps, hplace⟩, hkeys⟩

/-- The removal of a stored connection that is not usable. -/
theorem removeUnusablePersistentConnection_orderly {key : Bytes} {entry : CacheEntry}
    {w w' : World} {u : Unit}
    (h : removeUnusablePersistentConnection key entry.connection w = some (u, w'))
    (ho : w.Around (· = entry.connection) fun _ => False)
    (hun : (w.conns entry.connection).usable = false)
    (hfind : (w.cache.find? fun e => e.key = key) = some entry) :
    w'.Orderly ∧ Undisturbed w w' ∧ ∀ e ∈ w'.cache, e.key ≠ key := by
  obtain ⟨conn, w₁, hconn, h⟩ := Exec.bind_some.mp h
  rw [Proc.conn, Exec.get_bind_run] at hconn
  obtain ⟨rfl, rfl⟩ := Exec.pure_some.mp hconn
  simp only [hun, Bool.false_eq_true, if_false] at h
  exact evict_orderly h ho (.of_unusable hun) hfind

/-- In order but for an unusable connection under a key, which the next lookup removes. -/
def Stale (w : World) (key : Bytes) : Prop :=
  ∃ k, w.Around (· = k) (fun _ => False) ∧ Stored w key k ∧ (w.conns k).usable = false

/-- The cached connection of a key. -/
theorem adoptPersistentConnection_orderly {key : Bytes} {deadline : Nat} {r : Option ConnId}
    {w w' : World} (h : adoptPersistentConnection key deadline w = some (r, w'))
    (ho : w.Orderly ∨ Stale w key) :
    w'.Orderly ∧ Undisturbed w w' ∧ (r = none → ∀ e ∈ w'.cache, e.key ≠ key) ∧
      ∀ k, r = some k → Stored w' key k ∧ (w'.conns k).usable = true := by
  obtain ⟨found, w₁, hread, h⟩ := Exec.bind_some.mp h
  rw [findEntry, Exec.get_bind_run] at hread
  obtain ⟨rfl, rfl⟩ := Exec.pure_some.mp hread
  cases hfind : w.cache.find? fun entry => entry.key = key with
  | none =>
    simp only [hfind] at h
    obtain ⟨rfl, rfl⟩ := Exec.pure_some.mp h
    have ho : w.Orderly := by
      refine ho.resolve_right ?_
      rintro ⟨k, -, ⟨entry, hentry, -⟩, -⟩
      exact absurd (hfind.symm.trans hentry) (by intro hno; cases hno)
    refine ⟨ho, ⟨.refl, fun _ => .of_calls rfl⟩, fun _ e he hkey => ?_,
      (by intro k hk; cases hk)⟩
    exact absurd (decide_eq_true hkey) (List.find?_eq_none.mp hfind e he)
  | some entry =>
    simp only [hfind] at h
    have hmem : entry ∈ w.cache := List.mem_of_find?_eq_some hfind
    have hwide : w.Around (· = entry.connection) fun _ => False := by
      rcases ho with ho | ⟨k, ho, ⟨entry', hfind', rfl⟩, -⟩
      · exact ho.widen (fun _ hno => hno.elim) fun _ => id
      · rw [Option.some.inj (hfind.symm.trans hfind')]
        exact ho
    have hdes : (w.conns entry.connection).destroyed = 0 :=
      (hwide.sound.inv.housed.entry entry hmem).2.1
    obtain ⟨conn, w₂, hconn, h⟩ := Exec.bind_some.mp h
    rw [Proc.conn, Exec.get_bind_run] at hconn
    obtain ⟨rfl, rfl⟩ := Exec.pure_some.mp hconn
    split at h
    · next hunusable =>
      obtain ⟨_, w₃, hremove, h⟩ := Exec.bind_some.mp h
      obtain ⟨rfl, rfl⟩ := Exec.pure_some.mp h
      obtain ⟨hor, hund, hkeys⟩ := removeUnusablePersistentConnection_orderly hremove hwide
        (by simpa using hunusable) hfind
      exact ⟨hor, hund, fun _ => hkeys,
          (by intro k hk; cases hk)⟩
    · next husable₀ =>
      have ho : w.Orderly := by
        refine ho.resolve_right ?_
        rintro ⟨k, -, ⟨entry', hfind', rfl⟩, hunusable⟩
        rw [← Option.some.inj (hfind.symm.trans hfind')] at hunusable
        exact husable₀ (by rw [hunusable]; rfl)
      obtain ⟨ok, w₃, hpre, h⟩ := Exec.bind_some.mp h
      obtain ⟨hturn, husable, hkeeps⟩ :=
        preflightPersistentConnection_turn hpre ho.sound ho.calm hdes
      have hfind₃ : (w₃.cache.find? fun e => e.key = key) = some entry := by
        have hcache : w₃.cache = w.cache := (Ledger.Driven.of_drives hturn.drives.ledger).cache
        rw [hcache]
        exact hfind
      have hwide₃ := hwide.turn hturn
      cases ok with
      | false =>
        obtain ⟨_, w₄, hremove, h⟩ := Exec.bind_some.mp h
        obtain ⟨rfl, rfl⟩ := Exec.pure_some.mp h
        obtain ⟨hor, hund, hkeys⟩ :=
          removeUnusablePersistentConnection_orderly hremove hwide₃ husable hfind₃
        exact ⟨hor, (Turn.undisturbed hturn).trans hund, fun _ => hkeys,
          (by intro k hk; cases hk)⟩
      | true =>
        have hidle : w₃.Idle entry.connection := hkeeps rfl (ho.idle entry.connection id)
        have hor₃ : w₃.Orderly := by
          refine hwide₃.settle (fun _ => ?_) (fun _ => .inl husable) hidle
          exact (ho.kept entry.connection (ho.sound.inv.housed.entry entry hmem).1 id).drives
            hturn.drives
        simp only [Bool.not_true, Bool.false_eq_true, if_false] at h
        split at h
        · obtain ⟨_, w₄, hdiscard, h⟩ := Exec.bind_some.mp h
          obtain ⟨rfl, rfl⟩ := Exec.pure_some.mp h
          obtain ⟨hor, hund, hkeys⟩ := evict_orderly hdiscard hwide₃ hidle hfind₃
          exact ⟨hor, (Turn.undisturbed hturn).trans hund, fun _ => hkeys,
          (by intro k hk; cases hk)⟩
        · obtain ⟨rfl, rfl⟩ := Exec.pure_some.mp h
          refine ⟨hor₃, Turn.undisturbed hturn, (by intro hno; cases hno), fun k hk => ?_⟩
          obtain rfl := Option.some.inj hk
          exact ⟨⟨entry, hfind₃, rfl⟩, husable⟩

/-! ## Creation -/

/-- `connect_tcp` only lets time pass and takes answers. -/
theorem connectTcp_grows (deadline : Nat) : Exec.Within Env.Grows (Env.connectTcp deadline) := by
  have hcall (call : SetupCall) : Exec.Within Env.Grows (Env.setupCall call) :=
    .bind (Env.ask_grows _) fun _ => .bind (.modify fun _ => ⟨Nat.le_refl _, List.prefix_rfl⟩)
      fun _ => .pure _
  have hpassed : Exec.Within Env.Grows (Env.deadlinePassed deadline) :=
    .ite (.pure _) (.bind Env.monotonicUs_grows fun _ => .pure _)
  have hpending : Exec.Within Env.Grows (Env.connectPending deadline) := by
    refine .bind .get fun _ => .ite ?_ (.pure _)
    refine .bind (Env.pollFdUntilDeadline_grows _ deadline) fun _ => .ite (.pure _) ?_
    refine .bind (hcall _) fun _ => .ite (.pure _) (.ite (.pure _) ?_)
    exact .bind (Env.setErrno_grows _) fun _ => .pure _
  have haddresses (addresses : Nat) :
      Exec.Within Env.Grows (Env.connectAddresses deadline addresses) := by
    induction addresses with
    | zero => exact .pure _
    | succ addresses ih =>
      refine .bind (hcall _) fun _ => .ite ih (.bind (hcall _) fun _ => ?_)
      refine .ite (.bind (hcall _) fun _ => ih) (.bind (hcall _) fun _ => .ite (.pure _) ?_)
      refine .bind hpending fun _ => .ite (.pure _) (.bind hpassed fun _ => ?_)
      exact .ite (.bind (hcall _) fun _ => .pure _) (.bind (hcall _) fun _ => ih)
  refine .bind (hcall _) fun _ => .ite (.pure _) (.bind hpassed fun _ => .ite ?_ ?_)
  · exact .bind (hcall _) fun _ => .bind (Env.setErrno_grows _) fun _ => .pure _
  · exact .bind (haddresses _) fun _ => .bind (hcall _) fun _ => .pure _

/-- An answer of the environment keeps the state orderly. -/
theorem onEnv_orderly {α : Type} {m : Exec Env α} {a : α} {w w' : World}
    (hm : Exec.Within Env.Grows m) (h : onEnv m w = some (a, w')) (ho : w.Orderly) :
    w'.Orderly ∧ Undisturbed w w' ∧ w'.cache = w.cache := by
  obtain ⟨hsession, hconns, hcalls⟩ := onEnv_session (k := 0) hm h
  have hd := Ledger.Driven.of_drives hsession.drives.ledger
  have hplace (c : CallId) : SamePlace w w' c := .of_calls (by rw [hcalls])
  exact ⟨ho.relocate hsession.tidy hconns hd.cache hd.nextConn fun c _ => hplace c,
    ⟨hsession.drives.keeps, hplace⟩, hd.cache⟩

/-- A new connection beside the others. -/
theorem newConn_around {w : World} (ho : w.Orderly) (conn : H2Connection) (hview : conn.view = {})
    (hflag : conn.currentWriteTimedOut = false) {w' : World}
    (hw : w' = { w with
      nextConn := w.nextConn + 1, conns := Function.update w.conns w.nextConn conn }) :
    w'.Around (· = w.nextConn) (fun _ => False) ∧ Undisturbed w w' ∧
      ¬w'.ledger.Cached w.nextConn := by
  have hkeeps : Keeps w w' := by
    rw [hw]
    exact .single (.newConn conn hview hflag)
  have hcalls : w'.calls = w.calls := by rw [hw]
  have hcache : w'.cache = w.cache := by rw [hw]
  have hconns (k : ConnId) (hk : k ≠ w.nextConn) : w'.conns k = w.conns k := by
    rw [hw]
    exact Function.update_of_ne hk ..
  have hplace (c : CallId) : SamePlace w w' c := .of_calls (by rw [hcalls])
  have hcached (k : ConnId) : w'.ledger.Cached k ↔ w.ledger.Cached k := by
    rw [cached_iff, cached_iff, hcache]
  refine ⟨⟨ho.sound.keeps hkeeps, ?_, ?_, ?_, ?_, ?_, hcache ▸ ho.room, ?_⟩, ⟨hkeeps, hplace⟩, ?_⟩
  · refine settled_congr ho.settled (fun c hc => hcalls ▸ hc) fun k => ?_
    by_cases hk : k = w.nextConn
    · left
      have hself : w'.conns k = conn := by
        rw [hk, hw]
        exact Function.update_self ..
      rw [hself]
      exact congrArg ConnView.streams hview
    · rw [hconns k hk]
      exact .inr ⟨rfl, id⟩
  · exact fun c => (ho.calm c).of_calls hcalls
  · intro k hk hne
    have hnext : w'.nextConn = w.nextConn + 1 := by rw [hw]
    have hlt : k < w.nextConn := by
      rw [hnext] at hk
      exact Nat.lt_of_le_of_ne (Nat.le_of_lt_succ hk) hne
    have hold : w.Kept k := ho.kept k hlt id
    unfold Kept
    rw [hconns k hne, hcached]
    exact hold
  · intro k hne
    unfold Fit
    rw [hconns k hne, hcached]
    exact ho.fit k id
  · intro k hne
    unfold Idle
    rw [hconns k hne]
    exact ho.idle k id
  · intro c _ hlive
    exact (ho.seated c id ((hplace c).live ▸ hlive)).same (hplace c)
  · rw [hcached]
    rintro ⟨entry, hmem, hk⟩
    exact absurd (ho.sound.inv.housed.entry entry hmem).1 (by rw [hk]; exact Nat.lt_irrefl _)

/-- `create_h2_connection`: a failure leaves nothing behind, a success a usable connection
outside the cache. -/
theorem createH2Connection_orderly {deadline : Nat} {ssl : Bool} {r : Except SetupError ConnId}
    {w w' : World} (h : createH2Connection deadline ssl w = some (r, w')) (ho : w.Orderly) :
    Undisturbed w w' ∧ w'.cache = w.cache ∧
      match r with
      | .error _ => w'.Orderly
      | .ok k => w'.Around (· = k) (fun _ => False) ∧ k < w'.nextConn ∧ ¬w'.ledger.Cached k ∧
          (w'.conns k).destroyed = 0 ∧ (w'.conns k).detachedFromCache = false ∧
          (w'.conns k).usable = true ∧ w'.Idle k := by
  obtain ⟨connected, w₁, hconnect, h⟩ := Exec.bind_some.mp h
  obtain ⟨ho₁, hund₁, hcache₁⟩ := onEnv_orderly (connectTcp_grows deadline) hconnect ho
  split at h
  · rw [Exec.get_bind_run] at h
    obtain ⟨rfl, rfl⟩ := Exec.pure_some.mp h
    exact ⟨hund₁, hcache₁, ho₁⟩
  · obtain ⟨⟨ok, late⟩, w₂, hsetup, h⟩ := Exec.bind_some.mp h
    obtain ⟨ho₂, hund₂, hcache₂⟩ := onEnv_orderly (Env.ask_grows _) hsetup ho₁
    rw [hcache₁] at hcache₂
    have hto₂ := hund₁.trans hund₂
    simp only at h
    split at h
    · obtain ⟨rfl, rfl⟩ := Exec.pure_some.mp h
      exact ⟨hto₂, hcache₂, ho₂⟩
    · rw [Exec.get_bind_run] at h
      obtain ⟨_, w₃, hnew, h⟩ := Exec.bind_some.mp h
      have hw₃ := Exec.set_some.mp hnew
      obtain ⟨ho₃, hund₃, hout₃⟩ := newConn_around ho₂ _ rfl rfl hw₃
      have hcache₃ : w₃.cache = w.cache := by
        rw [hw₃]
        exact hcache₂
      have hfresh : (w₃.conns w₂.nextConn).destroyed = 0 ∧
          (w₃.conns w₂.nextConn).detachedFromCache = false ∧
          (w₃.conns w₂.nextConn).streamOwnerCount = 0 ∧
          (w₃.conns w₂.nextConn).draining = false ∧ w₃.Clean w₂.nextConn := by
        unfold World.Clean
        rw [hw₃]
        simp only [Function.update_self, implies_true, and_self]
      obtain ⟨hdes₃, hdet₃, hown₃, hdraining₃, hclean₃⟩ := hfresh
      obtain ⟨rv, w₄, hsend, h⟩ := Exec.bind_some.mp h
      obtain ⟨hturn, halive, -⟩ := sendPendingH2Frames_turn hsend ho₃.sound hdes₃
      have ho₄ := ho₃.turn hturn
      have hidle₄ := sendPendingH2Frames_idle hsend ho₃.sound hdes₃ hclean₃
      have hund₄ := hto₂.trans (hund₃.trans (Turn.undisturbed hturn))
      obtain ⟨hdet₄, hown₄, hdes₄⟩ := hturn.drives.place_conn w₂.nextConn
      have hd₄ := Ledger.Driven.of_drives hturn.drives.ledger
      have hcache₄ : w₄.cache = w.cache := hd₄.cache.trans hcache₃
      have hout₄ : ¬w₄.ledger.Cached w₂.nextConn := by
        rw [cached_iff, hcache₄, ← hcache₃, ← cached_iff]
        exact hout₃
      split at h
      · obtain ⟨conn, w₅, hconn, h⟩ := Exec.bind_some.mp h
        rw [Proc.conn, Exec.get_bind_run] at hconn
        obtain ⟨rfl, rfl⟩ := Exec.pure_some.mp hconn
        obtain ⟨_, w₆, hdestroy, h⟩ := Exec.bind_some.mp h
        obtain ⟨rfl, rfl⟩ := Exec.pure_some.mp h
        obtain ⟨htidy, hcalls, hcache₆, hre, hkept⟩ := destroyH2Connection_tidy hdestroy hout₄
          (hown₄.trans hown₃) (hdes₄.trans hdes₃)
        have hplace (c : CallId) : SamePlace w₄ w₆ c := .of_calls (by rw [hcalls])
        refine ⟨hund₄.trans ⟨htidy.keeps, hplace⟩, hcache₆.trans hcache₄, ?_⟩
        refine (ho₄.move htidy hre fun c _ => hplace c).settle (fun _ => hkept) (fun hin => ?_) ?_
        · rw [cached_iff, hcache₆, ← cached_iff] at hin
          exact absurd hin hout₄
        · exact hidle₄.steady (destroyH2Connection_steady _ _ _ _ hdestroy)
      · next hrv =>
        obtain ⟨_, w₅, hset, h⟩ := Exec.bind_some.mp h
        obtain ⟨rfl, rfl⟩ := Exec.pure_some.mp h
        have hzero : rv = 0 := not_not.mp hrv
        have hsteady₄ := sendPendingH2Frames_steady _ none _ _ _ hsend hzero
        have hsteady₅ : Steady w₄ w₅ := by
          exact .setConn hset (fun _ => rfl) (fun _ => rfl) fun _ => ⟨rfl, id⟩
        obtain rfl := Exec.modify_some.mp hset
        have hturn₅ : Turn w₂.nextConn w₄ (w₄.setConn w₂.nextConn fun conn =>
            { conn with setupDeadlineAbsUs := 0 }) :=
          .of_drive (.tune rfl (.inr ⟨rfl, rfl⟩)) rfl
        obtain ⟨hdet₅, -, hdes₅⟩ := hturn₅.drives.place_conn w₂.nextConn
        have hnext : w₄.nextConn = w₂.nextConn + 1 := hd₄.nextConn.trans (by rw [hw₃]; rfl)
        refine ⟨hund₄.trans (Turn.undisturbed hturn₅), hcache₄, ho₄.turn hturn₅, ?_, hout₄,
          hdes₅.trans (hdes₄.trans hdes₃), hdet₅.trans (hdet₄.trans hdet₃), ?_,
          hidle₄.steady hsteady₅⟩
        · exact hnext ▸ Nat.lt_succ_self _
        · have hdraining := (trans_of Steady hsteady₄ hsteady₅).draining w₂.nextConn
          have hdead : ((w₄.setConn w₂.nextConn fun conn =>
              { conn with setupDeadlineAbsUs := 0 }).conns w₂.nextConn).dead = false := by
            rw [setConn_conns_self]
            exact halive hzero
          simp only [H2Connection.usable, hdead, hdraining, hdraining₃, Bool.not_false,
            Bool.and_self]

/-- A new connection is cached under a free key. -/
theorem addEntry_orderly {key : Bytes} {k : ConnId} {w w' : World} {u : Unit}
    (h : addEntry key k w = some (u, w')) (ho : w.Around (· = k) fun _ => False)
    (hk : k < w.nextConn) (hout : ¬w.ledger.Cached k) (hkeys : ∀ e ∈ w.cache, e.key ≠ key)
    (hdes : (w.conns k).destroyed = 0) (hdet : (w.conns k).detachedFromCache = false)
    (hroom : w.cache.length < maxPersistentConnections) (husable : (w.conns k).usable = true)
    (hidle : w.Idle k) :
    w'.Orderly ∧ Undisturbed w w' ∧ Stored w' key k ∧ (w'.conns k).usable = true := by
  have hfilter : (w.cache.filter fun e => decide (e.key ≠ key)) = w.cache :=
    List.filter_eq_self.mpr fun e he => decide_eq_true (hkeys e he)
  have hw : w' = { w with cache := w.cache ++ [⟨key, k, key⟩] } := by
    rw [Exec.modify_some.mp h, hfilter]
  have hkeeps : Keeps w w' := by
    rw [hw]
    exact .single (.cache key k hk hout hkeys hdes hdet)
  have hconns : w'.conns = w.conns := by rw [hw]
  have hcalls : w'.calls = w.calls := by rw [hw]
  have hcache : w'.cache = w.cache ++ [⟨key, k, key⟩] := by rw [hw]
  have hcached (k' : ConnId) (hne : k' ≠ k) : w'.ledger.Cached k' ↔ w.ledger.Cached k' := by
    rw [cached_iff, cached_iff, hcache]
    simp [Ne.symm hne]
  have hstored : Stored w' key k := by
    refine ⟨⟨key, k, key⟩, ?_, rfl⟩
    rw [hcache, List.find?_append, List.find?_eq_none.mpr fun e he => by simpa using hkeys e he]
    simp
  have hplace (c : CallId) : SamePlace w w' c := .of_calls (by rw [hcalls])
  refine ⟨⟨ho.sound.keeps hkeeps, ?_, ?_, ?_, ?_, ?_, ?_, ?_⟩, ⟨hkeeps, hplace⟩, hstored, ?_⟩
  · refine settled_congr ho.settled (fun c hc => hcalls ▸ hc) fun k' => .inr ⟨by rw [hconns], ?_⟩
    rw [hconns]
    exact id
  · exact fun c => (ho.calm c).of_calls hcalls
  · intro k' hk' _
    by_cases hne : k' = k
    · exact hne ▸ .inl hstored.cached
    · have hnext : w'.nextConn = w.nextConn := by rw [hw]
      unfold Kept
      rw [hconns, hcached k' hne]
      exact ho.kept k' (hnext ▸ hk') hne
  · intro k' _
    by_cases hne : k' = k
    · intro _
      rw [hne, hconns]
      exact .inl husable
    · unfold Fit
      rw [hconns, hcached k' hne]
      exact ho.fit k' hne
  · intro k' _
    unfold Idle
    rw [hconns]
    by_cases hne : k' = k
    · exact hne ▸ hidle
    · exact ho.idle k' hne
  · rw [hcache, List.length_append]
    exact hroom
  · intro c hc hlive
    exact (ho.seated c hc ((hplace c).live ▸ hlive)).same (hplace c)
  · rw [hconns]
    exact husable

/-- `get_persistent_connection`: the state is orderly again, and a connection that is
returned is the one that the cache holds under the key, usable and without a detail. -/
theorem getPersistentConnection_orderly {key : Bytes} {deadline : Nat} {ssl : Bool}
    {r : Except SetupError ConnId} {w w' : World}
    (h : getPersistentConnection key deadline ssl w = some (r, w'))
    (ho : w.Orderly ∨ Stale w key) :
    w'.Orderly ∧ Undisturbed w w' ∧
      ∀ k, r = .ok k → Stored w' key k ∧ (w'.conns k).usable = true := by
  obtain ⟨adopted, w₁, hadopt, h⟩ := Exec.bind_some.mp h
  obtain ⟨ho₁, hund₁, hfree, hstored⟩ := adoptPersistentConnection_orderly hadopt ho
  cases adopted with
  | some k =>
    obtain ⟨rfl, rfl⟩ := Exec.pure_some.mp h
    exact ⟨ho₁, hund₁, fun k' hk' => Except.ok.inj hk' ▸ hstored k rfl⟩
  | none =>
    simp only at h
    rw [Exec.get_bind_run] at h
    split at h
    · obtain ⟨rfl, rfl⟩ := Exec.pure_some.mp h
      exact ⟨ho₁, hund₁, (by intro k hk; cases hk)⟩
    · next hroom =>
      obtain ⟨created, w₂, hcreate, h⟩ := Exec.bind_some.mp h
      obtain ⟨hund₂, hcache₂, hcreated⟩ := createH2Connection_orderly hcreate ho₁
      cases created with
      | error e =>
        obtain ⟨rfl, rfl⟩ := Exec.pure_some.mp h
        exact ⟨hcreated, hund₁.trans hund₂, (by intro k hk; cases hk)⟩
      | ok k =>
        obtain ⟨ho₂, hk, hout, hdes, hdet, husable, hidle⟩ := hcreated
        obtain ⟨_, w₃, hadd, h⟩ := Exec.bind_some.mp h
        obtain ⟨rfl, rfl⟩ := Exec.pure_some.mp h
        have hkeys : ∀ e ∈ w₂.cache, e.key ≠ key := by
          rw [hcache₂]
          exact hfree rfl
        obtain ⟨ho₃, hund₃, hstored₃⟩ := addEntry_orderly hadd ho₂ hk hout hkeys hdes hdet
          (by rw [hcache₂]; exact Nat.lt_of_not_le hroom) husable hidle
        exact ⟨ho₃, hund₁.trans (hund₂.trans hund₃), fun k' hk' => Except.ok.inj hk' ▸ hstored₃⟩

end Proc

end GrpcLite
