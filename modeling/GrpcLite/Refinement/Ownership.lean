import GrpcLite.Refinement.Sending

/-!
# The ownership functions are moves

A cancelled stream ends with a detached request, so its call may give up the
connection. A connection is destroyed only without owners and outside the cache,
and none is lost: every connection is in the cache, owned, or destroyed.
-/

namespace GrpcLite

namespace World

/-- A call that points at a connection and has not given it up. -/
structure Attached (w : World) (c : CallId) (k : ConnId) : Prop where
  /-- It points at the connection. -/
  connection : (w.calls c).call.connection = some k
  /-- It has not given it up. -/
  cleared : (w.ledger.calls c).cleared = false

/-- A session does not move its calls. -/
theorem Attached.drives {w w' : World} {c : CallId} {k : ConnId} (h : w.Attached c k)
    (hd : Drives k w w') : w'.Attached c k := by
  obtain ⟨-, hconn, -, -, hcleared⟩ := Proc.Drives.place hd c
  exact ⟨hconn.trans h.connection, hcleared.trans h.cleared⟩

/-- The place of a call is the same. -/
structure SamePlace (w w' : World) (c : CallId) : Prop where
  /-- Its object. -/
  live : (w'.calls c).live = (w.calls c).live
  /-- The connection it points at. -/
  connection : (w'.calls c).call.connection = (w.calls c).call.connection
  /-- Whether it is an owner. -/
  owned : (w'.calls c).call.connectionOwned = (w.calls c).call.connectionOwned
  /-- Whether it has given up its connection. -/
  cleared : (w'.ledger.calls c).cleared = (w.ledger.calls c).cleared
  /-- Its stream. -/
  streamId : (w'.calls c).call.streamId = (w.calls c).call.streamId

/-- One move after the other. -/
theorem SamePlace.trans {w w₁ w' : World} {c : CallId} (h : SamePlace w w₁ c)
    (h' : SamePlace w₁ w' c) : SamePlace w w' c :=
  ⟨h'.live.trans h.live, h'.connection.trans h.connection, h'.owned.trans h.owned,
    h'.cleared.trans h.cleared, h'.streamId.trans h.streamId⟩

/-- A call that does not change. -/
theorem SamePlace.of_calls {w w' : World} {c : CallId} (h : w'.calls c = w.calls c) :
    SamePlace w w' c := by
  have hledger : w'.ledger.calls c = w.ledger.calls c := congrArg TrackedCall.view h
  exact ⟨by rw [h], by rw [h], by rw [h], by rw [hledger], by rw [h]⟩

/-- A session leaves every call in its place. -/
theorem SamePlace.drives {k : ConnId} {w w' : World} (h : Drives k w w') (c : CallId) :
    SamePlace w w' c := by
  obtain ⟨hlive, hconn, hid, howned, hcleared⟩ := Proc.Drives.place h c
  exact ⟨hlive, hconn, howned, hcleared, hid⟩

/-- A call in its place is attached as before. -/
theorem Attached.same {w w' : World} {c : CallId} {k : ConnId} (h : w.Attached c k)
    (hp : SamePlace w w' c) : w'.Attached c k :=
  ⟨hp.connection.trans h.connection, hp.cleared.trans h.cleared⟩

/-- A run around sessions that leaves the ledger settled. -/
structure Tidy (w w' : World) : Prop where
  /-- It touches no request. -/
  keeps : Keeps w w'
  /-- The ledger is settled again. -/
  settled : Ledger.Settled w.ledger → Ledger.Settled w'.ledger
  /-- Registered streams are not cancelled. -/
  calm : ∀ c, w.CalmAt c → w'.CalmAt c

namespace Tidy

variable {w w₁ w' : World}

/-- Nothing happens. -/
theorem refl : Tidy w w := ⟨.refl, id, fun _ => id⟩

/-- One run after the other. -/
theorem trans (h : Tidy w w₁) (h' : Tidy w₁ w') : Tidy w w' :=
  ⟨h.keeps.trans h'.keeps, h'.settled ∘ h.settled, fun c => h'.calm c ∘ h.calm c⟩

end Tidy

/-- A turn is tidy. -/
theorem Turn.tidy {k : ConnId} {w w' : World} (h : Turn k w w') : Tidy w w' :=
  ⟨h.drives.keeps, h.settled, fun _ hc => hc.drives h.drives⟩

/-- A session is tidy. -/
theorem Session.tidy {k : ConnId} {w w' : World} (h : Session k w w') : Tidy w w' := h.turn.tidy

/-- A change that neither closes a stream for a call nor opens one. -/
theorem settled_congr {w w' : World} (h : Ledger.Settled w.ledger)
    (hclosed : ∀ c, (w'.calls c).call.streamClosed = true → (w.calls c).call.streamClosed = true)
    (hstreams : ∀ k, (w'.conns k).streams = [] ∨ ((w'.conns k).streams = (w.conns k).streams ∧
      ((w.conns k).dead = true → (w'.conns k).dead = true))) : Ledger.Settled w'.ledger := by
  intro c hc k e he hsource
  rcases hstreams k with hnil | ⟨hsame, hdead⟩
  · have he' : e ∈ (w'.conns k).streams := he
    rw [hnil] at he'
    exact absurd he' List.not_mem_nil
  · have he' : e ∈ (w'.conns k).streams := he
    rw [hsame] at he'
    exact (h c (hclosed c hc) k e he' hsource).imp_right (Or.imp_right hdead)

/-- A change of one connection that keeps its streams. -/
theorem settled_update {w w' : World} {k : ConnId} {conn : H2Connection}
    (h : Ledger.Settled w.ledger)
    (hclosed : ∀ c, (w'.calls c).call.streamClosed = true → (w.calls c).call.streamClosed = true)
    (hconns : w'.conns = Function.update w.conns k conn)
    (hconn : conn.streams = (w.conns k).streams ∧ conn.dead = (w.conns k).dead) :
    Ledger.Settled w'.ledger := by
  refine settled_congr h hclosed fun k' => .inr ?_
  rw [hconns, Function.update_apply]
  split
  · next hk => exact hk ▸ ⟨hconn.1, hconn.2.trans⟩
  · exact ⟨rfl, id⟩

/-- A connection is in the cache, or outside with an owner, or destroyed. -/
def Kept (w : World) (k : ConnId) : Prop :=
  w.ledger.Cached k ∨ ((w.conns k).detachedFromCache = true ∧ 0 < (w.conns k).streamOwnerCount) ∨
    (w.conns k).destroyed ≠ 0

/-- A connection is in the cache or known to have left it. -/
def Placed (w : World) (k : ConnId) : Prop :=
  w.ledger.Cached k ∨ (w.conns k).detachedFromCache = true ∨ (w.conns k).destroyed ≠ 0

/-- A connection in the cache has its place. -/
theorem Kept.placed {w : World} {k : ConnId} (h : w.Kept k) : w.Placed k :=
  h.imp_right (Or.imp_left And.left)

/-- Only one connection and its place may have changed. -/
structure Rehouse (k : ConnId) (w w' : World) : Prop where
  /-- No connection is created. -/
  nextConn : w'.nextConn = w.nextConn
  /-- The other connections are the same. -/
  conns : ∀ k', k' ≠ k → w'.conns k' = w.conns k'
  /-- They are in the cache or not as before. -/
  cached : ∀ k', k' ≠ k → (w'.ledger.Cached k' ↔ w.ledger.Cached k')
  /-- The cache does not grow. -/
  size : w'.cache.length ≤ w.cache.length
  /-- The connection does not lose its place. -/
  placed : w.Placed k → w'.Placed k

/-- Nothing moves. -/
theorem Rehouse.refl (k : ConnId) (w : World) : Rehouse k w w :=
  ⟨rfl, fun _ _ => rfl, fun _ _ => .rfl, Nat.le_refl _, id⟩

/-- One move after the other. -/
theorem Rehouse.trans {k : ConnId} {w w₁ w' : World} (h : Rehouse k w w₁)
    (h' : Rehouse k w₁ w') : Rehouse k w w' :=
  ⟨h'.nextConn.trans h.nextConn, fun k' hk => (h'.conns k' hk).trans (h.conns k' hk),
    fun k' hk => (h'.cached k' hk).trans (h.cached k' hk), Nat.le_trans h'.size h.size,
    h'.placed ∘ h.placed⟩

/-- The other connections are kept. -/
theorem Rehouse.others {k : ConnId} {w w' : World} (h : Rehouse k w w') (k' : ConnId)
    (hk : k' ≠ k) (hkept : w.Kept k') : w'.Kept k' := by
  unfold Kept
  rw [h.conns k' hk, h.cached k' hk]
  exact hkept

/-- A change of one connection beside the cache. -/
theorem Rehouse.update {k : ConnId} {w w' : World} {conn : H2Connection}
    (hnext : w'.nextConn = w.nextConn) (hconns : w'.conns = Function.update w.conns k conn)
    (hcache : w'.cache = w.cache) (hplaced : w.Placed k → w'.Placed k) : Rehouse k w w' := by
  refine ⟨hnext, fun k' hk => ?_, fun k' _ => ?_, ?_, hplaced⟩
  · rw [hconns, Function.update_of_ne hk]
  · rw [cached_iff, cached_iff, hcache]
  · rw [hcache]

/-- A session leaves the place of every connection alone. -/
theorem Drives.place_conn {k : ConnId} {w w' : World} (h : Drives k w w') (k' : ConnId) :
    (w'.conns k').detachedFromCache = (w.conns k').detachedFromCache ∧
      (w'.conns k').streamOwnerCount = (w.conns k').streamOwnerCount ∧
      (w'.conns k').destroyed = (w.conns k').destroyed := by
  have hd := Ledger.Driven.of_drives h.ledger
  by_cases hk : k' = k
  · subst hk
    exact hd.place
  · have hsame := hd.others k' hk
    exact ⟨congrArg ConnView.detached hsame, congrArg ConnView.ownerCount hsame,
      congrArg ConnView.destroyed hsame⟩

/-- Driving a session changes no other connection. -/
theorem Drives.conns_of_ne {k k' : ConnId} {w w' : World} (h : Drives k w w') (hk : k' ≠ k) :
    w'.conns k' = w.conns k' := by
  induction h with
  | refl => rfl
  | tail _ hd ih =>
    rw [← ih]
    cases hd with
    | log | close | source | note | complete | pop | free => rfl
    | quiet | die | drain | streams | receive | deliver | unregister =>
      exact Function.update_of_ne hk ..

/-- A session moves no connection. -/
theorem Rehouse.drives {k : ConnId} {w w' : World} (h : Drives k w w') : Rehouse k w w' := by
  have hd := Ledger.Driven.of_drives h.ledger
  have hcache : w'.cache = w.cache := hd.cache
  refine ⟨hd.nextConn, fun k' hk => h.conns_of_ne hk, fun k' _ => ?_, by rw [hcache], fun hp => ?_⟩
  · rw [cached_iff, cached_iff, hcache]
  · unfold Placed
    rw [(h.place_conn k).1, (h.place_conn k).2.2, cached_iff, hcache, ← cached_iff]
    exact hp

/-- A session keeps a connection where it is. -/
theorem Kept.drives {k k' : ConnId} {w w' : World} (hk : w.Kept k) (h : Drives k' w w') :
    w'.Kept k := by
  have hcache := (Ledger.Driven.of_drives h.ledger).cache
  unfold Kept
  rw [(h.place_conn k).1, (h.place_conn k).2.1, (h.place_conn k).2.2]
  refine hk.imp_left fun ⟨entry, hentry, he⟩ => ⟨entry, ?_, he⟩
  rw [hcache]
  exact hentry

end World

namespace Proc

open World

/-! ## Cancelling -/

/-- `nghttp2_submit_rst_stream`: an accepted reset marks the stream. -/
theorem submitRstStream_session {k : ConnId} {streamId rv : Int} {w w' : World}
    (h : submitRstStream k streamId w = some (rv, w')) (hr : w.Ready k) :
    Session k w w' ∧ w'.calls = w.calls ∧ (w'.conns k).dead = (w.conns k).dead ∧
      (rv = 0 → ∀ e ∈ (w'.conns k).streams, e.streamId = streamId → e.reset = true) := by
  obtain ⟨_, w₁, hlog, h⟩ := Exec.bind_some.mp h
  obtain rfl := Exec.modify_some.mp hlog
  obtain ⟨rv', w₂, hask, h⟩ := Exec.bind_some.mp h
  obtain ⟨_, w₃, hwhen, h⟩ := Exec.bind_some.mp h
  obtain ⟨rfl, rfl⟩ := Exec.pure_some.mp h
  obtain ⟨henv, hconns, hcalls⟩ := onEnv_session (k := k) (Env.ask_grows _) hask
  have hlog : Session k w (w.log k .submitRst) := .log (by simp) hr
  have hpre : Session k w w₂ := hlog.trans henv
  have hdead : (w₂.conns k).dead = (w.conns k).dead := by
    rw [hconns]
    rfl
  obtain ⟨-, hset⟩ | ⟨hne, rfl⟩ := Exec.when_some.mp hwhen
  · obtain ⟨_, w₄, hqueue, hset⟩ := Exec.bind_some.mp hset
    obtain ⟨hqueued, hcalls₄, hconn₄⟩ := noteOutbound_session hqueue
    obtain rfl := Exec.modify_some.mp hset
    refine ⟨hpre.trans (hqueued.trans (mapStream_session Ledger.EntryKeeps.acceptReset)),
      hcalls₄.trans hcalls, ?_, ?_⟩
    · rw [setConn_conns_self, H2Connection.mapStream, hconn₄]
      exact hdead
    · intro _ e he hid
      rw [setConn_conns_self] at he
      obtain ⟨e₀, -, rfl⟩ := List.mem_map.mp he
      split
      · rfl
      · next hne =>
        rw [if_neg hne] at hid
        exact absurd hid hne
  · exact ⟨hpre, hcalls, hdead, fun h0 => absurd h0 hne⟩

/-- `cancel_grpc_call_stream`: whatever happens, the library does not read the request any
more. -/
theorem cancelGrpcCallStream_turn {k : ConnId} {c : CallId} {w w' : World} {u : Unit}
    (h : cancelGrpcCallStream c w = some (u, w')) (hs : w.Sound)
    (hset : Ledger.Settled w.ledger) (hat : w.Attached c k) (hdes : (w.conns k).destroyed = 0) :
    Turn k w w' ∧ w'.ledger.RequestDetached c := by
  obtain ⟨call, w₁, hcall, h⟩ := Exec.bind_some.mp h
  rw [Proc.call, Exec.get_bind_run] at hcall
  obtain ⟨rfl, rfl⟩ := Exec.pure_some.mp hcall
  simp only [hat.connection] at h
  obtain ⟨conn, w₂, hconn, h⟩ := Exec.bind_some.mp h
  rw [Proc.conn, Exec.get_bind_run] at hconn
  obtain ⟨rfl, rfl⟩ := Exec.pure_some.mp hconn
  split at h
  · next hguard =>
    obtain ⟨-, rfl⟩ := Exec.pure_some.mp h
    refine ⟨.refl, ?_⟩
    simp only [H2Connection.ioAllowed, Bool.not_not, Bool.or_eq_true, decide_eq_true_eq] at hguard
    rcases hguard with (hdead | hid) | hclosed
    · exact hs.inv.detached_of_dead hat.cleared hat.connection hdead
    · exact hs.inv.detached_of_unsubmitted hid
    · exact hset c hclosed
  · next hguard =>
    simp only [H2Connection.ioAllowed, Bool.not_not, Bool.or_eq_true, decide_eq_true_eq,
      not_or, Bool.not_eq_true] at hguard
    obtain ⟨⟨hdead, -⟩, -⟩ := hguard
    obtain ⟨_, w₃, hin, h⟩ := Exec.bind_some.mp h
    obtain rfl := Exec.modify_some.mp hin
    obtain ⟨rv, w₄, hrst, h⟩ := Exec.bind_some.mp h
    have hnote : Session k w (w.input c .locallyCancelled) := .note trivial
    obtain ⟨hsession, -, hdead₄, hreset⟩ := submitRstStream_session hrst
      (⟨hdead, hdes⟩ : World.Ready (w.input c .locallyCancelled) k)
    have hpre : Session k w w₄ := hnote.trans hsession
    split at h
    · obtain ⟨_, w₅, hdie, h⟩ := Exec.bind_some.mp h
      obtain rfl := Exec.modify_some.mp hdie
      obtain ⟨-, rfl⟩ := Exec.pure_some.mp h
      have hall := hpre.trans (die_session k w₄ rv)
      have hat' := hat.drives hall.drives
      refine ⟨hall.turn, (hs.drives hall.drives).inv.detached_of_dead hat'.cleared
        hat'.connection ?_⟩
      exact congrArg H2Connection.dead (setConn_conns_self w₄ k (·.markDead rv))
    · next hzero =>
      obtain ⟨now, w₅, hnow, h⟩ := Exec.bind_some.mp h
      obtain ⟨henv, hconns, -⟩ := onEnv_session (k := k) Env.monotonicUs_grows hnow
      have hto₅ := hpre.trans henv
      obtain ⟨rv', w₆, hsend, h⟩ := Exec.bind_some.mp h
      have hdes₅ : (w₅.conns k).destroyed = 0 := hto₅.drives.destroyed.trans hdes
      obtain ⟨hturn, -, -⟩ := sendPendingH2FramesWithDeadline_turn hsend (hs.drives hto₅.drives) hdes₅
      have hto₆ := hto₅.turn.trans hturn
      have hdet₄ : w₄.ledger.RequestDetached c := by
        have hat' := hat.drives hpre.drives
        refine (hs.drives hpre.drives).inv.detached_of_stream hat'.cleared hat'.connection
          fun e he hid => .inr (hreset (not_not.mp hzero) e he ?_)
        exact hid.trans (Drives.place hpre.drives c).2.2.1
      have hdet₆ : w₆.ledger.RequestDetached c :=
        (Ledger.Driven.of_drives (henv.turn.trans hturn).drives.ledger).requestDetached hdet₄
      split at h
      · obtain rfl := Exec.modify_some.mp h
        have htune : Turn k w₆ (w₆.setConn k fun conn =>
            { conn with lastErrorDetail := none, lastIoErrno := 0, lastSslError := 0 }) :=
          .of_drive (.tune rfl (.inr ⟨rfl, rfl⟩)) rfl
        exact ⟨hto₆.trans htune,
          (Ledger.Driven.of_drives htune.drives.ledger).requestDetached hdet₆⟩
      · obtain ⟨-, rfl⟩ := Exec.pure_some.mp h
        exact ⟨hto₆, hdet₆⟩

/-! ## Destruction -/

/-- A connection without owner outside the cache is destroyed. -/
theorem destroyH2Connection_tidy {k : ConnId} {w w' : World} {u : Unit}
    (h : destroyH2Connection k w = some (u, w')) (hcache : ¬w.ledger.Cached k)
    (hown : (w.conns k).streamOwnerCount = 0) (hdes : (w.conns k).destroyed = 0) :
    Tidy w w' ∧ w'.calls = w.calls ∧ w'.cache = w.cache ∧ Rehouse k w w' ∧ w'.Kept k := by
  obtain ⟨_, w₁, hlog, h⟩ := Exec.bind_some.mp h
  obtain rfl := Exec.modify_some.mp hlog
  have hset := Exec.modify_some.mp h
  have hconns : w'.conns = Function.update w.conns k
      { w.conns k with destroyed := (w.conns k).destroyed + 1 } := by
    rw [hset]
    rfl
  have hcalls : w'.calls = w.calls := by
    rw [hset]
    rfl
  have hkeeps : Keeps w w' := by
    rw [hset]
    exact .single (.destroy k hcache hown hdes)
  have hgone : (w'.conns k).destroyed ≠ 0 := by
    rw [hconns, Function.update_self]
    exact Nat.succ_ne_zero _
  have hcache : w'.cache = w.cache := by
    rw [hset]
    rfl
  refine ⟨⟨hkeeps, fun hs => ?_, fun c hc => ?_⟩, hcalls, hcache, .update ?_ hconns hcache ?_, ?_⟩
  · exact settled_update hs (fun c hc => hcalls ▸ hc) hconns ⟨rfl, rfl⟩
  · exact hc.of_calls hcalls
  · rw [hset]
    rfl
  · exact fun _ => .inr (.inr hgone)
  · exact .inr (.inr hgone)

/-- A detached connection is not in the cache. -/
theorem not_cached_of_detached {w : World} (hs : w.Sound) {k : ConnId}
    (h : (w.conns k).detachedFromCache = true) : ¬w.ledger.Cached k := by
  intro hcached
  exact absurd ((hs.inv.alive_of_cached hcached).2.symm.trans h) Bool.false_ne_true

/-- A detached connection is destroyed when its last owner has gone. -/
theorem destroyDetachedConnectionIfUnowned_tidy {k : ConnId} {w w' : World} {u : Unit}
    (h : destroyDetachedConnectionIfUnowned k w = some (u, w')) (hs : w.Sound)
    (hdes : (w.conns k).destroyed = 0) :
    Tidy w w' ∧ w'.calls = w.calls ∧ w'.cache = w.cache ∧ Rehouse k w w' ∧
      (w.Placed k → w'.Kept k) := by
  obtain ⟨conn, w₁, hconn, h⟩ := Exec.bind_some.mp h
  rw [Proc.conn, Exec.get_bind_run] at hconn
  obtain ⟨rfl, rfl⟩ := Exec.pure_some.mp hconn
  split at h
  · next hguard =>
    obtain ⟨htidy, hcalls, hcache, hre, hkept⟩ := destroyH2Connection_tidy h
      (not_cached_of_detached hs hguard.1) hguard.2 hdes
    exact ⟨htidy, hcalls, hcache, hre, fun _ => hkept⟩
  · next hguard =>
    obtain ⟨-, rfl⟩ := Exec.pure_some.mp h
    refine ⟨.refl, rfl, rfl, .refl k w, fun hplaced => ?_⟩
    refine hplaced.imp_right (Or.imp_left fun hdet => ⟨hdet, ?_⟩)
    exact Nat.pos_of_ne_zero fun h0 => hguard ⟨hdet, h0⟩

/-! ## The cache -/

/-- Removing the entry of one key. -/
theorem not_cached_of_filter {cache : List CacheEntry} {entry : CacheEntry}
    (hconns : (cache.map CacheEntry.connection).Nodup) (hmem : entry ∈ cache) :
    ¬∃ e ∈ cache.filter fun e => decide (e.key ≠ entry.key), e.connection = entry.connection := by
  rintro ⟨e, he, hconn⟩
  obtain ⟨hin, hkey⟩ := List.mem_filter.mp he
  have heq : e = entry := List.inj_on_of_nodup_map hconns hin hmem hconn
  subst heq
  exact absurd rfl (of_decide_eq_true hkey)

/-- The entries of other connections stay when one is removed. -/
theorem cached_filter {cache : List CacheEntry} {entry : CacheEntry} {k : ConnId}
    (hkeys : (cache.map CacheEntry.key).Nodup) (hmem : entry ∈ cache)
    (hne : k ≠ entry.connection) (h : ∃ e ∈ cache, e.connection = k) :
    ∃ e ∈ cache.filter fun e => decide (e.key ≠ entry.key), e.connection = k := by
  obtain ⟨e, he, rfl⟩ := h
  refine ⟨e, List.mem_filter.mpr ⟨he, decide_eq_true fun hkey => ?_⟩, rfl⟩
  exact hne (congrArg CacheEntry.connection (List.inj_on_of_nodup_map hkeys he hmem hkey))

/-- The effect of removing the entry of a connection from the cache. -/
theorem uncache_tidy {entry : CacheEntry} {w : World} (hs : w.Sound) (hmem : entry ∈ w.cache) :
    Tidy w { w with cache := w.cache.filter fun e => decide (e.key ≠ entry.key) } ∧
      ¬(World.ledger { w with cache := w.cache.filter fun e => decide (e.key ≠ entry.key) }).Cached
        entry.connection ∧
      ∀ k, k ≠ entry.connection → ((World.ledger
        { w with cache := w.cache.filter fun e => decide (e.key ≠ entry.key) }).Cached k ↔
          w.ledger.Cached k) := by
  refine ⟨⟨.single (.uncache _), fun hset => ?_, fun _ => id⟩, ?_, fun k hne => ⟨?_, fun hk => ?_⟩⟩
  · exact settled_congr hset (fun c hc => hc) fun k => .inr ⟨rfl, id⟩
  · exact not_cached_of_filter hs.inv.housed.conns hmem
  · rintro ⟨e, he, hconn⟩
    exact ⟨e, List.mem_of_mem_filter he, hconn⟩
  · exact cached_filter hs.inv.housed.keys hmem hne hk

/-- A connection outside the cache is marked as detached. -/
theorem markDetached_tidy {k : ConnId} {w w' : World} {u : Unit}
    (h : markDetached k w = some (u, w')) (hcache : ¬w.ledger.Cached k) :
    Tidy w w' ∧ w'.calls = w.calls ∧ w'.cache = w.cache ∧ Rehouse k w w' ∧
      (w'.conns k) = { w.conns k with detachedFromCache := true } := by
  have hset := Exec.modify_some.mp h
  have hconns : w'.conns = Function.update w.conns k
      { w.conns k with detachedFromCache := true } := by
    rw [hset]
    rfl
  have hcalls : w'.calls = w.calls := by
    rw [hset]
    rfl
  have hself : w'.conns k = { w.conns k with detachedFromCache := true } := by
    rw [hconns, Function.update_self]
  have hsame : w'.cache = w.cache := by
    rw [hset]
    rfl
  refine ⟨⟨?_, fun hs => ?_, fun c hc => ?_⟩, hcalls, hsame, .update ?_ hconns hsame ?_, hself⟩
  · rw [hset]
    exact .single (.markDetached k hcache)
  · exact settled_update hs (fun c hc => hcalls ▸ hc) hconns ⟨rfl, rfl⟩
  · exact hc.of_calls hcalls
  · rw [hset]
    rfl
  · refine fun _ => .inr (.inl ?_)
    rw [hself]

/-- `detach_persistent_connection_by_ptr`: the connection is outside the cache afterwards. -/
theorem detachPersistentConnectionByPtr_tidy {k : ConnId} {w w' : World} {u : Unit}
    (h : detachPersistentConnectionByPtr k w = some (u, w')) (hs : w.Sound) :
    Tidy w w' ∧ w'.calls = w.calls ∧ Rehouse k w w' ∧ ¬w'.ledger.Cached k ∧
      (w'.conns k).usable = (w.conns k).usable ∧
      (w'.conns k).destroyed = (w.conns k).destroyed := by
  rw [detachPersistentConnectionByPtr, Exec.get_bind_run] at h
  cases hfind : w.cache.find? fun entry => entry.connection = k with
  | none =>
    rw [hfind] at h
    obtain ⟨-, rfl⟩ := Exec.pure_some.mp h
    refine ⟨.refl, rfl, .refl k w, ?_, rfl, rfl⟩
    rintro ⟨entry, hentry, he⟩
    exact absurd (decide_eq_true he) (List.find?_eq_none.mp hfind entry hentry)
  | some entry =>
    simp only [hfind] at h
    have hmem : entry ∈ w.cache := List.mem_of_find?_eq_some hfind
    have hk : entry.connection = k := by simpa using List.find?_some hfind
    subst hk
    obtain ⟨_, w₁, hun, h⟩ := Exec.bind_some.mp h
    obtain rfl := Exec.modify_some.mp hun
    obtain ⟨htidy, hgone, hothers⟩ := uncache_tidy hs hmem
    obtain ⟨htidy', hcalls, hcache, hre, hself⟩ := markDetached_tidy h hgone
    have hre₁ : Rehouse entry.connection w w' := by
      refine ⟨hre.nextConn, hre.conns, fun k' hk' => (hre.cached k' hk').trans (hothers k' hk'),
        Nat.le_trans hre.size (List.length_filter_le _ _), fun _ => .inr (.inl ?_)⟩
      rw [hself]
    refine ⟨htidy.trans htidy', hcalls, hre₁, ?_, by rw [hself]; rfl, by rw [hself]⟩
    rintro ⟨e, he, hce⟩
    have he' : e ∈ w'.cache := he
    rw [hcache] at he'
    exact hgone ⟨e, he', hce⟩

/-! ## Owners -/

/-- The owner is taken off the count of its connection. -/
theorem releaseOwner_some {k : ConnId} {c : CallId} {forget : Bool} {w w' : World} {u : Unit}
    (h : releaseOwner k c forget w = some (u, w')) : w' = w.clearOwner k c forget := by
  obtain ⟨call, w₁, hcall, h⟩ := Exec.bind_some.mp h
  rw [Proc.call, Exec.get_bind_run] at hcall
  obtain ⟨rfl, rfl⟩ := Exec.pure_some.mp hcall
  obtain ⟨_, w₂, hwhen, h⟩ := Exec.bind_some.mp h
  obtain rfl := Exec.modify_some.mp h
  obtain ⟨howned, hset⟩ | ⟨howned, rfl⟩ := Exec.when_some.mp hwhen
  · obtain rfl := Exec.modify_some.mp hset
    simp only [World.clearOwner, howned, if_true]
  · simp only [World.clearOwner, Bool.not_eq_true _ ▸ howned, Bool.false_eq_true, if_false]
    rw [setConn_eq_self rfl]

/-- What giving up a connection leaves behind. -/
structure GaveUp (k : ConnId) (c : CallId) (w w' : World) : Prop where
  /-- No request is touched and the ledger is settled. -/
  tidy : Tidy w w'
  /-- Only the place of the connection may have changed. -/
  rehouse : Rehouse k w w'
  /-- The object of the call is as before. -/
  live : (w'.calls c).live = (w.calls c).live
  /-- The call owns nothing. -/
  owned : (w'.calls c).call.connectionOwned = false
  /-- It has given up its connection. -/
  cleared : (w'.ledger.calls c).cleared = true
  /-- Its request is detached. -/
  detached : w'.ledger.RequestDetached c
  /-- The other calls are where they were. -/
  others : ∀ c', c' ≠ c → SamePlace w w' c'

/-- A call that has left its stream gives up its connection. -/
theorem clearOwner_gaveUp {k : ConnId} {c : CallId} (forget : Bool) {w : World}
    (hconn : (w.calls c).call.connection = some k)
    (hreg : (w.calls c).call.streamRegistered = false) (hdet : w.ledger.RequestDetached c) :
    GaveUp k c w (w.clearOwner k c forget) ∧
      ((w.clearOwner k c forget).conns k).destroyed = (w.conns k).destroyed ∧
      ((w.clearOwner k c forget).calls c).call.connection = if forget then none else some k := by
  have hcalls : (w.clearOwner k c forget).calls =
      Function.update w.calls c ((w.calls c).input (.ownerCleared forget)) := rfl
  have hconns : (w.clearOwner k c forget).conns = Function.update w.conns k { w.conns k with
      streamOwnerCount := if (w.calls c).call.connectionOwned then
        (w.conns k).streamOwnerCount - 1 else (w.conns k).streamOwnerCount } := rfl
  have hself : (w.clearOwner k c forget).calls c = (w.calls c).input (.ownerCleared forget) := by
    rw [hcalls, Function.update_self]
  have hothers : ∀ c', c' ≠ c → (w.clearOwner k c forget).calls c' = w.calls c' :=
    fun c' hc' => Function.update_of_ne hc' ..
  have hclosed : ∀ c', ((w.clearOwner k c forget).calls c').call.streamClosed = true →
      (w.calls c').call.streamClosed = true := by
    intro c' hc'
    by_cases hc : c' = c
    · subst hc
      rwa [hself] at hc'
    · rwa [hothers c' hc] at hc'
  have hview := view_ownerCleared (w.calls c) forget
  have hledger : (w.clearOwner k c forget).ledger.calls c =
      ((w.calls c).input (.ownerCleared forget)).view := congrArg TrackedCall.view hself
  refine ⟨⟨⟨.single (.clearOwner k c forget hconn hreg hdet), fun hs => ?_, fun c' hc => ?_⟩,
    .update rfl hconns rfl fun hp => ?_, ?_, ?_, ?_, ?_, fun c' hc' => ?_⟩, ?_, ?_⟩
  · exact settled_update hs hclosed hconns ⟨rfl, rfl⟩
  · refine hc.update hcalls rfl fun hr => ?_
    exact absurd (hreg.symm.trans hr) Bool.false_ne_true
  · unfold Placed
    rw [hconns, Function.update_self]
    exact hp
  · rw [hself]
    rfl
  · rw [hself]
    rfl
  · rw [hledger, hview]
  · intro k' e he hsource
    have hstreams : ((w.clearOwner k c forget).conns k').streams = (w.conns k').streams ∧
        ((w.clearOwner k c forget).conns k').dead = (w.conns k').dead := by
      rw [hconns, Function.update_apply]
      split
      · next hk => exact hk ▸ ⟨rfl, rfl⟩
      · exact ⟨rfl, rfl⟩
    have he' : e ∈ (w.conns k').streams := hstreams.1 ▸ he
    exact (hdet k' e he' hsource).imp_right (Or.imp_right fun hd => hstreams.2.trans hd)
  · exact .of_calls (hothers c' hc')
  · rw [hconns, Function.update_self]
  · rw [hself]
    simp only [TrackedCall.input, GrpcCall.apply, hconn]

/-- A connection given up behind changes of the session. -/
theorem GaveUp.after {k : ConnId} {c : CallId} {w w₁ w' : World} (hd : Session k w w₁)
    (h : GaveUp k c w₁ w') : GaveUp k c w w' :=
  ⟨hd.tidy.trans h.tidy, Rehouse.trans (.drives hd.drives) h.rehouse,
    h.live.trans (SamePlace.drives hd.drives c).live, h.owned, h.cleared, h.detached,
    fun c' hc' => (SamePlace.drives hd.drives c').trans (h.others c' hc')⟩

/-- `clear_connection_call_owner`. -/
theorem clearConnectionCallOwner_gaveUp {k : ConnId} {c : CallId} {w w' : World} {u : Unit}
    (h : clearConnectionCallOwner k c w = some (u, w')) (hs : w.Sound)
    (hconn : (w.calls c).call.connection = some k) (hdet : w.ledger.RequestDetached c) :
    GaveUp k c w w' ∧ (w'.conns k).destroyed = (w.conns k).destroyed ∧
      (w'.calls c).call.connection = some k := by
  obtain ⟨call, w₁, hcall, h⟩ := Exec.bind_some.mp h
  rw [Proc.call, Exec.get_bind_run] at hcall
  obtain ⟨rfl, rfl⟩ := Exec.pure_some.mp hcall
  rw [if_neg (not_not.mpr hconn)] at h
  obtain ⟨_, w₂, hunreg, h⟩ := Exec.bind_some.mp h
  obtain ⟨hsession, -, hoff, -, -⟩ := unregisterGrpcCallStream_session hunreg hs hconn
  obtain rfl := releaseOwner_some h
  have hconn₂ : (w₂.calls c).call.connection = some k :=
    (SamePlace.drives hsession.drives c).connection.trans hconn
  obtain ⟨hgave, hdes, hpoint⟩ := clearOwner_gaveUp false hconn₂ hoff
    ((Ledger.Driven.of_drives hsession.drives.ledger).requestDetached hdet)
  exact ⟨.after hsession hgave, hdes.trans hsession.drives.destroyed, hpoint⟩

/-- Detaching an unusable connection. -/
theorem detachUnlessUsable_tidy {k : ConnId} {c : CallId} {w w' : World} {u : Unit}
    (h : detachUnlessUsable c w = some (u, w')) (hs : w.Sound)
    (hconn : (w.calls c).call.connection = some k) :
    Tidy w w' ∧ w'.calls = w.calls ∧ Rehouse k w w' ∧
      (w'.conns k).usable = (w.conns k).usable ∧
      (w'.conns k).destroyed = (w.conns k).destroyed ∧
      ((w.conns k).usable = true ∨ ¬w'.ledger.Cached k) := by
  obtain ⟨call, w₁, hcall, h⟩ := Exec.bind_some.mp h
  rw [Proc.call, Exec.get_bind_run] at hcall
  obtain ⟨rfl, rfl⟩ := Exec.pure_some.mp hcall
  simp only [hconn] at h
  obtain ⟨conn, w₂, hread, h⟩ := Exec.bind_some.mp h
  rw [Proc.conn, Exec.get_bind_run] at hread
  obtain ⟨rfl, rfl⟩ := Exec.pure_some.mp hread
  split at h
  · obtain ⟨htidy, hcalls, hre, hgone, huse, hdes⟩ := detachPersistentConnectionByPtr_tidy h hs
    exact ⟨htidy, hcalls, hre, huse, hdes, .inr hgone⟩
  · next husable =>
    obtain ⟨-, rfl⟩ := Exec.pure_some.mp h
    exact ⟨.refl, rfl, .refl k w, rfl, rfl, .inl (by simpa using husable)⟩

end Proc

end GrpcLite
