import GrpcLite.Refinement.Ownership

/-!
# Calls and connections go away

The destructor of a server stream, the release of a call and the removal of a
connection from the cache. Behind each of them the connection concerned is kept,
and it is in the cache only if it can be used again or has an owner.
-/

namespace GrpcLite

namespace World

/-- A cached connection can be used again or still has an owner. -/
def Fit (w : World) (k : ConnId) : Prop :=
  w.ledger.Cached k → (w.conns k).usable = true ∨ 0 < (w.conns k).streamOwnerCount

theorem Rehouse.fit {k : ConnId} {w w' : World} (h : Rehouse k w w') (k' : ConnId) (hk : k' ≠ k)
    (hfit : w.Fit k') : w'.Fit k' := by
  unfold Fit
  rw [h.conns k' hk, h.cached k' hk]
  exact hfit

/-- What the end of a call leaves behind. -/
structure Gone (k : ConnId) (c : CallId) (w w' : World) : Prop where
  /-- No request is touched and the ledger is settled. -/
  tidy : Tidy w w'
  /-- Only one connection may have changed. -/
  rehouse : Rehouse k w w'
  /-- The object of the call does not exist any more. -/
  dead : (w'.calls c).live = false
  /-- The other calls are where they were. -/
  others : ∀ c', c' ≠ c → SamePlace w w' c'

end World

namespace Proc

open World

/-! ## Giving up a stream -/

theorem unregisterGrpcCallStream_usable {c : CallId} {w w' : World} {u : Unit}
    (h : unregisterGrpcCallStream c w = some (u, w')) (k : ConnId) :
    (w'.conns k).usable = (w.conns k).usable := by
  have hunreg (w₀ : World) (k₀ : ConnId) :
      ((w₀.unregister k₀ c).conns k).usable = (w₀.conns k).usable := by
    have hconns : (w₀.unregister k₀ c).conns = Function.update w₀.conns k₀ _ := rfl
    rw [hconns, Function.update_apply]
    split
    · next hk => rw [hk, H2Connection.usable, H2Connection.usable]
    · rfl
  rcases unregisterGrpcCallStream_some h with ⟨rfl, -⟩ | ⟨k₀, -, -, hcases⟩
  · rfl
  · rcases hcases with ⟨-, rfl⟩ | ⟨-, rfl⟩
    · exact hunreg w k₀
    · exact hunreg (w.log k₀ .setUserData) k₀

theorem destroyDetachedConnectionIfUnowned_usable {k : ConnId} {w w' : World} {u : Unit}
    (h : destroyDetachedConnectionIfUnowned k w = some (u, w')) :
    (w'.conns k).usable = (w.conns k).usable := by
  obtain ⟨conn, w₁, hconn, h⟩ := Exec.bind_some.mp h
  rw [Proc.conn, Exec.get_bind_run] at hconn
  obtain ⟨rfl, rfl⟩ := Exec.pure_some.mp hconn
  split at h
  · obtain ⟨_, w₂, hlog, h⟩ := Exec.bind_some.mp h
    obtain rfl := Exec.modify_some.mp hlog
    obtain rfl := Exec.modify_some.mp h
    rw [setConn_conns_self]
    rfl
  · rw [(Exec.pure_some.mp h).2]

/-- `clear_connection_server_streaming_call_state_owner`: an unusable connection leaves the
cache, and the last owner of a detached one destroys it. -/
theorem clearConnectionServerStreamingCallStateOwner_gaveUp {k : ConnId} {c : CallId}
    {w w' : World} {u : Unit}
    (h : clearConnectionServerStreamingCallStateOwner c w = some (u, w')) (hs : w.Sound)
    (hconn : (w.calls c).call.connection = some k) (hdes : (w.conns k).destroyed = 0)
    (hdet : w.ledger.RequestDetached c) :
    GaveUp k c w w' ∧ (w'.calls c).call.connection = none ∧ (w.Placed k → w'.Kept k) ∧
      w'.Fit k := by
  obtain ⟨call, w₀, hcall, h⟩ := Exec.bind_some.mp h
  rw [Proc.call, Exec.get_bind_run] at hcall
  obtain ⟨rfl, rfl⟩ := Exec.pure_some.mp hcall
  simp only [hconn] at h
  obtain ⟨_, w₁, hdetach, h⟩ := Exec.bind_some.mp h
  obtain ⟨_, w₂, hunreg, h⟩ := Exec.bind_some.mp h
  obtain ⟨_, w₃, hrel, h⟩ := Exec.bind_some.mp h
  obtain ⟨htidy₁, hcalls₁, hre₁, huse₁, hdes₁, hout₁⟩ := detachUnlessUsable_tidy hdetach hs hconn
  have hs₁ := hs.keeps htidy₁.keeps
  obtain ⟨hsession, -, hoff, -, -⟩ :=
    unregisterGrpcCallStream_session hunreg hs₁ (by rw [hcalls₁]; exact hconn)
  have hs₂ := hs₁.drives hsession.drives
  obtain rfl := releaseOwner_some hrel
  have hconn₂ : (w₂.calls c).call.connection = some k := by
    rw [(SamePlace.drives hsession.drives c).connection, hcalls₁]
    exact hconn
  have hdet₂ : w₂.ledger.RequestDetached c :=
    Keeps.requestDetached (htidy₁.trans hsession.tidy).keeps hdet
  obtain ⟨hgave, hdes₃, hpoint⟩ := clearOwner_gaveUp true hconn₂ hoff hdet₂
  have hs₃ := hs₂.keeps hgave.tidy.keeps
  have hzero : ((w₂.clearOwner k c true).conns k).destroyed = 0 :=
    hdes₃.trans (hsession.drives.destroyed.trans (hdes₁.trans hdes))
  obtain ⟨htidy₄, hcalls₄, hcache₄, hre₄, hkept₄⟩ :=
    destroyDetachedConnectionIfUnowned_tidy h hs₃ hzero
  have hto₃ : Rehouse k w (w₂.clearOwner k c true) :=
    hre₁.trans (Rehouse.trans (.drives hsession.drives) hgave.rehouse)
  have hplace₄ (c' : CallId) : SamePlace (w₂.clearOwner k c true) w' c' :=
    .of_calls (by rw [hcalls₄])
  refine ⟨⟨?_, hto₃.trans hre₄, ?_, ?_, ?_, ?_, fun c' hc' => ?_⟩, ?_, fun hp => ?_, fun hin => ?_⟩
  · exact htidy₁.trans (hsession.tidy.trans (hgave.tidy.trans htidy₄))
  · rw [(hplace₄ c).live, hgave.live, (SamePlace.drives hsession.drives c).live, hcalls₁]
  · exact (hplace₄ c).owned.trans hgave.owned
  · exact (hplace₄ c).cleared.trans hgave.cleared
  · exact htidy₄.keeps.requestDetached hgave.detached
  · have hsame₁ : SamePlace w w₁ c' := .of_calls (by rw [hcalls₁])
    exact hsame₁.trans ((SamePlace.drives hsession.drives c').trans
      ((hgave.others c' hc').trans (hplace₄ c')))
  · rw [(hplace₄ c).connection, hpoint]
    rfl
  · exact hkept₄ (hto₃.placed hp)
  · -- The connection is in the cache, so it has not been detached: it was usable and still is.
    have hcached : w₁.ledger.Cached k := by
      have hcache₂ : w₂.cache = w₁.cache := (Ledger.Driven.of_drives hsession.drives.ledger).cache
      have hcache₃ : (w₂.clearOwner k c true).cache = w₂.cache := rfl
      rw [cached_iff, hcache₄, hcache₃, hcache₂, ← cached_iff] at hin
      exact hin
    have huse₃ : ((w₂.clearOwner k c true).conns k).usable = (w₂.conns k).usable := by
      have hconns : (w₂.clearOwner k c true).conns k = _ := Function.update_self ..
      rw [hconns]
      rfl
    left
    rw [destroyDetachedConnectionIfUnowned_usable h, huse₃,
      unregisterGrpcCallStream_usable hunreg k, huse₁]
    exact hout₁.resolve_right (not_not_intro hcached)

/-! ## The end of a call -/

/-- The object of a call goes away. -/
theorem releaseCall_tidy {c : CallId} {w w' : World} {u : Unit}
    (h : releaseCall c w = some (u, w')) (howned : (w.calls c).call.connectionOwned = false)
    (hdet : w.ledger.RequestDetached c)
    (hcleared : ∀ k, ∀ e ∈ (w.conns k).streams, e.source = c →
      (w.ledger.calls c).cleared = true) :
    Tidy w w' ∧ w'.conns = w.conns ∧ w'.cache = w.cache ∧ w'.nextConn = w.nextConn ∧
      (w'.calls c).live = false ∧ ∀ c', c' ≠ c → w'.calls c' = w.calls c' := by
  obtain ⟨_, w₁, hlog, h⟩ := Exec.bind_some.mp h
  obtain rfl := Exec.modify_some.mp hlog
  have hset := Exec.modify_some.mp h
  have hkeep : Keep w w' := by
    rw [hset]
    exact .release c howned hdet hcleared
  have hcalls : w'.calls = Function.update w.calls c { w.calls c with live := false } := by
    rw [hset]
    rfl
  have hconns : w'.conns = w.conns := by
    rw [hset]
    rfl
  refine ⟨⟨.single hkeep, fun hsettled => ?_, fun c' hcalm => ?_⟩, hconns, ?_, ?_, ?_, fun c' hc' => ?_⟩
  · refine settled_congr hsettled (fun c' hc' => ?_) fun k => .inr ⟨by rw [hconns], ?_⟩
    · rw [hcalls, Function.update_apply] at hc'
      split at hc'
      · next hc => exact hc ▸ hc'
      · exact hc'
    · rw [hconns]
      exact id
  · exact hcalm.update hcalls rfl id
  · rw [hset]
    rfl
  · rw [hset]
    rfl
  · rw [hcalls, Function.update_self]
  · rw [hcalls, Function.update_of_ne hc']

/-- A change beside the connections and the cache. -/
theorem rehouse_of_conns {w w' : World} (hconns : w'.conns = w.conns) (hcache : w'.cache = w.cache)
    (hnext : w'.nextConn = w.nextConn) (k : ConnId) : Rehouse k w w' := by
  refine ⟨hnext, fun k' _ => by rw [hconns], fun k' _ => ?_, by rw [hcache], fun hp => ?_⟩
  · rw [cached_iff, cached_iff, hcache]
  · unfold Placed
    rw [hconns, cached_iff, hcache, ← cached_iff]
    exact hp

/-- A call that gave up its connection is released. -/
theorem GaveUp.release {k : ConnId} {c : CallId} {w w₁ w' : World} {u : Unit}
    (hgave : GaveUp k c w w₁) (h : releaseCall c w₁ = some (u, w')) :
    Gone k c w w' ∧ w'.conns = w₁.conns ∧ w'.cache = w₁.cache := by
  obtain ⟨htidy, hconns, hcache, hnext, hlive, hothers⟩ :=
    releaseCall_tidy h hgave.owned hgave.detached fun _ _ _ _ => hgave.cleared
  refine ⟨⟨hgave.tidy.trans htidy, hgave.rehouse.trans (rehouse_of_conns hconns hcache hnext k),
    hlive, fun c' hc' => ?_⟩, hconns, hcache⟩
  exact (hgave.others c' hc').trans (.of_calls (hothers c' hc'))

theorem kept_of_conns {w w' : World} {k : ConnId} (hconns : w'.conns = w.conns)
    (hcache : w'.cache = w.cache) : w'.Kept k ↔ w.Kept k := by
  unfold Kept
  rw [hconns, cached_iff, hcache, ← cached_iff]

theorem fit_of_conns {w w' : World} {k : ConnId} (hconns : w'.conns = w.conns)
    (hcache : w'.cache = w.cache) : w'.Fit k ↔ w.Fit k := by
  unfold Fit
  rw [hconns, cached_iff, hcache, ← cached_iff]

/-- A stream that the destructor does not cancel has a detached request. -/
theorem detached_of_not_abandoned {k : ConnId} {c : CallId} {w : World} (hs : w.Sound)
    (hset : Ledger.Settled w.ledger) (hat : w.Attached c k) (h : abandonsStream w c = false) :
    w.ledger.RequestDetached c := by
  simp only [abandonsStream, hat.connection, Bool.and_eq_false_iff, Bool.not_eq_false',
    decide_eq_false_iff_not, not_lt] at h
  rcases h with ((hcompleted | hclosed) | hio) | hid
  · exact hs.ended c hcompleted
  · exact hset c hclosed
  · have hdead : (w.conns k).dead = true := by simpa [H2Connection.ioAllowed] using hio
    exact hs.inv.detached_of_dead hat.cleared hat.connection hdead
  · exact hs.inv.detached_of_unsubmitted hid

/-- `cancel_active_server_streaming_call_state`: the request is detached afterwards. -/
theorem cancelActiveServerStreamingCallState_turn {k : ConnId} {c : CallId} {w w' : World} {u : Unit}
    (h : cancelActiveServerStreamingCallState c w = some (u, w')) (hs : w.Sound)
    (hset : Ledger.Settled w.ledger) (hat : w.Attached c k) (hdes : (w.conns k).destroyed = 0) :
    Turn k w w' ∧ w'.ledger.RequestDetached c := by
  obtain ⟨tc, w₁, htc, h⟩ := Exec.bind_some.mp h
  rw [Proc.tracked, Exec.get_bind_run] at htc
  obtain ⟨rfl, rfl⟩ := Exec.pure_some.mp htc
  split at h
  · next hguard =>
    obtain ⟨-, rfl⟩ := Exec.pure_some.mp h
    simp only [hat.connection, Option.isNone_some, Bool.or_false] at hguard
    exact ⟨.refl, hs.ended c hguard⟩
  · exact cancelGrpcCallStream_turn h hs hset hat hdes

/-- `destroy_server_streaming_call_state` of a stream that has a connection. -/
theorem destroyServerStreamingCallState_gone {k : ConnId} {c : CallId} {w w' : World} {u : Unit}
    (h : destroyServerStreamingCallState c w = some (u, w')) (hs : w.Sound)
    (hset : Ledger.Settled w.ledger) (hat : w.Attached c k) (hdes : (w.conns k).destroyed = 0) :
    Gone k c w w' ∧ (w.Placed k → w'.Kept k) ∧ w'.Fit k := by
  rw [destroyServerStreamingCallState, Exec.get_bind_run] at h
  obtain ⟨_, w₁, hwhen, h⟩ := Exec.bind_some.mp h
  obtain ⟨_, w₂, hclear, h⟩ := Exec.bind_some.mp h
  -- Behind the cancellation the request is detached and the stream still points at its connection.
  have hpre : Tidy w w₁ ∧ Rehouse k w w₁ ∧ (∀ c', SamePlace w w₁ c') ∧
      (w₁.conns k).destroyed = 0 ∧ w₁.ledger.RequestDetached c := by
    obtain ⟨-, hcancel⟩ | ⟨hnot, rfl⟩ := Exec.when_some.mp hwhen
    · obtain ⟨_, w₃, hactive, hdetach⟩ := Exec.bind_some.mp hcancel
      obtain ⟨hturn, hdet⟩ :=
        cancelActiveServerStreamingCallState_turn hactive hs hset hat hdes
      obtain ⟨htidy, hcalls, hre, -, hdes₁, -⟩ :=
        detachUnlessUsable_tidy hdetach (hs.drives hturn.drives) (hat.drives hturn.drives).connection
      refine ⟨hturn.tidy.trans htidy, Rehouse.trans (.drives hturn.drives) hre, fun c' => ?_,
        hdes₁.trans (hturn.drives.destroyed.trans hdes), Keeps.requestDetached htidy.keeps hdet⟩
      exact (SamePlace.drives hturn.drives c').trans (.of_calls (by rw [hcalls]))
    · exact ⟨.refl, .refl k w, fun _ => .of_calls rfl, hdes,
        detached_of_not_abandoned hs hset hat (Bool.not_eq_true _ ▸ hnot)⟩
  obtain ⟨htidy, hre, hplace, hdes₁, hdet⟩ := hpre
  obtain ⟨hgave, -, hkept, hfit⟩ := clearConnectionServerStreamingCallStateOwner_gaveUp hclear
    (hs.keeps htidy.keeps) (hat.same (hplace c)).connection hdes₁ hdet
  obtain ⟨hgone, hconns, hcache⟩ := hgave.release h
  refine ⟨⟨htidy.trans hgone.tidy, hre.trans hgone.rehouse, hgone.dead, fun c' hc' => ?_⟩,
    fun hp => (kept_of_conns hconns hcache).mpr (hkept (hre.placed hp)),
    (fit_of_conns hconns hcache).mpr hfit⟩
  exact (hplace c').trans (hgone.others c' hc')

/-- `destroy_server_streaming_call_state` of a stream that gave up its connection. -/
theorem destroyServerStreamingCallState_cleared {c : CallId} {w w' : World} {u : Unit}
    (h : destroyServerStreamingCallState c w = some (u, w')) (hs : w.Sound)
    (hconn : (w.calls c).call.connection = none) (hcleared : (w.ledger.calls c).cleared = true) :
    Tidy w w' ∧ w'.conns = w.conns ∧ w'.cache = w.cache ∧ w'.nextConn = w.nextConn ∧
      (w'.calls c).live = false ∧ ∀ c', c' ≠ c → w'.calls c' = w.calls c' := by
  rw [destroyServerStreamingCallState, Exec.get_bind_run] at h
  obtain ⟨_, w₁, hwhen, h⟩ := Exec.bind_some.mp h
  obtain ⟨habandons, -⟩ | ⟨-, rfl⟩ := Exec.when_some.mp hwhen
  · simp only [abandonsStream, hconn, Bool.false_eq_true] at habandons
  · obtain ⟨_, w₂, hclear, h⟩ := Exec.bind_some.mp h
    obtain ⟨call, w₃, hcall, hclear⟩ := Exec.bind_some.mp hclear
    rw [Proc.call, Exec.get_bind_run] at hcall
    obtain ⟨rfl, rfl⟩ := Exec.pure_some.mp hcall
    simp only [hconn] at hclear
    obtain ⟨-, rfl⟩ := Exec.pure_some.mp hclear
    have howned : (w.calls c).call.connectionOwned = false := by
      by_contra howned
      have hnot := (hs.inv.counted.owned c (Bool.not_eq_false _ ▸ howned)).2.2
      exact absurd (hnot.symm.trans hcleared) Bool.false_ne_true
    exact releaseCall_tidy h howned (hs.inv.detached_of_cleared hcleared) fun _ _ _ _ => hcleared

/-! ## Eviction -/

/-- The removal of a connection that the cache holds under a key. -/
theorem evict_tidy {key : Bytes} {entry : CacheEntry} {w w' : World} {u : Unit}
    (h : evict key entry.connection w = some (u, w')) (hs : w.Sound)
    (hfind : (w.cache.find? fun e => e.key = key) = some entry) :
    Tidy w w' ∧ w'.calls = w.calls ∧ Rehouse entry.connection w w' ∧
      ¬w'.ledger.Cached entry.connection ∧ w'.Kept entry.connection ∧
      ∀ e ∈ w'.cache, e.key ≠ key := by
  have hmem : entry ∈ w.cache := List.mem_of_find?_eq_some hfind
  have hkey : entry.key = key := by simpa using List.find?_some hfind
  subst hkey
  obtain ⟨found, w₁, hread, h⟩ := Exec.bind_some.mp h
  rw [findEntry, Exec.get_bind_run] at hread
  obtain ⟨rfl, rfl⟩ := Exec.pure_some.mp hread
  simp only [hfind, ne_eq, not_true_eq_false, if_false] at h
  obtain ⟨_, w₂, hun, h⟩ := Exec.bind_some.mp h
  have hw₂ : w₂ = { w with cache := w.cache.filter fun e => decide (e.key ≠ entry.key) } :=
    Exec.modify_some.mp hun
  obtain ⟨htidy, hgone, hothers⟩ := uncache_tidy hs hmem
  rw [← hw₂] at htidy hgone hothers
  obtain ⟨conn, w₃, hconn, h⟩ := Exec.bind_some.mp h
  rw [Proc.conn, Exec.get_bind_run] at hconn
  obtain ⟨rfl, rfl⟩ := Exec.pure_some.mp hconn
  have hkeys : ∀ e ∈ w₂.cache, e.key ≠ entry.key := by
    rw [hw₂]
    exact fun e he => of_decide_eq_true (List.mem_filter.mp he).2
  have hsame : w₂.calls = w.calls ∧ w₂.conns = w.conns ∧ w₂.nextConn = w.nextConn ∧
      w₂.cache.length ≤ w.cache.length := by
    rw [hw₂]
    exact ⟨rfl, rfl, rfl, List.length_filter_le _ _⟩
  have hfinish (htidy' : Tidy w₂ w') (hcalls : w'.calls = w₂.calls) (hcache : w'.cache = w₂.cache)
      (hre : Rehouse entry.connection w₂ w') (hkept : w'.Kept entry.connection) :
      Tidy w w' ∧ w'.calls = w.calls ∧ Rehouse entry.connection w w' ∧
        ¬w'.ledger.Cached entry.connection ∧ w'.Kept entry.connection ∧
        ∀ e ∈ w'.cache, e.key ≠ entry.key := by
    refine ⟨htidy.trans htidy', hcalls.trans hsame.1, ⟨hre.nextConn.trans hsame.2.2.1,
      fun k' hk' => ?_, fun k' hk' => (hre.cached k' hk').trans (hothers k' hk'),
      Nat.le_trans hre.size hsame.2.2.2, fun _ => hkept.placed⟩, ?_, hkept, ?_⟩
    · rw [hre.conns k' hk', hsame.2.1]
    · rw [cached_iff, hcache, ← cached_iff]
      exact hgone
    · rw [hcache]
      exact hkeys
  split at h
  · next hown =>
    obtain ⟨htidy', hcalls, hcache, hre, hself⟩ := markDetached_tidy h hgone
    refine hfinish htidy' hcalls hcache hre (.inr (.inl ?_))
    rw [hself]
    exact ⟨rfl, hown⟩
  · next hown =>
    have hdes : (w₂.conns entry.connection).destroyed = 0 := by
      rw [hsame.2.1]
      exact (hs.inv.housed.entry entry hmem).2.1
    obtain ⟨htidy', hcalls, hcache, hre, hkept⟩ :=
      destroyH2Connection_tidy h hgone (Nat.eq_zero_of_not_pos hown) hdes
    exact hfinish htidy' hcalls hcache hre hkept

end Proc

end GrpcLite
