import GrpcLite.Protocol.Wiring

/-!
# Reachable ledgers

The cache and the destructions agree with the owners, and the logs record nothing
forbidden. Together with the counters and the streams these facts form the
invariant that holds after every run of the ledger.
-/

namespace GrpcLite

namespace Ledger

/-- The cache and the destructions agree with the owners. -/
structure Housed (l : Ledger) : Prop where
  /-- Keys are distinct. -/
  keys : (l.cache.map CacheEntry.key).Nodup
  /-- A connection is cached once. -/
  conns : (l.cache.map CacheEntry.connection).Nodup
  /-- A cached connection exists, is not destroyed and not detached. -/
  entry : ∀ e ∈ l.cache, e.connection < l.nextConn ∧ (l.conns e.connection).destroyed = 0 ∧
    (l.conns e.connection).detached = false
  /-- A connection is destroyed at most once. -/
  once : ∀ k, (l.conns k).destroyed ≤ 1
  /-- A destroyed connection has no owner. -/
  unowned : ∀ k, (l.conns k).destroyed ≠ 0 → (l.conns k).ownerCount = 0
  /-- Calls point at existing connections. -/
  home : ∀ c k, (l.calls c).connection = some k → k < l.nextConn

/-- The logs record nothing forbidden. -/
structure Logged (l : Ledger) : Prop where
  /-- No operation was made on a dead or destroyed connection. -/
  io : ∀ r ∈ l.ioLog, r.dead = false ∧ r.destroyed = false
  /-- The library read the requests of live calls only. -/
  sources : ∀ r ∈ l.sourceReads, r.2 = true
  /-- Only unowned connections outside the cache were destroyed, and none twice. -/
  destroys : ∀ r ∈ l.destroys, r.owners = 0 ∧ r.cached = false ∧ r.destroyed = 0
  /-- Calls were released with their request detached. -/
  releases : ∀ r ∈ l.releases, r.detached = true

/-- The invariant of the ledger. -/
structure Inv (l : Ledger) : Prop where
  /-- The counters agree with the calls. -/
  counted : Counted l
  /-- The streams agree with the calls. -/
  wired : Wired l
  /-- The cache agrees with the owners. -/
  housed : Housed l
  /-- The logs are clean. -/
  logged : Logged l

namespace Housed

variable {l l' : Ledger}

/-- A change that leaves the cache and moves no call to another connection. -/
theorem congr (h : Housed l) (hnext : l'.nextConn = l.nextConn) (hcache : l'.cache = l.cache)
    (hcalls : ∀ c, (l'.calls c).connection = (l.calls c).connection ∨
      (l'.calls c).connection = none)
    (hconns : ∀ k, (l'.conns k).destroyed = (l.conns k).destroyed ∧
      (l'.conns k).detached = (l.conns k).detached ∧
      ((l.conns k).destroyed = 0 ∨ (l'.conns k).ownerCount ≤ (l.conns k).ownerCount)) :
    Housed l' := by
  refine ⟨hcache ▸ h.keys, hcache ▸ h.conns, fun e he => ?_, fun k => ?_, fun k hk => ?_,
    fun c k hc => ?_⟩
  · rw [hnext, (hconns _).1, (hconns _).2.1]
    exact h.entry e (hcache ▸ he)
  · rw [(hconns k).1]
    exact h.once k
  · rw [(hconns k).1] at hk
    exact Nat.eq_zero_of_le_zero ((hconns k).2.2.resolve_left hk |>.trans_eq (h.unowned k hk))
  · rw [hnext]
    rcases hcalls c with hsame | hnone
    · exact h.home c k (hsame ▸ hc)
    · exact absurd (hnone.symm.trans hc) (by simp)

/-- A change of a connection that does not take it out of its place. -/
theorem setConn (h : Housed l) (k : ConnId) {f : ConnView → ConnView}
    (hf : (f (l.conns k)).destroyed = (l.conns k).destroyed ∧
      (f (l.conns k)).detached = (l.conns k).detached ∧
      ((l.conns k).destroyed = 0 ∨ (f (l.conns k)).ownerCount ≤ (l.conns k).ownerCount)) :
    Housed (l.setConn k f) := by
  refine h.congr rfl rfl (fun _ => .inl rfl) fun k' => ?_
  rw [setConn_conns]
  split
  · next hk => exact hk ▸ hf
  · exact ⟨rfl, rfl, .inr le_rfl⟩

/-- A change of a call that does not move it to another connection. -/
theorem setCall (h : Housed l) (c : CallId) {f : CallView → CallView}
    (hf : (f (l.calls c)).connection = (l.calls c).connection ∨
      (f (l.calls c)).connection = none) : Housed (l.setCall c f) := by
  refine h.congr rfl rfl (fun c' => ?_) fun _ => ⟨rfl, rfl, .inr le_rfl⟩
  rw [setCall_calls]
  split
  · next hc => exact hc ▸ hf
  · exact .inl rfl

/-- A change outside cache, calls and connections. -/
theorem of_eq (h : Housed l) (hnext : l'.nextConn = l.nextConn) (hcache : l'.cache = l.cache)
    (hcalls : l'.calls = l.calls) (hconns : l'.conns = l.conns) : Housed l' :=
  h.congr hnext hcache (fun _ => .inl (by rw [hcalls])) fun k => by
    rw [hconns]
    exact ⟨rfl, rfl, .inr le_rfl⟩

/-- A change of a session keeps connections housed. -/
theorem drive {k : ConnId} (h : Housed l) (hs : Drive k l l') : Housed l' := by
  cases hs with
  | log | source => exact h.of_eq rfl rfl rfl rfl
  | die | drain | streams | receive => exact h.setConn k ⟨rfl, rfl, .inr le_rfl⟩
  | deliver streamId c bytes hdead huser =>
    refine Housed.setCall (h.setConn k ?_) c (.inl ?_)
    · exact ⟨rfl, rfl, .inr le_rfl⟩
    · rfl
  | close c hreg hconn => exact h.setCall c (.inl rfl)
  | unregister c hreg hconn =>
    refine Housed.setCall (h.setConn k ?_) c (.inl ?_)
    · exact ⟨rfl, rfl, .inr le_rfl⟩
    · rfl

/-- So does any step. -/
theorem step (h : Housed l) (hs : Step l l') : Housed l' := by
  cases hs with
  | drive k hd => exact h.drive hd
  | newConn =>
    have hconns k : Function.update l.conns l.nextConn {} k =
        if k = l.nextConn then {} else l.conns k := Function.update_apply ..
    refine ⟨h.keys, h.conns, fun e he => ?_, fun k => ?_, fun k => ?_, fun c k hc => ?_⟩
    · obtain ⟨hlt, hrest⟩ := h.entry e he
      simp only [hconns, if_neg (Nat.ne_of_lt hlt)]
      exact ⟨Nat.lt_succ_of_lt hlt, hrest⟩
    · simp only [hconns]
      split
      · exact Nat.zero_le _
      · exact h.once k
    · simp only [hconns]
      split
      · exact fun _ => rfl
      · exact h.unowned k
    · exact Nat.lt_succ_of_lt (h.home c k hc)
  | newCall k hk =>
    refine ⟨h.keys, h.conns, h.entry, h.once, h.unowned, fun c k' hc => ?_⟩
    simp only [Function.update_apply] at hc
    split at hc
    · exact Option.some.inj hc ▸ hk
    · exact h.home c k' hc
  | submit k c streamId hc hlive hcleared hconn howned hold hbytes hpos hnew =>
    refine Housed.setConn (h.setCall c (.inl ?_)) k ?_
    · rfl
    · exact ⟨rfl, rfl, .inr le_rfl⟩
  | submitFailed c rv hold hreg hneg => exact h.setCall c (.inl rfl)
  | register k c hc hlive hcleared hconn howned hpos hdes hown =>
    refine Housed.setCall (h.setConn k ?_) c (.inl ?_)
    · exact ⟨rfl, rfl, .inl hdes⟩
    · rfl
  | clearOwner k c forget hconn hreg hdet =>
    refine Housed.setCall (h.setConn k ?_) c ?_
    · refine ⟨rfl, rfl, .inr ?_⟩
      simp only
      split
      · exact Nat.sub_le _ _
      · exact le_rfl
    · simp only
      split
      · exact .inr rfl
      · exact .inl rfl
  | release c howned hdet hcleared =>
    have h' : Housed { l with releases := l.releases ++ [⟨c, true⟩] } := h.of_eq rfl rfl rfl rfl
    exact h'.setCall c (.inl rfl)
  | uncache p =>
    exact ⟨h.keys.sublist (List.filter_sublist.map _), h.conns.sublist (List.filter_sublist.map _),
      fun e he => h.entry e (List.mem_of_mem_filter he), h.once, h.unowned, h.home⟩
  | markDetached k hcache =>
    refine ⟨h.keys, h.conns, fun e he => ?_, fun k' => ?_, fun k' => ?_, h.home⟩
    · have hk : e.connection ≠ k := fun hk => hcache ⟨e, he, hk⟩
      rw [setConn_conns, if_neg hk]
      exact h.entry e he
    · rw [setConn_conns]
      split
      · exact h.once k
      · exact h.once k'
    · rw [setConn_conns]
      split
      · exact h.unowned k
      · exact h.unowned k'
  | cache key k hk hcache hkey hdes hdet =>
    refine ⟨?_, ?_, fun e he => ?_, h.once, h.unowned, h.home⟩
    · rw [List.map_append, List.map_singleton]
      refine List.Nodup.append h.keys (List.nodup_singleton _) fun x hx hx' => ?_
      obtain ⟨e, he, rfl⟩ := List.mem_map.mp hx
      exact hkey e he (List.mem_singleton.mp hx')
    · rw [List.map_append, List.map_singleton]
      refine List.Nodup.append h.conns (List.nodup_singleton _) fun x hx hx' => ?_
      obtain ⟨e, he, rfl⟩ := List.mem_map.mp hx
      exact hcache ⟨e, he, List.mem_singleton.mp hx'⟩
    · rcases List.mem_append.mp he with he | he
      · exact h.entry e he
      · rw [List.mem_singleton.mp he]
        exact ⟨hk, hdes, hdet⟩
  | destroy k hcache hown hdes =>
    refine ⟨h.keys, h.conns, fun e he => ?_, fun k' => ?_, fun k' => ?_, h.home⟩
    · have hk : e.connection ≠ k := fun hk => hcache ⟨e, he, hk⟩
      rw [setConn_conns, if_neg hk]
      exact h.entry e he
    · rw [setConn_conns]
      split
      · simp only [hdes, Nat.zero_add, le_refl]
      · exact h.once k'
    · rw [setConn_conns]
      split
      · exact fun _ => hown
      · exact h.unowned k'

end Housed

namespace Logged

variable {l l' : Ledger}

/-- A change outside the logs. -/
theorem of_eq (h : Logged l) (hio : l'.ioLog = l.ioLog) (hsrc : l'.sourceReads = l.sourceReads)
    (hdes : l'.destroys = l.destroys) (hrel : l'.releases = l.releases) : Logged l' :=
  ⟨hio ▸ h.io, hsrc ▸ h.sources, hdes ▸ h.destroys, hrel ▸ h.releases⟩

/-- A change of a session reads and writes on a living connection. -/
theorem drive {k : ConnId} (h : Logged l) (hs : Drive k l l') : Logged l' := by
  cases hs with
  | log kind hdead hdes =>
    refine ⟨fun r hr => ?_, h.sources, h.destroys, h.releases⟩
    rcases List.mem_append.mp hr with hr | hr
    · exact h.io r hr
    · rw [List.mem_singleton.mp hr]
      exact ⟨rfl, rfl⟩
  | source c hlive =>
    refine ⟨h.io, fun r hr => ?_, h.destroys, h.releases⟩
    rcases List.mem_append.mp hr with hr | hr
    · exact h.sources r hr
    · rw [List.mem_singleton.mp hr]
  | die | drain | streams | receive | deliver | close | unregister =>
    exact h.of_eq rfl rfl rfl rfl

/-- So does any step. -/
theorem step (h : Logged l) (hs : Step l l') : Logged l' := by
  cases hs with
  | drive k hd => exact h.drive hd
  | release c howned hdet hcleared =>
    refine ⟨h.io, h.sources, h.destroys, fun r hr => ?_⟩
    rcases List.mem_append.mp hr with hr | hr
    · exact h.releases r hr
    · rw [List.mem_singleton.mp hr]
  | destroy k hcache hown hdes =>
    refine ⟨h.io, h.sources, fun r hr => ?_, h.releases⟩
    rcases List.mem_append.mp hr with hr | hr
    · exact h.destroys r hr
    · rw [List.mem_singleton.mp hr]
      exact ⟨rfl, rfl, rfl⟩
  | newConn | newCall | submit | submitFailed | register | clearOwner | uncache | markDetached
  | cache => exact h.of_eq rfl rfl rfl rfl

end Logged

namespace Inv

variable {l l' : Ledger}

/-- A step keeps the invariant. -/
theorem step (h : Inv l) (hs : Step l l') : Inv l' where
  counted := h.counted.step (fun c hc => absurd (h.housed.home c _ hc) (Nat.lt_irrefl _)) hs
  wired := h.wired.step h.counted hs
  housed := h.housed.step hs
  logged := h.logged.step hs

/-- The invariant holds along every run. -/
theorem steps (h : Inv l) (hs : Steps l l') : Inv l' := by
  induction hs with
  | refl => exact h
  | tail _ hstep ih => exact ih.step hstep

/-- The empty ledger satisfies the invariant. -/
theorem empty : Inv {} where
  counted := ⟨fun _ => rfl, fun _ => List.nodup_nil, fun _ _ => by simp, fun _ h => (nomatch h),
    fun _ h => (nomatch h), fun _ => rfl⟩
  wired := ⟨fun _ => List.nodup_nil, fun _ _ he => absurd he List.not_mem_nil⟩
  housed := ⟨List.nodup_nil, List.nodup_nil, fun _ he => absurd he List.not_mem_nil,
    fun _ => Nat.zero_le _, fun _ h => absurd rfl h, fun _ _ h => (nomatch h)⟩
  logged := ⟨fun _ h => absurd h List.not_mem_nil, fun _ h => absurd h List.not_mem_nil,
    fun _ h => absurd h List.not_mem_nil, fun _ h => absurd h List.not_mem_nil⟩

/-- The connection of an owner has not been destroyed. -/
theorem ownerCount_pos (h : Inv l) {c : CallId} {k : ConnId} (howned : (l.calls c).owned = true)
    (hconn : (l.calls c).connection = some k) : 0 < (l.conns k).ownerCount := by
  refine Nat.pos_of_ne_zero fun hzero => ?_
  rw [h.counted.owners k, Nat.count_iff_forall_not] at hzero
  exact hzero c (h.counted.owned c howned).1 ⟨howned, hconn⟩

/-- An owned connection is not destroyed. -/
theorem alive_of_owned (h : Inv l) {c : CallId} {k : ConnId} (howned : (l.calls c).owned = true)
    (hconn : (l.calls c).connection = some k) : (l.conns k).destroyed = 0 := by
  by_contra hne
  exact absurd (h.housed.unowned k hne) (Nat.ne_of_gt (h.ownerCount_pos howned hconn))

/-- A connection with a registered stream is not destroyed. -/
theorem alive_of_registered (h : Inv l) {c : CallId} {k : ConnId}
    (hreg : (l.calls c).registered = true) (hconn : (l.calls c).connection = some k) :
    (l.conns k).destroyed = 0 :=
  h.alive_of_owned (h.counted.registered c hreg).1 hconn

/-- A connection in the cache is neither destroyed nor detached. -/
theorem alive_of_cached (h : Inv l) {k : ConnId} (hk : l.Cached k) :
    (l.conns k).destroyed = 0 ∧ (l.conns k).detached = false := by
  obtain ⟨e, he, rfl⟩ := hk
  exact (h.housed.entry e he).2

end Inv

end Ledger

end GrpcLite
