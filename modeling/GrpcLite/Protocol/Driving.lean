import GrpcLite.Protocol.Reachable

/-!
# What driving a session leaves alone

Driving the session of one connection changes neither the other connections nor
the owners and the identity of any call, and a request that the library can no
longer read stays so. A ledger is settled when every call that knows its stream
closed has a detached request.
-/

namespace GrpcLite

namespace Ledger

/-- What may happen to the entry of a stream. -/
structure EntryGrows (e e' : StreamEntry) : Prop where
  /-- The identity of the stream stays. -/
  streamId : e'.streamId = e.streamId
  /-- The request source stays. -/
  source : e'.source = e.source
  /-- The request stays detached. -/
  detached : e.closed = true ∨ e.reset = true → e'.closed = true ∨ e'.reset = true

theorem EntryKeeps.grows {e e' : StreamEntry} (h : EntryKeeps e e') : EntryGrows e e' :=
  ⟨h.streamId, h.source, Or.imp h.closed h.reset⟩

/-- The effect of driving a session. -/
structure Driven (k : ConnId) (l l' : Ledger) : Prop where
  /-- No connection is created. -/
  nextConn : l'.nextConn = l.nextConn
  /-- No call is created. -/
  nextCall : l'.nextCall = l.nextCall
  /-- The cache stays. -/
  cache : l'.cache = l.cache
  /-- The other connections stay. -/
  others : ∀ k', k' ≠ k → l'.conns k' = l.conns k'
  /-- A dead connection stays dead. -/
  dead : (l.conns k).dead = true → (l'.conns k).dead = true
  /-- A draining connection keeps draining. -/
  draining : (l.conns k).draining = true → (l'.conns k).draining = true
  /-- Place and owners of the connection stay. -/
  place : (l'.conns k).detached = (l.conns k).detached ∧
    (l'.conns k).ownerCount = (l.conns k).ownerCount ∧
    (l'.conns k).destroyed = (l.conns k).destroyed
  /-- The identity of every call stays. -/
  calls : ∀ c, (l'.calls c).live = (l.calls c).live ∧
    (l'.calls c).connection = (l.calls c).connection ∧
    (l'.calls c).streamId = (l.calls c).streamId ∧ (l'.calls c).owned = (l.calls c).owned ∧
    (l'.calls c).cleared = (l.calls c).cleared
  /-- No stream is lost. -/
  streams : ∃ f, (∀ e, EntryGrows e (f e)) ∧
    (l'.conns k).streams = (l.conns k).streams.map f

namespace Driven

variable {k : ConnId} {l l₁ l₂ l' : Ledger}

theorem refl : Driven k l l :=
  ⟨rfl, rfl, rfl, fun _ _ => rfl, id, id, ⟨rfl, rfl, rfl⟩, fun _ => ⟨rfl, rfl, rfl, rfl, rfl⟩, id,
    fun _ => ⟨rfl, rfl, id⟩, (List.map_id _).symm⟩

theorem trans (h : Driven k l l₁) (h' : Driven k l₁ l₂) : Driven k l l₂ := by
  refine ⟨h'.nextConn.trans h.nextConn, h'.nextCall.trans h.nextCall, h'.cache.trans h.cache,
    fun k' hk => (h'.others k' hk).trans (h.others k' hk), h'.dead ∘ h.dead,
    h'.draining ∘ h.draining, ?_, fun c => ?_, ?_⟩
  · obtain ⟨ha, hb, hc⟩ := h.place
    obtain ⟨ha', hb', hc'⟩ := h'.place
    exact ⟨ha'.trans ha, hb'.trans hb, hc'.trans hc⟩
  · obtain ⟨ha, hb, hc, hd, he⟩ := h.calls c
    obtain ⟨ha', hb', hc', hd', he'⟩ := h'.calls c
    exact ⟨ha'.trans ha, hb'.trans hb, hc'.trans hc, hd'.trans hd, he'.trans he⟩
  · obtain ⟨f, hf, hs⟩ := h.streams
    obtain ⟨g, hg, hs'⟩ := h'.streams
    refine ⟨g ∘ f, fun e => ?_, by rw [hs', hs, List.map_map]⟩
    exact ⟨(hg _).streamId.trans (hf e).streamId, (hg _).source.trans (hf e).source,
      (hg _).detached ∘ (hf e).detached⟩

/-- A change of the connection alone. -/
theorem setConn {g : ConnView → ConnView} (f : StreamEntry → StreamEntry)
    (hf : ∀ e, EntryGrows e (f e))
    (hs : (g (l.conns k)).streams = (l.conns k).streams.map f)
    (hdead : (l.conns k).dead = true → (g (l.conns k)).dead = true)
    (hdraining : (l.conns k).draining = true → (g (l.conns k)).draining = true)
    (hplace : (g (l.conns k)).detached = (l.conns k).detached ∧
      (g (l.conns k)).ownerCount = (l.conns k).ownerCount ∧
      (g (l.conns k)).destroyed = (l.conns k).destroyed) : Driven k l (l.setConn k g) := by
  have hk : (l.setConn k g).conns k = g (l.conns k) := by
    rw [setConn_conns, if_pos rfl]
  refine ⟨rfl, rfl, rfl, fun k' hne => ?_, ?_, ?_, ?_, fun _ => ⟨rfl, rfl, rfl, rfl, rfl⟩, f, hf, ?_⟩
  · rw [setConn_conns, if_neg hne]
  · rw [hk]
    exact hdead
  · rw [hk]
    exact hdraining
  · rw [hk]
    exact hplace
  · rw [hk]
    exact hs

/-- A change of a call that keeps its identity. -/
theorem setCall (c : CallId) {f : CallView → CallView}
    (hf : (f (l.calls c)).live = (l.calls c).live ∧
      (f (l.calls c)).connection = (l.calls c).connection ∧
      (f (l.calls c)).streamId = (l.calls c).streamId ∧
      (f (l.calls c)).owned = (l.calls c).owned ∧
      (f (l.calls c)).cleared = (l.calls c).cleared) : Driven k l (l.setCall c f) := by
  refine ⟨rfl, rfl, rfl, fun _ _ => rfl, id, id, ⟨rfl, rfl, rfl⟩, fun c' => ?_, id,
    fun _ => ⟨rfl, rfl, id⟩, (List.map_id _).symm⟩
  rw [setCall_calls]
  split
  · next hc => exact hc ▸ hf
  · exact ⟨rfl, rfl, rfl, rfl, rfl⟩

theorem receive_grows (streamId : Int) (bytes : Bytes) (e : StreamEntry) :
    EntryGrows e (e.receive streamId bytes) := by
  unfold StreamEntry.receive
  split
  · exact ⟨rfl, rfl, id⟩
  · exact ⟨rfl, rfl, id⟩

theorem of_drive (h : Drive k l l') : Driven k l l' := by
  cases h with
  | log | source =>
    exact ⟨rfl, rfl, rfl, fun _ _ => rfl, id, id, ⟨rfl, rfl, rfl⟩,
      fun _ => ⟨rfl, rfl, rfl, rfl, rfl⟩, id, fun _ => ⟨rfl, rfl, id⟩, (List.map_id _).symm⟩
  | die =>
    exact setConn id (fun _ => ⟨rfl, rfl, id⟩) (List.map_id _).symm (fun _ => rfl) id ⟨rfl, rfl, rfl⟩
  | drain =>
    exact setConn id (fun _ => ⟨rfl, rfl, id⟩) (List.map_id _).symm id (fun _ => rfl) ⟨rfl, rfl, rfl⟩
  | streams f hf => exact setConn f (fun e => (hf e).grows) rfl id id ⟨rfl, rfl, rfl⟩
  | receive streamId bytes hnone =>
    exact setConn _ (receive_grows streamId bytes) rfl id id ⟨rfl, rfl, rfl⟩
  | deliver streamId c bytes hdead huser =>
    refine Driven.trans (setConn _ (receive_grows streamId bytes) rfl id id ?_) (setCall c ?_)
    · exact ⟨rfl, rfl, rfl⟩
    · exact ⟨rfl, rfl, rfl, rfl, rfl⟩
  | close c hreg hconn => exact setCall c ⟨rfl, rfl, rfl, rfl, rfl⟩
  | unregister c hreg hconn =>
    refine Driven.trans (setConn (fun e => if (l.conns k).dead then e else
      if e.streamId = (l.calls c).streamId then { e with userData := none } else e)
      (fun e => ?_) ?_ id id ?_) (setCall c ?_)
    · split
      · exact ⟨rfl, rfl, id⟩
      · split
        · exact ⟨rfl, rfl, id⟩
        · exact ⟨rfl, rfl, id⟩
    · simp only [Streams.modify]
      split
      · simp only [List.map_id']
      · rfl
    · exact ⟨rfl, rfl, rfl⟩
    · exact ⟨rfl, rfl, rfl, rfl, rfl⟩

theorem of_drives (h : Drives k l l') : Driven k l l' := by
  induction h with
  | refl => exact .refl
  | tail _ hd ih => exact ih.trans (of_drive hd)

/-- Every entry comes from an entry of the same stream. -/
theorem entry (h : Driven k l l') {k' : ConnId} {e' : StreamEntry}
    (he' : e' ∈ (l'.conns k').streams) : ∃ e ∈ (l.conns k').streams, EntryGrows e e' ∧
      ((l.conns k').dead = true → (l'.conns k').dead = true) := by
  by_cases hk : k' = k
  · subst hk
    obtain ⟨f, hf, hs⟩ := h.streams
    rw [hs] at he'
    obtain ⟨e, he, rfl⟩ := List.mem_map.mp he'
    exact ⟨e, he, hf e, h.dead⟩
  · rw [h.others k' hk] at he' ⊢
    exact ⟨e', he', ⟨rfl, rfl, id⟩, id⟩

/-- A detached request stays detached. -/
theorem requestDetached (h : Driven k l l') {c : CallId} (hc : l.RequestDetached c) :
    l'.RequestDetached c := by
  intro k' e' he' hsource
  obtain ⟨e, he, hg, hdead⟩ := h.entry he'
  rcases hc k' e he (hg.source ▸ hsource) with hd | hd | hd
  · exact (hg.detached (.inl hd)).imp_right .inl
  · exact (hg.detached (.inr hd)).imp_right .inl
  · exact .inr (.inr (hdead hd))

end Driven

/-! ## Settled ledgers -/

/-- A call that knows its stream closed has a detached request. -/
def Settled (l : Ledger) : Prop := ∀ c, (l.calls c).closed = true → l.RequestDetached c

/-- The streams of calls that learned of their close must be detached by the end. -/
theorem Settled.driven {k : ConnId} {l l' : Ledger} (h : Settled l) (hd : Driven k l l')
    (hnew : ∀ c, (l'.calls c).closed = true →
      (l.calls c).closed = true ∨ l'.RequestDetached c) : Settled l' := by
  intro c hc
  rcases hnew c hc with hold | hnew
  · exact hd.requestDetached (h c hold)
  · exact hnew

/-- The request of a call that never got a stream is detached. -/
theorem Inv.detached_of_unsubmitted {l : Ledger} (h : Inv l) {c : CallId}
    (hid : (l.calls c).streamId ≤ 0) : l.RequestDetached c :=
  fun k e he hsource => absurd hsource (h.wired.no_source hid k e he)

/-- The request of a call that points at a dead connection is detached. -/
theorem Inv.detached_of_dead {l : Ledger} (h : Inv l) {c : CallId} {k : ConnId}
    (hcleared : (l.calls c).cleared = false) (hconn : (l.calls c).connection = some k)
    (hdead : (l.conns k).dead = true) : l.RequestDetached c := by
  intro k' e he hsource
  have hhome := ((h.wired.entry k' e he).home (hsource ▸ hcleared)).2
  rw [hsource, hconn] at hhome
  exact .inr (.inr (Option.some.inj hhome ▸ hdead))

/-- The request of a call whose stream is closed or reset is detached. -/
theorem Inv.detached_of_stream {l : Ledger} (h : Inv l) {c : CallId} {k : ConnId}
    (hcleared : (l.calls c).cleared = false) (hconn : (l.calls c).connection = some k)
    (hstream : ∀ e ∈ (l.conns k).streams, e.streamId = (l.calls c).streamId →
      e.closed = true ∨ e.reset = true) : l.RequestDetached c := by
  intro k' e he hsource
  have hentry := h.wired.entry k' e he
  rw [hsource] at hentry
  have hhome := (hentry.home hcleared).2
  rw [hconn] at hhome
  obtain rfl := Option.some.inj hhome
  exact (hstream e he hentry.id.2.symm).imp_right .inl

/-- The request of a call that gave up its connection is detached. -/
theorem Inv.detached_of_cleared {l : Ledger} (h : Inv l) {c : CallId}
    (hcleared : (l.calls c).cleared = true) : l.RequestDetached c := by
  intro k e he hsource
  refine (h.wired.entry k e he).held.resolve_left ?_
  rw [hsource, hcleared]
  exact Bool.noConfusion

end Ledger

end GrpcLite
