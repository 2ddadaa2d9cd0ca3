import GrpcLite.Protocol.Invariant

/-!
# Streams and their calls

Every stream of a session agrees with the call whose request it sends: while the
call has not given up its connection the call is live and points there, afterwards
the stream is closed or reset or the connection is dead. A registration names the
request source, and the source has been given exactly the bytes of the stream.
-/

namespace GrpcLite

namespace Ledger

/-- An entry of a session of a connection agrees with the call of its request. -/
structure EntryOk (n : Nat) (k : ConnId) (dead : Bool) (v : CallView) (e : StreamEntry) : Prop where
  /-- The source is a known call. -/
  known : e.source < n
  /-- The source has the stream. -/
  id : 0 < e.streamId ∧ v.streamId = e.streamId
  /-- A source that has not given up its connection is live and points at this one. -/
  home : v.cleared = false → v.live = true ∧ v.connection = some k
  /-- The request cannot be read after that. -/
  held : v.cleared = false ∨ e.closed = true ∨ e.reset = true ∨ dead = true
  /-- The registered call is the source. -/
  user : dead = false → ∀ c, e.userData = some c → c = e.source ∧ v.registered = true
  /-- The source has been given a prefix of the bytes. -/
  data : v.bytes <+: e.data
  /-- A registered source has been given all bytes. -/
  current : dead = false → ∀ c, e.userData = some c → v.bytes = e.data

/-- The streams of all connections agree with their calls. -/
structure Wired (l : Ledger) : Prop where
  /-- Stream identifiers are distinct. -/
  ids : ∀ k, ((l.conns k).streams.map StreamEntry.streamId).Nodup
  /-- Every entry agrees with its call. -/
  entry : ∀ k, ∀ e ∈ (l.conns k).streams,
    EntryOk l.nextCall k (l.conns k).dead (l.calls e.source) e

namespace EntryOk

variable {n k : Nat} {dead dead' : Bool} {v : CallView} {e e' : StreamEntry}

/-- An entry whose change is a permitted one. -/
theorem keep (h : EntryOk n k dead v e) (hk : EntryKeeps e e')
    (hdead : dead = true → dead' = true) : EntryOk n k dead' v e' := by
  have halive : dead' = false → dead = false := by
    intro hd
    by_contra hne
    rw [hdead (Bool.not_eq_false dead ▸ hne)] at hd
    exact Bool.false_ne_true hd.symm
  refine ⟨hk.source ▸ h.known, hk.streamId ▸ h.id, h.home, ?_, ?_, hk.data ▸ h.data, ?_⟩
  · exact h.held.imp_right (Or.imp hk.closed (Or.imp hk.reset hdead))
  · intro hd c hc
    rw [hk.source]
    exact h.user (halive hd) c (hk.userData c hc)
  · intro hd c hc
    rw [hk.data]
    exact h.current (halive hd) c (hk.userData c hc)

/-- Later calls do not disturb an entry. -/
theorem known_mono (h : EntryOk n k dead v e) {m : Nat} (hm : n ≤ m) : EntryOk m k dead v e :=
  ⟨Nat.lt_of_lt_of_le h.known hm, h.id, h.home, h.held, h.user, h.data, h.current⟩

end EntryOk

theorem EntryKeeps.refl (e : StreamEntry) : EntryKeeps e e :=
  ⟨rfl, rfl, rfl, id, id, fun _ h => h⟩

theorem EntryKeeps.forget (e : StreamEntry) : EntryKeeps e { e with userData := none } :=
  ⟨rfl, rfl, rfl, id, id, fun _ h => nomatch h⟩

theorem EntryKeeps.close (e : StreamEntry) : EntryKeeps e { e with closed := true } :=
  ⟨rfl, rfl, rfl, fun _ => rfl, id, fun _ h => h⟩

theorem EntryKeeps.acceptReset (e : StreamEntry) : EntryKeeps e { e with reset := true } :=
  ⟨rfl, rfl, rfl, id, fun _ => rfl, fun _ h => h⟩

/-- A change of one stream's entry keeps all entries when it keeps that one. -/
theorem EntryKeeps.modify {streamId : Int} {f : StreamEntry → StreamEntry}
    (hf : ∀ e, EntryKeeps e (f e)) (e : StreamEntry) :
    EntryKeeps e (if e.streamId = streamId then f e else e) := by
  split
  · exact hf e
  · exact EntryKeeps.refl e

/-- In a list with distinct identifiers the open entry of a stream decides the lookup. -/
theorem userData_of_mem {streams : List StreamEntry}
    (hids : (streams.map StreamEntry.streamId).Nodup) {e : StreamEntry} (he : e ∈ streams)
    (hopen : e.closed = false) : Streams.userData e.streamId streams = e.userData := by
  have hfind : (streams.find? fun entry => entry.streamId = e.streamId && !entry.closed) =
      some e := by
    rw [List.find?_eq_some_iff_append]
    obtain ⟨as, bs, rfl⟩ := List.append_of_mem he
    refine ⟨by simp [hopen], as, bs, rfl, fun a ha => ?_⟩
    rw [List.map_append, List.map_cons, List.nodup_append] at hids
    have hne : a.streamId ≠ e.streamId :=
      hids.2.2 _ (List.mem_map_of_mem ha) _ List.mem_cons_self
    simp [hne]
  simp only [Streams.userData, hfind]

/-- User data belongs to an open entry. -/
theorem mem_of_userData {streams : List StreamEntry} {streamId : Int} {c : CallId}
    (h : Streams.userData streamId streams = some c) :
    ∃ e ∈ streams, e.streamId = streamId ∧ e.closed = false ∧ e.userData = some c := by
  unfold Streams.userData at h
  split at h
  · next entry hfind =>
    have hp := List.find?_some hfind
    simp only [Bool.and_eq_true, decide_eq_true_eq, Bool.not_eq_true'] at hp
    exact ⟨entry, List.mem_of_find?_eq_some hfind, hp.1, hp.2, h⟩
  · exact absurd h (by simp)

/-- Streams have entries of their own. -/
theorem eq_of_streamId {streams : List StreamEntry}
    (hids : (streams.map StreamEntry.streamId).Nodup) {e e' : StreamEntry} (he : e ∈ streams)
    (he' : e' ∈ streams) (h : e.streamId = e'.streamId) : e = e' :=
  List.inj_on_of_nodup_map hids he he' h

/-- The entries behind an arrival of bytes: untouched, or open entries of the stream. -/
theorem mem_append {l : Ledger} {k k' : ConnId} {streamId : Int} {bytes : Bytes}
    {e' : StreamEntry}
    (h : e' ∈ ((l.setConn k fun v =>
      { v with streams := Streams.append streamId bytes v.streams }).conns k').streams) :
    ∃ e ∈ (l.conns k').streams,
      (e' = e ∧ (k' = k → ¬(e.streamId = streamId ∧ e.closed = false))) ∨
      (k' = k ∧ (e.streamId = streamId ∧ e.closed = false) ∧
        e' = { e with data := e.data ++ bytes }) := by
  rw [setConn_conns] at h
  split at h
  · next hk =>
    subst hk
    obtain ⟨e, he, rfl⟩ := List.mem_map.mp h
    refine ⟨e, he, ?_⟩
    unfold StreamEntry.receive
    split
    · next hcond => exact .inr ⟨rfl, hcond, rfl⟩
    · next hcond => exact .inl ⟨rfl, fun _ => hcond⟩
  · next hk => exact ⟨e', h, .inl ⟨rfl, fun hkk => absurd hkk hk⟩⟩

theorem append_dead (l : Ledger) (k k' : ConnId) (streamId : Int) (bytes : Bytes) :
    ((l.setConn k fun v =>
      { v with streams := Streams.append streamId bytes v.streams }).conns k').dead =
        (l.conns k').dead := by
  rw [setConn_conns]
  split
  · next hk => rw [hk]
  · rfl

theorem append_streamIds (l : Ledger) (k k' : ConnId) (streamId : Int) (bytes : Bytes) :
    ((l.setConn k fun v =>
      { v with streams := Streams.append streamId bytes v.streams }).conns k').streams.map
        StreamEntry.streamId = (l.conns k').streams.map StreamEntry.streamId := by
  rw [setConn_conns]
  split
  · next hk =>
    rw [hk]
    simp only [Streams.append, List.map_map]
    refine List.map_congr_left fun e _ => ?_
    simp only [Function.comp_apply, StreamEntry.receive]
    split <;> rfl
  · rfl

namespace Wired

variable {l l' : Ledger}

/-- Changes that keep the streams of every connection entry by entry. -/
theorem congr (h : Wired l) (hnext : l.nextCall ≤ l'.nextCall)
    (hcalls : ∀ c < l.nextCall, l'.calls c = l.calls c)
    (hconns : ∀ k, (∃ f, (∀ e, EntryKeeps e (f e)) ∧
        (l'.conns k).streams = (l.conns k).streams.map f) ∧
      ((l.conns k).dead = true → (l'.conns k).dead = true)) : Wired l' := by
  constructor
  · intro k
    obtain ⟨⟨f, hf, hs⟩, -⟩ := hconns k
    rw [hs, List.map_map]
    have : (StreamEntry.streamId ∘ f) = StreamEntry.streamId := by
      funext e
      exact (hf e).streamId
    rw [this]
    exact h.ids k
  · intro k e' he'
    obtain ⟨⟨f, hf, hs⟩, hdead⟩ := hconns k
    rw [hs] at he'
    obtain ⟨e, he, rfl⟩ := List.mem_map.mp he'
    have hok := h.entry k e he
    rw [(hf e).source, hcalls e.source hok.known]
    exact (hok.keep (hf e) hdead).known_mono hnext

/-- A change of one connection that keeps its streams. -/
theorem setConn (h : Wired l) (k : ConnId) {g : ConnView → ConnView}
    (f : StreamEntry → StreamEntry) (hf : ∀ e, EntryKeeps e (f e))
    (hs : (g (l.conns k)).streams = (l.conns k).streams.map f)
    (hdead : (l.conns k).dead = true → (g (l.conns k)).dead = true) : Wired (l.setConn k g) := by
  refine h.congr le_rfl (fun _ _ => rfl) fun k' => ?_
  rw [setConn_conns]
  split
  · next hk =>
    rw [hk]
    exact ⟨⟨f, hf, hs⟩, hdead⟩
  · exact ⟨⟨id, EntryKeeps.refl, (List.map_id _).symm⟩, id⟩

/-- A change of one connection that leaves its streams alone. -/
theorem setConn_same (h : Wired l) (k : ConnId) {g : ConnView → ConnView}
    (hs : (g (l.conns k)).streams = (l.conns k).streams)
    (hdead : (l.conns k).dead = true → (g (l.conns k)).dead = true) : Wired (l.setConn k g) :=
  h.setConn k id EntryKeeps.refl (by rw [hs, List.map_id]) hdead

/-- Changes outside the streams and the calls. -/
theorem of_eq (h : Wired l) (hnext : l'.nextCall = l.nextCall) (hcalls : l'.calls = l.calls)
    (hconns : l'.conns = l.conns) : Wired l' := by
  refine h.congr (le_of_eq hnext.symm) (fun _ _ => by rw [hcalls]) fun k => ?_
  rw [hconns]
  exact ⟨⟨id, EntryKeeps.refl, (List.map_id _).symm⟩, id⟩

/-- A change of one call, judged by the entries that send its request. -/
theorem setCall (h : Wired l) (c : CallId) {f : CallView → CallView}
    (hf : ∀ k, ∀ e ∈ (l.conns k).streams, e.source = c →
      EntryOk l.nextCall k (l.conns k).dead (f (l.calls c)) e) : Wired (l.setCall c f) := by
  refine ⟨h.ids, fun k e he => ?_⟩
  rw [setCall_calls]
  split
  · next hc => exact hf k e he hc
  · exact h.entry k e he

/-- Bytes for a stream without a call. -/
theorem receive (h : Wired l) {k : ConnId} {streamId : Int} (bytes : Bytes)
    (hnone : Streams.userData streamId (l.conns k).streams = none) :
    Wired (l.setConn k fun v => { v with streams := Streams.append streamId bytes v.streams }) := by
  refine ⟨fun k' => ?_, fun k' e' he' => ?_⟩
  · rw [append_streamIds]
    exact h.ids k'
  rw [append_dead]
  obtain ⟨e, he, hcase⟩ := mem_append he'
  rcases hcase with ⟨rfl, -⟩ | ⟨rfl, ⟨hid, hopen⟩, rfl⟩
  · exact h.entry k' e' he
  · have hok := h.entry k' e he
    have huser : e.userData = none := by
      rw [← userData_of_mem (h.ids k') he hopen, hid, hnone]
    refine ⟨hok.known, hok.id, hok.home, hok.held, hok.user, ?_, ?_⟩
    · exact hok.data.trans (List.prefix_append _ _)
    · intro _ c hc
      exact absurd (huser.symm.trans hc) (by simp)

/-- Bytes for a stream go to the call of its user data. -/
theorem deliver (h : Wired l) (hcount : Counted l) {k : ConnId} {streamId : Int} {c : CallId}
    (bytes : Bytes) (hdead : (l.conns k).dead = false)
    (huser : Streams.userData streamId (l.conns k).streams = some c) :
    Wired ((l.setConn k fun v =>
      { v with streams := Streams.append streamId bytes v.streams }).setCall c fun v =>
        { v with bytes := v.bytes ++ bytes }) := by
  obtain ⟨e₀, he₀, hid₀, hopen₀, hdata₀⟩ := mem_of_userData huser
  have hok₀ := h.entry k e₀ he₀
  obtain ⟨hsource₀, hreg⟩ := hok₀.user hdead c hdata₀
  have hcleared : (l.calls c).cleared = false :=
    (hcount.owned c (hcount.registered c (hsource₀ ▸ hreg)).1).2.2
  -- The only entry that sends the request of the call is the open one of the stream.
  have honly : ∀ k', ∀ e ∈ (l.conns k').streams, e.source = c → k' = k ∧ e = e₀ := by
    intro k' e he hsource
    have hok := h.entry k' e he
    have hk : k' = k := by
      have h₁ := (hok.home (hsource ▸ hcleared)).2
      have h₂ := (hok₀.home (hsource₀ ▸ hcleared)).2
      rw [hsource] at h₁
      rw [← hsource₀] at h₂
      exact Option.some.inj (h₁.symm.trans h₂)
    subst hk
    refine ⟨rfl, eq_of_streamId (h.ids k') he he₀ ?_⟩
    rw [← hok.id.2, ← hok₀.id.2, hsource, hsource₀]
  refine ⟨fun k' => ?_, fun k' e' he' => ?_⟩
  · rw [setCall_conns, append_streamIds]
    exact h.ids k'
  rw [setCall_conns, append_dead, setCall_calls, setConn_calls]
  obtain ⟨e, he, hcase⟩ := mem_append he'
  have hok := h.entry k' e he
  rcases hcase with ⟨rfl, hother⟩ | ⟨rfl, ⟨hid, hopen⟩, rfl⟩
  · rw [if_neg]
    · exact hok
    · intro hsource
      obtain ⟨hk, rfl⟩ := honly k' e' he hsource
      exact hother hk ⟨hid₀, hopen₀⟩
  · have hsame : e = e₀ := eq_of_streamId (h.ids k') he he₀ (hid.trans hid₀.symm)
    subst hsame
    have hbytes := hok.current hdead c hdata₀
    rw [if_pos hsource₀.symm]
    rw [← hsource₀] at hok hbytes
    refine ⟨hok.known, hok.id, hok.home, hok.held, hok.user, ?_, ?_⟩
    · rw [hbytes]
    · intro _ _ _
      rw [hbytes]

/-- A registered call has one entry, on the connection it points at. -/
theorem unregister (h : Wired l) {k : ConnId} {c : CallId} (hcleared : (l.calls c).cleared = false)
    (hconn : (l.calls c).connection = some k) :
    Wired ((l.setConn k fun v => { v with
      active := v.active.erase c
      activeCount := v.activeCount - 1
      streams := if v.dead then v.streams else
        Streams.modify (l.calls c).streamId (fun e => { e with userData := none })
          v.streams }).setCall c fun v => { v with registered := false }) := by
  have hkeep : ∀ e, EntryKeeps e (if (l.conns k).dead then e else
      if e.streamId = (l.calls c).streamId then { e with userData := none } else e) := by
    intro e
    split
    · exact EntryKeeps.refl e
    · exact EntryKeeps.modify EntryKeeps.forget e
  have h' := h.setConn k (g := fun v => { v with
      active := v.active.erase c
      activeCount := v.activeCount - 1
      streams := if v.dead then v.streams else
        Streams.modify (l.calls c).streamId (fun e => { e with userData := none }) v.streams })
    _ hkeep ?_ id
  · refine h'.setCall c fun k' e he hsource => ?_
    have hok := h'.entry k' e he
    rw [hsource, setConn_calls] at hok
    have hk : k' = k := Option.some.inj ((hok.home hcleared).2.symm.trans hconn)
    refine ⟨hok.known, hok.id, hok.home, hok.held, ?_, hok.data, hok.current⟩
    -- A live session has forgotten the registration of the stream.
    intro hdead c' hc'
    rw [hk, setConn_conns, if_pos rfl] at he hdead
    simp only at hdead
    simp only [hdead, Bool.false_eq_true, ite_false, Streams.modify] at he
    obtain ⟨e₁, -, rfl⟩ := List.mem_map.mp he
    have hid := hok.id.2
    split at hc'
    · exact absurd hc' (by simp)
    · next hne =>
      rw [if_neg hne] at hid
      exact absurd hid.symm hne
  · simp only [Streams.modify]
    split
    · simp only [List.map_id']
    · rfl

/-- A change of a session keeps the wiring. -/
theorem drive {k : ConnId} (h : Wired l) (hcount : Counted l) (hs : Drive k l l') : Wired l' := by
  cases hs with
  | log | source => exact h.of_eq rfl rfl rfl
  | die => exact h.setConn_same k rfl fun _ => rfl
  | drain => exact h.setConn_same k rfl id
  | streams f hf => exact h.setConn k f hf rfl id
  | receive streamId bytes hnone => exact h.receive bytes hnone
  | deliver streamId c bytes hdead huser => exact h.deliver hcount bytes hdead huser
  | close c hreg hconn =>
    refine h.setCall c fun k' e he hsource => ?_
    have hok := h.entry k' e he
    rw [hsource] at hok
    exact ⟨hok.known, hok.id, hok.home, hok.held, hok.user, hok.data, hok.current⟩
  | unregister c hreg hconn =>
    exact h.unregister (hcount.owned c (hcount.registered c hreg).1).2.2 hconn

/-- A call without a stream sends no request. -/
theorem no_source (h : Wired l) {c : CallId} (hold : (l.calls c).streamId ≤ 0) (k : ConnId)
    (e : StreamEntry) (he : e ∈ (l.conns k).streams) : e.source ≠ c := by
  intro hsource
  obtain ⟨hpos, hid⟩ := (h.entry k e he).id
  rw [hsource] at hid
  omega

/-- A submitted stream is wired to its call. -/
theorem submit (h : Wired l) {k : ConnId} {c : CallId} {streamId : Int} (hc : c < l.nextCall)
    (hlive : (l.calls c).live = true) (hconn : (l.calls c).connection = some k)
    (hcleared : (l.calls c).cleared = false) (hold : (l.calls c).streamId ≤ 0)
    (hbytes : (l.calls c).bytes = []) (hpos : 0 < streamId)
    (hnew : ∀ e ∈ (l.conns k).streams, e.streamId < streamId) :
    Wired ((l.setCall c fun v => { v with streamId := streamId }).setConn k fun v =>
      { v with streams := v.streams ++ [{ streamId := streamId, source := c }] }) := by
  constructor
  · intro k'
    rw [setConn_conns]
    split
    · simp only [List.map_append, List.map_singleton]
      refine List.Nodup.append (h.ids k) (List.nodup_singleton _) ?_
      intro i hi hi'
      obtain ⟨e, he, rfl⟩ := List.mem_map.mp hi
      exact absurd (List.mem_singleton.mp hi') (ne_of_lt (hnew e he))
    · exact h.ids k'
  · intro k' e he
    have hdead : (((l.setCall c fun v => { v with streamId := streamId }).setConn k fun v =>
        { v with streams := v.streams ++ [{ streamId := streamId, source := c }] }).conns k').dead =
          (l.conns k').dead := by
      rw [setConn_conns]
      split
      · next hk => rw [hk, setCall_conns]
      · rfl
    rw [hdead, setConn_calls, setCall_calls]
    have hold' : ∀ e ∈ (l.conns k').streams, EntryOk l.nextCall k' (l.conns k').dead
        (if e.source = c then { l.calls c with streamId := streamId } else l.calls e.source) e := by
      intro e he
      rw [if_neg (h.no_source hold k' e he)]
      exact h.entry k' e he
    rw [setConn_conns] at he
    split at he
    · next hk =>
      rcases List.mem_append.mp he with he | he
      · exact hold' e (hk ▸ he)
      · rw [List.mem_singleton.mp he, if_pos rfl]
        refine ⟨hc, ⟨hpos, rfl⟩, fun _ => ⟨hlive, hk ▸ hconn⟩, .inl hcleared, ?_, ?_, ?_⟩
        · exact fun _ c' hc' => absurd hc' (by simp)
        · rw [hbytes]
        · exact fun _ c' hc' => absurd hc' (by simp)
    · exact hold' e he

/-- A registered stream is wired to its call. -/
theorem register (h : Wired l) {k : ConnId} {c : CallId} (f : ConnView → ConnView)
    (hf : (f (l.conns k)).dead = (l.conns k).dead ∧ (f (l.conns k)).streams =
      Streams.modify (l.calls c).streamId (fun e => { e with userData := some c })
        (l.conns k).streams)
    (hown : ∀ e ∈ (l.conns k).streams, e.streamId = (l.calls c).streamId →
      e.source = c ∧ e.data = (l.calls c).bytes) :
    Wired ((l.setConn k f).setCall c fun v => { v with registered := true, owned := true }) := by
  constructor
  · intro k'
    rw [setCall_conns, setConn_conns]
    split
    · rw [hf.2, Streams.modify, List.map_map]
      have : (StreamEntry.streamId ∘ fun entry : StreamEntry =>
          if entry.streamId = (l.calls c).streamId then { entry with userData := some c }
          else entry) = StreamEntry.streamId := by
        funext e
        simp only [Function.comp_apply]
        split <;> rfl
      rw [this]
      exact h.ids k
    · exact h.ids k'
  · intro k' e' he'
    have hdead : (((l.setConn k f).setCall c fun v =>
        { v with registered := true, owned := true }).conns k').dead = (l.conns k').dead := by
      rw [setCall_conns, setConn_conns]
      split
      · next hk => rw [hk, hf.1]
      · rfl
    rw [hdead, setCall_calls, setConn_calls]
    -- The flags of the call play no role for an entry that existed before.
    have hold : ∀ e ∈ (l.conns k').streams, EntryOk l.nextCall k' (l.conns k').dead
        (if e.source = c then { l.calls c with registered := true, owned := true }
          else l.calls e.source) e := by
      intro e he
      have hok := h.entry k' e he
      split
      · next hs =>
        rw [hs] at hok
        exact ⟨hok.known, hok.id, hok.home, hok.held,
          fun hd c' hc' => ⟨(hok.user hd c' hc').1, rfl⟩, hok.data, hok.current⟩
      · exact hok
    rw [setCall_conns, setConn_conns] at he'
    split at he'
    · next hk =>
      rw [hf.2] at he'
      obtain ⟨e, he, rfl⟩ := List.mem_map.mp he'
      have hok := hold e (hk ▸ he)
      split
      · next hid =>
        obtain ⟨hsource, hdata⟩ := hown e he hid
        rw [if_pos hsource] at hok ⊢
        refine ⟨hok.known, hok.id, hok.home, hok.held, ?_, hok.data, ?_⟩
        · intro _ c' hc'
          exact ⟨(Option.some.inj hc').symm.trans hsource.symm, rfl⟩
        · intro _ _ _
          exact hdata.symm
      · exact hok
    · exact hold e' he'

/-- So does any step. -/
theorem step (h : Wired l) (hcount : Counted l) (hs : Step l l') : Wired l' := by
  cases hs with
  | drive k hd => exact h.drive hcount hd
  | newConn =>
    have hconns k : Function.update l.conns l.nextConn {} k =
        if k = l.nextConn then {} else l.conns k := Function.update_apply ..
    refine ⟨fun k => ?_, fun k e he => ?_⟩
    · simp only [hconns]
      split
      · exact List.nodup_nil
      · exact h.ids k
    · simp only [hconns] at he ⊢
      split at he
      · exact absurd he List.not_mem_nil
      · next hk =>
        rw [if_neg hk]
        exact h.entry k e he
  | newCall k hk =>
    refine h.congr (Nat.le_succ _) (fun c hc => ?_) fun k' => ?_
    · exact Function.update_of_ne (Nat.ne_of_lt hc) _ _
    · exact ⟨⟨id, EntryKeeps.refl, (List.map_id _).symm⟩, id⟩
  | submit k c streamId hc hlive hcleared hconn howned hold hbytes hpos hnew =>
    exact h.submit hc hlive hconn hcleared hold hbytes hpos hnew
  | submitFailed c rv hold hreg hneg =>
    exact h.setCall c fun k e he hsource => absurd hsource (h.no_source hold k e he)
  | register k c hc hlive hcleared hconn howned hpos hdes hown =>
    exact h.register _ ⟨rfl, rfl⟩ hown
  | clearOwner k c forget hconn hreg hdet =>
    have h' : Wired (l.setConn k fun v => { v with
        ownerCount := if (l.calls c).owned then v.ownerCount - 1 else v.ownerCount }) :=
      h.setConn_same k rfl id
    refine h'.setCall c fun k' e he hsource => ?_
    have hok := h'.entry k' e he
    rw [hsource, setConn_calls] at hok
    rw [setConn_calls]
    have he₀ : e ∈ (l.conns k').streams := by
      rw [setConn_conns] at he
      split at he
      · next hk => exact hk ▸ he
      · exact he
    refine ⟨hok.known, hok.id, fun hcl => absurd hcl (by simp), .inr ?_, ?_, hok.data, hok.current⟩
    · refine (hdet k' e he₀ hsource).imp_right (Or.imp_right fun hd => ?_)
      rw [setConn_conns]
      split
      · next hk => exact hk ▸ hd
      · exact hd
    · intro hd c' hc'
      exact absurd (hreg.symm.trans (hok.user hd c' hc').2) Bool.false_ne_true
  | release c howned hdet hcleared =>
    have h' : Wired { l with releases := l.releases ++ [⟨c, true⟩] } := h.of_eq rfl rfl rfl
    refine h'.setCall c fun k' e he hsource => ?_
    have hok := h.entry k' e he
    rw [hsource] at hok
    refine ⟨hok.known, hok.id, fun hcl => ?_, hok.held, hok.user, hok.data, hok.current⟩
    exact absurd ((hcleared k' e he hsource).symm.trans hcl) (by simp)
  | uncache | cache => exact h.of_eq rfl rfl rfl
  | markDetached k hcache => exact h.setConn_same k rfl id
  | destroy k hcache hown hdes =>
    have h' : Wired { l with destroys := l.destroys ++ [⟨k, 0, false, 0⟩] } := h.of_eq rfl rfl rfl
    exact h'.setConn_same k rfl id

end Wired

end Ledger

end GrpcLite
