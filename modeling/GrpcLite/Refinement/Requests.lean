import GrpcLite.Refinement.Persistent

/-!
# The start of a call

A driver creates its call for a stored connection, submits the request and
registers for callbacks. Each of these is a step of the transport state, and the
state stays in order apart from the call and its connection.
-/

namespace GrpcLite

namespace World

/-- A call that has not submitted its request. -/
structure Fresh (w : World) (c : CallId) (k : ConnId) : Prop where
  /-- It was created. -/
  created : c < w.nextCall
  /-- Its object exists. -/
  live : (w.calls c).live = true
  /-- It points at the connection. -/
  attached : w.Attached c k
  /-- It is not an owner. -/
  owned : (w.calls c).call.connectionOwned = false
  /-- It is not registered. -/
  registered : (w.calls c).call.streamRegistered = false
  /-- It has no stream. -/
  streamId : (w.calls c).call.streamId ≤ 0
  /-- It knows of no closed stream. -/
  closed : (w.calls c).call.streamClosed = false
  /-- It has not been given any bytes. -/
  bytes : (w.calls c).bytes = []
  /-- It has not ended. -/
  completed : (w.calls c).completed = false
  /-- The user has not given it up. -/
  cancelled : (w.calls c).cancelled = false

/-- A call whose request is submitted and that waits for its registration. -/
structure Submitted (w : World) (c : CallId) (k : ConnId) : Prop where
  /-- It was created. -/
  created : c < w.nextCall
  /-- Its object exists. -/
  live : (w.calls c).live = true
  /-- It points at the connection. -/
  attached : w.Attached c k
  /-- It is not an owner. -/
  owned : (w.calls c).call.connectionOwned = false
  /-- It has a stream. -/
  streamId : 0 < (w.calls c).call.streamId
  /-- The user has not given it up. -/
  cancelled : (w.calls c).cancelled = false
  /-- The stream is its own. -/
  stream : ∀ e ∈ (w.conns k).streams, e.streamId = (w.calls c).call.streamId →
    e.source = c ∧ e.data = (w.calls c).bytes

/-- A registered call. -/
structure Engaged (w : World) (c : CallId) (k : ConnId) : Prop where
  /-- Its object exists. -/
  live : (w.calls c).live = true
  /-- It points at the connection. -/
  attached : w.Attached c k
  /-- It is an owner. -/
  owned : (w.calls c).call.connectionOwned = true
  /-- It has a stream. -/
  streamId : 0 < (w.calls c).call.streamId
  /-- The connection exists. -/
  destroyed : (w.conns k).destroyed = 0

theorem Engaged.drives {w w' : World} {c : CallId} {k : ConnId} (h : w.Engaged c k)
    (hd : Drives k w w') : w'.Engaged c k := by
  obtain ⟨hlive, -, hid, howned, -⟩ := Proc.Drives.place hd c
  exact ⟨hlive.trans h.live, h.attached.drives hd, howned.trans h.owned, lt_of_lt_of_eq h.streamId hid.symm,
    hd.destroyed.trans h.destroyed⟩

theorem Fresh.same {w w' : World} {c : CallId} {k : ConnId} (h : w.Fresh c k)
    (hcalls : w'.calls = w.calls) (hnext : w'.nextCall = w.nextCall) : w'.Fresh c k := by
  refine ⟨hnext ▸ h.created, ?_, h.attached.same (.of_calls (by rw [hcalls])), ?_, ?_, ?_, ?_, ?_, ?_,
    ?_⟩
  · exact hcalls ▸ h.live
  · exact hcalls ▸ h.owned
  · exact hcalls ▸ h.registered
  · exact hcalls ▸ h.streamId
  · exact hcalls ▸ h.closed
  · exact hcalls ▸ h.bytes
  · exact hcalls ▸ h.completed
  · exact hcalls ▸ h.cancelled

theorem Submitted.same {w w' : World} {c : CallId} {k : ConnId} (h : w.Submitted c k)
    (hcalls : w'.calls = w.calls) (hnext : w'.nextCall = w.nextCall)
    (hstreams : (w'.conns k).streams = (w.conns k).streams) : w'.Submitted c k := by
  refine ⟨hnext ▸ h.created, ?_, h.attached.same (.of_calls (by rw [hcalls])), ?_, ?_, ?_, ?_⟩
  · exact hcalls ▸ h.live
  · exact hcalls ▸ h.owned
  · exact hcalls ▸ h.streamId
  · exact hcalls ▸ h.cancelled
  · rw [hstreams, hcalls]
    exact h.stream

/-- A change of a call and its connection. -/
theorem Around.alter {k : ConnId} {c : CallId} {w w' : World} (h : w.Around (· = k) (· = c))
    (hsteps : Steps w w') (hsettled : Ledger.Settled w'.ledger) (hcalm : w'.Calm)
    (hnext : w'.nextConn = w.nextConn) (hconns : ∀ k', k' ≠ k → w'.conns k' = w.conns k')
    (hcache : w'.cache = w.cache) (hcalls : ∀ c', c' ≠ c → w'.calls c' = w.calls c') :
    w'.Around (· = k) (· = c) := by
  have hcached (k' : ConnId) : w'.ledger.Cached k' ↔ w.ledger.Cached k' := by
    rw [cached_iff, cached_iff, hcache]
  refine ⟨h.sound.steps hsteps, hsettled, hcalm, ?_, ?_, ?_, hcache ▸ h.room, ?_⟩
  · intro k' hk' hne
    unfold Kept
    rw [hconns k' hne, hcached]
    exact h.kept k' (hnext ▸ hk') hne
  · intro k' hne
    unfold Fit
    rw [hconns k' hne, hcached]
    exact h.fit k' hne
  · intro k' hne
    unfold Idle
    rw [hconns k' hne]
    exact h.idle k' hne
  · intro c' hne hlive
    rw [hcalls c' hne] at hlive
    exact (h.seated c' hne hlive).same (.of_calls (hcalls c' hne))

end World

namespace Proc

open World

theorem GrpcCall.Started.fields {start : GrpcCall} {k : ConnId} (h : start.Started k) :
    start.connection = some k ∧ start.streamId = 0 ∧ start.streamRegistered = false ∧
      start.connectionOwned = false ∧ start.streamClosed = false := by
  obtain ⟨req, retryAttempt, rfl | rfl⟩ := h
  · exact ⟨rfl, rfl, rfl, rfl, rfl⟩
  · exact ⟨rfl, rfl, rfl, rfl, rfl⟩

/-- A driver creates its call. -/
theorem newCall_fresh {start : GrpcCall} {k : ConnId} {c : CallId} {w w' : World}
    (h : newCall start w = some (c, w')) (ho : w.Orderly) (hk : k < w.nextConn)
    (hstart : start.Started k) :
    Steps w w' ∧ w'.Around (· = k) (· = c) ∧ w'.Fresh c k ∧ w'.conns = w.conns ∧
      w'.cache = w.cache ∧ (∀ w'', Proceeds w' w'' → w.Creates k w'') ∧
      (w'.calls c).call = start := by
  rw [newCall, Exec.get_bind_run] at h
  obtain ⟨_, w₁, hset, h⟩ := Exec.bind_some.mp h
  obtain ⟨rfl, rfl⟩ := Exec.pure_some.mp h
  have hw := Exec.set_some.mp hset
  have hcalls : w₁.calls = Function.update w.calls w.nextCall
      { call := start, start := start, live := true } := by rw [hw]
  have hconns : w₁.conns = w.conns := by rw [hw]
  have hcache : w₁.cache = w.cache := by rw [hw]
  have hsteps : Steps w w₁ := by
    rw [hw]
    exact .single (.newCall k start hk hstart)
  have hself : w₁.calls w.nextCall = { call := start, start := start, live := true } := by
    rw [hcalls, Function.update_self]
  have hothers (c' : CallId) (hne : c' ≠ w.nextCall) : w₁.calls c' = w.calls c' := by
    rw [hcalls, Function.update_of_ne hne]
  obtain ⟨hconn, hid, hreg, howned, hclosed⟩ := GrpcCall.Started.fields hstart
  have hfresh : w₁.Fresh w.nextCall k := by
    refine ⟨?_, ?_, ⟨?_, ?_⟩, ?_, ?_, ?_, ?_, ?_, ?_, ?_⟩
    · rw [hw]
      exact Nat.lt_succ_self _
    · rw [hself]
    · rw [hself]
      exact hconn
    · change (w₁.calls w.nextCall).view.cleared = false
      rw [hself]
      rfl
    · rw [hself]
      exact howned
    · rw [hself]
      exact hreg
    · rw [hself]
      exact Int.le_of_eq hid
    · rw [hself]
      exact hclosed
    · rw [hself]
      rfl
    · rw [hself]
    · rw [hself]
  have hcreates (w'' : World) (hw'' : Proceeds w₁ w'') : w.Creates k w'' :=
    .of_newCall (by rw [hw]) (by rw [hself]; exact hconn) hw''
  refine ⟨hsteps, ?_, hfresh, hconns, hcache, hcreates, by rw [hself]⟩
  refine (ho.widen (fun _ => False.elim) fun _ => False.elim).alter hsteps ?_ ?_ ?_
    (fun _ _ => by rw [hconns]) hcache hothers
  · refine settled_congr ho.settled (fun c' hc' => ?_) fun k' => .inr ⟨by rw [hconns], ?_⟩
    · by_cases hne : c' = w.nextCall
      · rw [hne, hself] at hc'
        exact absurd (hclosed.symm.trans hc') Bool.false_ne_true
      · rwa [hothers c' hne] at hc'
    · rw [hconns]
      exact id
  · intro c' hc'
    by_cases hne : c' = w.nextCall
    · rw [hne, hself]
    · rw [hothers c' hne] at hc' ⊢
      exact ho.calm c' hc'
  · rw [hw]

/-- The library takes or refuses a request. -/
theorem submitRequest_around {k : ConnId} {c : CallId} {rv : Int} {w w' : World}
    (h : submitRequest k c w = some (rv, w')) (ha : w.Around (· = k) (· = c))
    (hf : w.Fresh c k) (hr : w.Ready k) :
    Proceeds w w' ∧ w'.Around (· = k) (· = c) ∧ w'.cache = w.cache ∧
      (∃ streams outbound, w'.conns k = { w.conns k with
        streams := streams, outbound := outbound }) ∧
      (rv < 0 → w'.Fresh c k ∧ w'.conns k = w.conns k) ∧ (¬rv < 0 → w'.Submitted c k) := by
  obtain ⟨_, w₁, hlog, h⟩ := Exec.bind_some.mp h
  obtain rfl := Exec.modify_some.mp hlog
  obtain ⟨conn, w₂, hconn, h⟩ := Exec.bind_some.mp h
  rw [Proc.conn, Exec.get_bind_run] at hconn
  obtain ⟨rfl, rfl⟩ := Exec.pure_some.mp hconn
  obtain ⟨rv', w₂, hask, h⟩ := Exec.bind_some.mp h
  have hanswer : rv' < 0 ∨ (0 < rv' ∧ ∀ e ∈ (w.conns k).streams, e.streamId < rv') := by
    obtain ⟨env, hrun, -⟩ := Exec.zoom_some.mp hask
    obtain ⟨answer, rest, -, hsel, -⟩ := Env.ask_some hrun
    cases answer with
    | submitRequest rv₀ =>
      simp only [Option.ite_none_right_eq_some, Option.some.injEq, List.all_eq_true,
        decide_eq_true_eq] at hsel
      obtain ⟨hcases, rfl⟩ := hsel
      exact hcases
    | _ => cases hsel
  obtain ⟨hsession, hconns₂, hcalls₂⟩ := onEnv_session (k := k) (Env.ask_grows _) hask
  have hd := Ledger.Driven.of_drives hsession.drives.ledger
  have hsteps₂ : Proceeds w w₂ :=
    Relation.ReflTransGen.head ⟨.logSubmit k hr.dead hr.destroyed, rfl⟩
      hsession.drives.keeps.proceeds
  have hcache₂ : w₂.cache = w.cache := hd.cache
  have hnext₂ : w₂.nextConn = w.nextConn := hd.nextConn
  have hcreated₂ : w₂.nextCall = w.nextCall := hd.nextCall
  have hconns₂ : w₂.conns = w.conns := hconns₂
  have hcalls₂ : w₂.calls = w.calls := hcalls₂
  obtain ⟨_, w₃, hin, h⟩ := Exec.bind_some.mp h
  have hw₃ := Exec.modify_some.mp hin
  obtain ⟨_, w₄, hwhen, h⟩ := Exec.bind_some.mp h
  obtain ⟨rfl, rfl⟩ := Exec.pure_some.mp h
  have hcalls₃ : w₃.calls = Function.update w.calls c ((w.calls c).input (.submitted rv')) := by
    rw [hw₃, ← hcalls₂]
    rfl
  have hself : w₃.calls c = (w.calls c).input (.submitted rv') := by
    rw [hcalls₃, Function.update_self]
  have hothers (c' : CallId) (hne : c' ≠ c) : w₃.calls c' = w.calls c' := by
    rw [hcalls₃, Function.update_of_ne hne]
  have hsame₃ : w₃.conns = w.conns ∧ w₃.cache = w.cache ∧ w₃.nextConn = w.nextConn ∧
      w₃.nextCall = w.nextCall := by
    rw [hw₃]
    exact ⟨hconns₂, hcache₂, hnext₂, hcreated₂⟩
  obtain ⟨hconns₃, hcache₃, hnext₃, hcreated₃⟩ := hsame₃
  have hclosed₃ (c' : CallId) (hc' : (w₃.calls c').call.streamClosed = true) : c' ≠ c ∧
      (w.calls c').call.streamClosed = true := by
    by_cases hne : c' = c
    · rw [hne, hself] at hc'
      exact absurd (hf.closed.symm.trans hc') Bool.false_ne_true
    · exact ⟨hne, hothers c' hne ▸ hc'⟩
  have hcalm₃ : w₃.Calm := fun c' => (ha.calm c').update hcalls₃ rfl id
  have hcleared : (((w.calls c).input (.submitted rv')).view).cleared = false := by
    rw [view_submitted]
    exact hf.attached.cleared
  have hbytes : ((w.calls c).input (.submitted rv')).bytes = [] := by
    rw [TrackedCall.bytes_input, hf.bytes]
    rfl
  obtain ⟨hpos, hset⟩ | ⟨hnot, rfl⟩ := Exec.when_some.mp hwhen
  · have hnew : ∀ e ∈ (w.conns k).streams, e.streamId < rv' :=
      (hanswer.resolve_left fun hneg => absurd hpos (by omega)).2
    obtain ⟨_, w₄, hset, hqueue⟩ := Exec.bind_some.mp hset
    have hw₄ := Exec.modify_some.mp hset
    have hsteps : Proceeds w w₄ := by
      rw [hw₄, hw₃]
      refine hsteps₂.tail ⟨.submit k c rv' ?_ ?_ ?_ ?_ ?_ ?_ ?_ ?_ hpos ?_, rfl⟩
      · exact hcreated₂ ▸ hf.created
      · exact hcalls₂ ▸ hf.live
      · exact (congrArg CallView.cleared (congrArg TrackedCall.view (congrFun hcalls₂ c))).trans
          hf.attached.cleared
      · exact hcalls₂ ▸ hf.attached.connection
      · exact hcalls₂ ▸ hf.owned
      · exact hcalls₂ ▸ hf.streamId
      · exact hcalls₂ ▸ hf.bytes
      · exact hcalls₂ ▸ hf.completed
      · exact hconns₂ ▸ hnew
    have hconn₄ : w₄.conns k = { w.conns k with
        streams := (w.conns k).streams ++ [{ streamId := rv', source := c }] } := by
      rw [hw₄, setConn_conns_self, hconns₃]
    have hne₄ (k' : ConnId) (hne : k' ≠ k) : w₄.conns k' = w.conns k' := by
      rw [hw₄, ← hconns₃]
      exact Function.update_of_ne hne ..
    have hrest₄ : w₄.calls = w₃.calls ∧ w₄.cache = w.cache ∧ w₄.nextConn = w.nextConn ∧
        w₄.nextCall = w.nextCall := by
      rw [hw₄]
      exact ⟨rfl, hcache₃, hnext₃, hcreated₃⟩
    obtain ⟨hcalls₄, hcache₄, hnext₄, hcreated₄⟩ := hrest₄
    obtain ⟨hnote, hcalls₅, hconn₅⟩ := noteOutbound_session hqueue
    refine ⟨hsteps.trans hnote.drives.keeps.proceeds,
      Around.turn (w := w₄) (ha.alter hsteps.steps ?_
      (fun c' => (hcalm₃ c').of_calls hcalls₄) hnext₄ hne₄ hcache₄
      (fun c' hne => by rw [hcalls₄, hothers c' hne])) hnote.turn,
      (Ledger.Driven.of_drives hnote.drives.ledger).cache.trans hcache₄,
      ⟨_, _, by rw [hconn₅, hconn₄]⟩, fun hneg => absurd hpos (by omega), fun _ => ?_⟩
    · intro c' hc' k' e he hsource
      have hc'' : (w₃.calls c').call.streamClosed = true := hcalls₄ ▸ hc'
      obtain ⟨hne, hold⟩ := hclosed₃ c' hc''
      have he' : e ∈ (w₄.conns k').streams := he
      change e.closed = true ∨ e.reset = true ∨ (w₄.conns k').dead = true
      by_cases hk : k' = k
      · subst hk
        rw [hconn₄] at he' ⊢
        rcases List.mem_append.mp he' with hin | hin
        · exact ha.settled c' hold k' e hin hsource
        · rw [List.mem_singleton.mp hin] at hsource
          exact absurd hsource.symm hne
      · rw [hne₄ k' hk] at he' ⊢
        exact ha.settled c' hold k' e he' hsource
    · have hd₅ := Ledger.Driven.of_drives hnote.drives.ledger
      refine Submitted.same (w := w₄) ?_ hcalls₅ hd₅.nextCall (by rw [hconn₅])
      refine ⟨hcreated₄ ▸ hf.created, ?_, ⟨?_, ?_⟩, ?_, ?_, ?_, ?_⟩
      · rw [hcalls₄, hself]
        exact hf.live
      · rw [hcalls₄, hself]
        exact hf.attached.connection
      · change (w₄.calls c).view.cleared = false
        rw [hcalls₄, hself]
        exact hcleared
      · rw [hcalls₄, hself]
        exact hf.owned
      · rw [hcalls₄, hself]
        exact hpos
      · rw [hcalls₄, hself]
        exact hf.cancelled
      · intro e he hid
        rw [hcalls₄, hself] at hid ⊢
        rw [hconn₄] at he
        rcases List.mem_append.mp he with hin | hin
        · exact absurd hid (Int.ne_of_lt (hnew e hin))
        · rw [List.mem_singleton.mp hin, hbytes]
          exact ⟨rfl, rfl⟩
  · have hneg : rv' < 0 := hanswer.resolve_right fun hpos => hnot hpos.1
    have hsteps : Proceeds w w₃ := by
      rw [hw₃]
      refine hsteps₂.tail ⟨.submitFailed c rv' ?_ ?_ (Int.le_of_lt hneg), rfl⟩
      · exact hcalls₂ ▸ hf.streamId
      · exact hcalls₂ ▸ hf.registered
    refine ⟨hsteps, ha.alter hsteps.steps ?_ hcalm₃ hnext₃ (fun k' _ => by rw [hconns₃]) hcache₃ hothers,
      hcache₃, ⟨_, _, by rw [hconns₃]⟩, fun _ => ⟨?_, by rw [hconns₃]⟩, fun hnn => absurd hneg hnn⟩
    · refine settled_congr ha.settled (fun c' hc' => (hclosed₃ c' hc').2)
        fun k' => .inr ⟨by rw [hconns₃], ?_⟩
      rw [hconns₃]
      exact id
    · refine ⟨hcreated₃ ▸ hf.created, ?_, ⟨?_, ?_⟩, ?_, ?_, ?_, ?_, ?_, ?_, ?_⟩
      · rw [hself]
        exact hf.live
      · rw [hself]
        exact hf.attached.connection
      · change (w₃.calls c).view.cleared = false
        rw [hself]
        exact hcleared
      · rw [hself]
        exact hf.owned
      · rw [hself]
        exact hf.registered
      · rw [hself]
        exact Int.le_of_lt hneg
      · rw [hself]
        exact hf.closed
      · rw [hself]
        exact hbytes
      · rw [hself]
        exact hf.completed
      · rw [hself]
        exact hf.cancelled

theorem register_conn (w : World) (k : ConnId) (c : CallId) :
    (w.register k c).conns = Function.update w.conns k { w.conns k with
      streams := Streams.modify (w.calls c).call.streamId
        (fun entry => { entry with userData := some c }) (w.conns k).streams
      activeStreams := c :: (w.conns k).activeStreams
      activeStreamCount := (w.conns k).activeStreamCount + 1
      streamOwnerCount := (w.conns k).streamOwnerCount + 1 } := rfl

/-- A registration changes no request. -/
theorem register_settled {w : World} (k : ConnId) (c : CallId) (h : Ledger.Settled w.ledger) :
    Ledger.Settled (w.register k c).ledger := by
  intro c' hc' k' e he hsource
  have hold : (w.calls c').call.streamClosed = true := by
    have hcalls : (w.register k c).calls =
        Function.update w.calls c ((w.calls c).input (.registered k)) := rfl
    have hc'' : ((w.register k c).calls c').call.streamClosed = true := hc'
    rw [hcalls, Function.update_apply] at hc''
    split at hc''
    · next hc => exact hc ▸ hc''
    · exact hc''
  have he' : e ∈ ((w.register k c).conns k').streams := he
  change e.closed = true ∨ e.reset = true ∨ ((w.register k c).conns k').dead = true
  rw [register_conn, Function.update_apply] at he' ⊢
  split at he'
  · next hk =>
    rw [if_pos hk]
    obtain ⟨e₀, he₀, rfl⟩ := List.mem_map.mp he'
    have hdet := h c' hold k e₀ he₀
    split at hsource
    · rw [if_pos ‹_›]
      exact hdet hsource
    · rw [if_neg ‹_›]
      exact hdet hsource
  · next hk =>
    rw [if_neg hk]
    exact h c' hold k' e he' hsource

/-- `register_grpc_call_stream` for a submitted request. -/
theorem registerGrpcCallStream_around {k : ConnId} {c : CallId} {ok : Bool} {w w' : World}
    (h : registerGrpcCallStream k c w = some (ok, w')) (ha : w.Around (· = k) (· = c))
    (hsub : w.Submitted c k) (hr : w.Ready k) :
    Proceeds w w' ∧ w'.Around (· = k) (· = c) ∧ w'.cache = w.cache ∧ w'.Ready k ∧ Steady w w' ∧
      (ok = true → w'.Engaged c k) ∧ (ok = false → w'.Submitted c k) := by
  obtain ⟨call, w₀, hcall, h⟩ := Exec.bind_some.mp h
  rw [Proc.call, Exec.get_bind_run] at hcall
  obtain ⟨rfl, rfl⟩ := Exec.pure_some.mp hcall
  rw [if_neg (by have := hsub.streamId; omega)] at h
  obtain ⟨_, w₁, hlog, h⟩ := Exec.bind_some.mp h
  obtain rfl := Exec.modify_some.mp hlog
  obtain ⟨rv, w₂, hask, h⟩ := Exec.bind_some.mp h
  obtain ⟨henv, hconns₂, hcalls₂⟩ := onEnv_session (k := k) (Env.ask_grows _) hask
  have hsession : Session k w w₂ := Session.trans (.log (by simp) hr) henv
  have hconns₂ : w₂.conns = w.conns := hconns₂
  have hcalls₂ : w₂.calls = w.calls := hcalls₂
  have ha₂ := (ha.move hsession.tidy (.drives hsession.drives) fun c' _ => .of_calls (by rw [hcalls₂]))
  have hd := Ledger.Driven.of_drives hsession.drives.ledger
  have hsub₂ : w₂.Submitted c k := hsub.same hcalls₂ hd.nextCall (by rw [hconns₂])
  have hr₂ : w₂.Ready k := ⟨hconns₂ ▸ hr.dead, hconns₂ ▸ hr.destroyed⟩
  have hsteps₂ : Proceeds w w₂ := hsession.drives.keeps.proceeds
  have hcache₂ : w₂.cache = w.cache := hd.cache
  split at h
  · obtain ⟨rfl, rfl⟩ := Exec.pure_some.mp h
    exact ⟨hsteps₂, ha₂, hcache₂, hr₂, .of_conns hconns₂, (by intro hno; cases hno),
      fun _ => hsub₂⟩
  · obtain ⟨_, w₃, hmap, h⟩ := Exec.bind_some.mp h
    obtain ⟨_, w₄, hin, h⟩ := Exec.bind_some.mp h
    obtain ⟨_, w₅, hset, h⟩ := Exec.bind_some.mp h
    obtain ⟨rfl, rfl⟩ := Exec.pure_some.mp h
    have hw₅ : w₅ = w₂.register k c := by
      rw [Exec.modify_some.mp hset, Exec.modify_some.mp hin, Exec.modify_some.mp hmap,
        ← congrFun hcalls₂ c]
      simp only [World.register, World.setConn, World.input, World.setCall, Function.update_self,
        Function.update_idem]
      rfl
    have hsteps : Proceeds w₂ w₅ := by
      rw [hw₅]
      exact .single ⟨.register k c hsub₂.created hsub₂.live hsub₂.attached.cleared
        hsub₂.attached.connection hsub₂.owned hsub₂.streamId hr₂.destroyed hsub₂.stream, rfl⟩
    have hself : w₅.calls c = (w₂.calls c).input (.registered k) := by
      rw [hw₅]
      exact Function.update_self ..
    have hothers (c' : CallId) (hne : c' ≠ c) : w₅.calls c' = w₂.calls c' := by
      rw [hw₅]
      exact Function.update_of_ne hne ..
    have hconn : (w₅.conns k).dead = (w₂.conns k).dead ∧
        (w₅.conns k).destroyed = (w₂.conns k).destroyed := by
      rw [hw₅, register_conn, Function.update_self]
      exact ⟨rfl, rfl⟩
    have hrest : w₅.cache = w₂.cache ∧ w₅.nextConn = w₂.nextConn := by
      rw [hw₅]
      exact ⟨rfl, rfl⟩
    have hr₅ : w₅.Ready k := ⟨hconn.1.trans hr₂.dead, hconn.2.trans hr₂.destroyed⟩
    refine ⟨hsteps₂.trans hsteps, ha₂.alter hsteps.steps ?_ ?_ hrest.2 (fun k' hne => ?_) hrest.1 hothers,
      hrest.1.trans hcache₂, hr₅, ?_, fun _ => ⟨?_, ⟨?_, ?_⟩, ?_, ?_, hr₅.destroyed⟩,
      (by intro hno; cases hno)⟩
    · rw [hw₅]
      exact register_settled k c ha₂.settled
    · intro c' hc'
      by_cases hne : c' = c
      · rw [hne, hself]
        exact hsub₂.cancelled
      · rw [hothers c' hne] at hc' ⊢
        exact ha₂.calm c' hc'
    · rw [hw₅]
      exact Function.update_of_ne hne ..
    · refine trans_of Steady (.of_conns hconns₂) (trans_of Steady (b := w₃) ?_ (trans_of Steady
        (b := w₄) ?_ ?_))
      · exact .setConn hmap (fun _ => rfl) (fun _ => rfl) fun _ => ⟨rfl, id⟩
      · exact input_steady c _ _ _ _ hin
      · exact .setConn hset (fun _ => rfl) (fun _ => rfl) fun _ => ⟨rfl, id⟩
    · rw [hself]
      exact hsub₂.live
    · rw [hself]
      rfl
    · change (w₅.calls c).view.cleared = false
      rw [hself, view_registered hsub₂.attached.connection]
      exact hsub₂.attached.cleared
    · rw [hself]
      rfl
    · rw [hself]
      exact hsub₂.streamId

/-- `mark_grpc_call_stream_registration_failed`: the connection is dead. -/
theorem markGrpcCallStreamRegistrationFailed_session {k : ConnId} {c : CallId} {w w' : World}
    {u : Unit} (h : markGrpcCallStreamRegistrationFailed k c w = some (u, w')) (hr : w.Ready k) :
    Session k w w' ∧ (w'.conns k).dead = true := by
  obtain ⟨call, w₀, hcall, h⟩ := Exec.bind_some.mp h
  rw [Proc.call, Exec.get_bind_run] at hcall
  obtain ⟨rfl, rfl⟩ := Exec.pure_some.mp hcall
  obtain ⟨_, w₁, hwhen, h⟩ := Exec.bind_some.mp h
  obtain ⟨_, w₂, hdetail, h⟩ := Exec.bind_some.mp h
  obtain ⟨hdie, hdead⟩ := markConnectionDead_session h
  have hclear : Session k w w₁ := by
    obtain ⟨-, hrun⟩ | ⟨-, rfl⟩ := Exec.when_some.mp hwhen
    · obtain ⟨_, w₃, hlog, hrun⟩ := Exec.bind_some.mp hrun
      obtain rfl := Exec.modify_some.mp hlog
      obtain rfl := Exec.modify_some.mp hrun
      have hforget : ∀ e : StreamEntry, Ledger.EntryKeeps e { e with userData := none } :=
        fun e => ⟨rfl, rfl, rfl, id, id, (by intro c hc; cases hc)⟩
      exact Session.trans (.log (by simp) hr) (mapStream_session hforget)
    · exact .refl
  exact ⟨hclear.trans ((setErrorDetail_session hdetail).trans hdie), hdead⟩

/-- A failed submission leaves the connection as it was or takes it out of the cache. -/
theorem noteSubmitFailure_tidy {k : ConnId} {rv : Int} {w w' : World} {u : Unit}
    (h : noteSubmitFailure k rv w = some (u, w')) (hs : w.Sound) :
    w' = w ∨ (Tidy w w' ∧ Rehouse k w w' ∧ (∀ c, SamePlace w w' c) ∧ (w'.conns k).dead = true ∧
      (w'.conns k).destroyed = (w.conns k).destroyed ∧ ¬w'.ledger.Cached k) := by
  obtain ⟨-, hrun⟩ | ⟨-, rfl⟩ := Exec.when_some.mp h
  · obtain ⟨_, w₁, hdie, hdetach⟩ := Exec.bind_some.mp hrun
    obtain ⟨hsession, hdead⟩ := markConnectionDead_session hdie
    obtain ⟨htidy, hcalls, hre, hgone, huse, hdes⟩ :=
      detachPersistentConnectionByPtr_tidy hdetach (hs.drives hsession.drives)
    refine .inr ⟨hsession.tidy.trans htidy, Rehouse.trans (.drives hsession.drives) hre,
      fun c => (SamePlace.drives hsession.drives c).trans (.of_calls (by rw [hcalls])), ?_,
      hdes.trans hsession.drives.destroyed, hgone⟩
    exact (detachPersistentConnectionByPtr_steady k _ _ _ hdetach).spares.dead k hdead
  · exact .inl rfl

end Proc

end GrpcLite
