import GrpcLite.Refinement.Sound

/-!
# The session functions are moves

Registration, the callbacks of a receive and of a send, and the flush of pending
frames, each as a run that drives the session of its connection. The ledger is
settled again behind every callback.
-/

namespace GrpcLite

namespace World

/-! ## Small changes -/

/-- The connection itself behind its change. -/
theorem setConn_conns_self (w : World) (k : ConnId) (f : H2Connection → H2Connection) :
    (w.setConn k f).conns k = f (w.conns k) := Function.update_self ..

/-- Two changes of one connection. -/
theorem setConn_setConn (w : World) (k : ConnId) (f g : H2Connection → H2Connection) :
    (w.setConn k f).setConn k g = w.setConn k (g ∘ f) := by
  simp only [setConn, Function.update_self, Function.update_idem, Function.comp]

/-- A change that is none. -/
theorem setConn_eq_self {w : World} {k : ConnId} {f : H2Connection → H2Connection}
    (h : f (w.conns k) = w.conns k) : w.setConn k f = w := by
  simp only [setConn, h, Function.update_eq_self]

/-- The call itself behind its input. -/
theorem input_calls_self (w : World) (c : CallId) (i : CallInput) :
    (w.input c i).calls c = (w.calls c).input i := Function.update_self ..

/-- Time passes. -/
theorem Drive.env {k : ConnId} {w : World} {env : Env} (h : w.env.Grows env) :
    Drive k w { w with env := env } := by
  have hd := Drive.quiet (k := k) (w := w) env (w.conns k) h rfl fun hh => hh.grows h
  rwa [Function.update_eq_self] at hd

/-- A change of fields that neither the ledger nor the write flag depends on. -/
theorem Drive.tune {k : ConnId} {w : World} {f : H2Connection → H2Connection}
    (hview : (f (w.conns k)).view = (w.conns k).view)
    (hflag : (f (w.conns k)).currentWriteTimedOut = false ∨
      (f (w.conns k)).currentWriteTimedOut = (w.conns k).currentWriteTimedOut ∧
        (f (w.conns k)).currentWriteDeadlineAbsUs = (w.conns k).currentWriteDeadlineAbsUs) :
    Drive k w (w.setConn k f) := by
  refine .quiet w.env (f (w.conns k)) (Std.Refl.refl _) hview fun hh hf => ?_
  rcases hflag with hfalse | ⟨hsame, hdeadline⟩
  · exact absurd (hfalse.symm.trans hf) Bool.false_ne_true
  · rw [hdeadline]
    exact hh (hsame.symm.trans hf)

/-- Input and output on a connection. -/
theorem Drive.onPort {α : Type} {k : ConnId} {m : Exec Port α} {w w' : World} {a : α}
    (hm : ∀ p, m ⟨w.env, w.conns k⟩ = some (a, p) → Port.Keeps ⟨w.env, w.conns k⟩ p)
    (h : Proc.onPort k m w = some (a, w')) :
    Drive k w w' ∧ w'.calls = w.calls ∧ (w'.conns k).dead = (w.conns k).dead ∧
      (w'.conns k).currentWriteDeadlineAbsUs = (w.conns k).currentWriteDeadlineAbsUs := by
  obtain ⟨p, hp, rfl⟩ := Exec.zoom_some.mp h
  have hk := hm p hp
  have hdead := congrArg ConnView.dead hk.view
  refine ⟨.quiet p.env p.conn hk.env hk.view hk.honest, rfl, ?_, ?_⟩
  · simp only [Function.update_self]
    exact hdead
  · simp only [Function.update_self]
    exact hk.deadlines.1

/-! ## Sessions -/

/-- The connection may be used. -/
structure Ready (w : World) (k : ConnId) : Prop where
  /-- It is alive. -/
  dead : (w.conns k).dead = false
  /-- Its object exists. -/
  destroyed : (w.conns k).destroyed = 0

/-- A registered stream is not cancelled. -/
def CalmAt (w : World) (c : CallId) : Prop :=
  (w.calls c).call.streamRegistered = true → (w.calls c).cancelled = false

/-- Registered streams are not cancelled. -/
def Calm (w : World) : Prop := ∀ c, w.CalmAt c

/-- A run on the session of a connection between two callbacks. -/
structure Session (k : ConnId) (w w' : World) : Prop where
  /-- It drives the session. -/
  drives : Drives k w w'
  /-- The ledger is settled again. -/
  settled : Ledger.Settled w.ledger → Ledger.Settled w'.ledger
  /-- The deadline of the write in progress stays. -/
  deadline : (w'.conns k).currentWriteDeadlineAbsUs = (w.conns k).currentWriteDeadlineAbsUs

/-- A session does not destroy its connection. -/
theorem Drives.destroyed {k : ConnId} {w w' : World} (h : Drives k w w') :
    (w'.conns k).destroyed = (w.conns k).destroyed :=
  (Ledger.Driven.of_drives h.ledger).place.2.2

/-- A connection is as ready as before if it has not died. -/
theorem Ready.drives {k : ConnId} {w w' : World} (h : w.Ready k) (hd : Drives k w w')
    (hdead : (w'.conns k).dead = (w.conns k).dead) : w'.Ready k :=
  ⟨hdead.trans h.dead, hd.destroyed.trans h.destroyed⟩

/-- A call that does not change. -/
theorem CalmAt.of_calls {w w' : World} {c : CallId} (h : w.CalmAt c) (hcalls : w'.calls = w.calls) :
    w'.CalmAt c := by
  unfold CalmAt
  rw [hcalls]
  exact h

/-- A change of one call that registers nothing. -/
theorem CalmAt.update {w w' : World} {c' : CallId} (h : w.CalmAt c') {c : CallId}
    {tc : TrackedCall} (hcalls : w'.calls = Function.update w.calls c tc)
    (hcan : tc.cancelled = (w.calls c).cancelled)
    (hreg : tc.call.streamRegistered = true → (w.calls c).call.streamRegistered = true) :
    w'.CalmAt c' := by
  intro hreg'
  rw [hcalls, Function.update_apply] at hreg' ⊢
  split at hreg'
  · next hc =>
    subst hc
    rw [if_pos rfl, hcan]
    exact h (hreg hreg')
  · next hc =>
    rw [if_neg hc]
    exact h hreg'

/-- A change of a session does not cancel a registered stream. -/
theorem CalmAt.drive {k : ConnId} {w w' : World} {c' : CallId} (h : w.CalmAt c')
    (hd : Drive k w w') : w'.CalmAt c' := by
  have hquiet {c : CallId} {i : CallInput} (hi : i.quiet = true) : (w.input c i).CalmAt c' := by
    refine h.update rfl rfl fun hr => ?_
    exact ((w.calls c).call.apply_link_quiet hi).2.2.1.symm.trans hr
  cases hd with
  | quiet | log | die | drain | streams | receive | source => exact h
  | deliver streamId c ra answers event hclose =>
    refine h.update rfl rfl fun hr => ?_
    exact (GrpcCall.link_of_fixed
      ((w.calls c).call.apply_event_fixed ra answers hclose)).2.2.1.symm.trans hr
  | close c i hi hreg => exact h.update rfl rfl fun _ => hreg
  | unregister c hreg => exact h.update rfl rfl fun _ => hreg
  | note c i hi => exact hquiet hi.quiet
  | free c => exact hquiet rfl
  | complete c => exact h.update rfl rfl id
  | pop c payload =>
    have hin : (w.input c .dequeue).CalmAt c' := hquiet rfl
    exact hin.update rfl rfl id

/-- Nor does a session. -/
theorem CalmAt.drives {k : ConnId} {w w' : World} {c : CallId} (h : w.CalmAt c)
    (hd : Drives k w w') : w'.CalmAt c := by
  induction hd with
  | refl => exact h
  | tail _ hd ih => exact ih.drive hd

/-- A session keeps all calls calm. -/
theorem Calm.drives {k : ConnId} {w w' : World} (h : w.Calm) (hd : Drives k w w') : w'.Calm :=
  fun c => (h c).drives hd

namespace Session

variable {k : ConnId} {w w₁ w' : World}

/-- Nothing happens. -/
theorem refl : Session k w w := ⟨.refl, id, rfl⟩

/-- One session after the other. -/
theorem trans (h : Session k w w₁) (h' : Session k w₁ w') : Session k w w' :=
  ⟨h.drives.trans h'.drives, h'.settled ∘ h.settled, h'.deadline.trans h.deadline⟩

/-- Moves that tell no call that its stream is closed. -/
theorem of_drives (h : Drives k w w')
    (hclosed : ∀ c, (w'.calls c).call.streamClosed = true →
      (w.calls c).call.streamClosed = true)
    (hdeadline : (w'.conns k).currentWriteDeadlineAbsUs = (w.conns k).currentWriteDeadlineAbsUs) :
    Session k w w' :=
  ⟨h, fun hs => hs.driven (.of_drives h.ledger) fun c hc => .inl (hclosed c hc), hdeadline⟩

/-- A move that touches no call. -/
theorem of_drive (h : Drive k w w') (hcalls : w'.calls = w.calls)
    (hdeadline : (w'.conns k).currentWriteDeadlineAbsUs = (w.conns k).currentWriteDeadlineAbsUs) :
    Session k w w' :=
  of_drives (.single h) (fun c hc => by rwa [hcalls] at hc) hdeadline

/-- An operation on the connection. -/
theorem log {kind : IoKind} (hkind : kind ≠ .submitRequest) (h : w.Ready k) :
    Session k w (w.log k kind) :=
  of_drive (.log kind hkind h.dead h.destroyed) rfl rfl

/-- A change of the connection. -/
theorem setConn {f : H2Connection → H2Connection} (h : Drive k w (w.setConn k f))
    (hdeadline : (f (w.conns k)).currentWriteDeadlineAbsUs =
      (w.conns k).currentWriteDeadlineAbsUs) : Session k w (w.setConn k f) := by
  refine of_drive h rfl ?_
  rw [setConn_conns_self]
  exact hdeadline

/-- Something recorded on a call. -/
theorem note {c : CallId} {i : CallInput} (h : w.Notes c i) : Session k w (w.input c i) := by
  refine of_drives (.single (.note c i h)) (fun c' hc => ?_) rfl
  have hcalls : (w.input c i).calls = Function.update w.calls c ((w.calls c).input i) := rfl
  rw [hcalls, Function.update_apply] at hc
  split at hc
  · next he =>
    rw [he]
    exact ((w.calls c).call.apply_link_quiet h.quiet).2.2.2.2.symm.trans hc
  · exact hc

end Session

end World

namespace Proc

open World

/-! ## Registration -/

/-- The effect of taking a call off the list. -/
theorem unregisterGrpcCallStream_some {c : CallId} {w w' : World} {u : Unit}
    (h : unregisterGrpcCallStream c w = some (u, w')) :
    (w' = w ∧ ((w.calls c).call.connection = none ∨ (w.calls c).call.streamRegistered = false ∨
      (w.calls c).call.streamId ≤ 0)) ∨
    ∃ k, (w.calls c).call.connection = some k ∧ (w.calls c).call.streamRegistered = true ∧
      (((w.conns k).dead = true ∧ w' = w.unregister k c) ∨
        ((w.conns k).dead = false ∧ w' = (w.log k .setUserData).unregister k c)) := by
  obtain ⟨call, w₁, hcall, h⟩ := Exec.bind_some.mp h
  obtain ⟨w₀, w₂, hg, hcall⟩ := Exec.bind_some.mp hcall
  obtain ⟨rfl, rfl⟩ := Exec.get_some.mp hg
  obtain ⟨rfl, rfl⟩ := Exec.pure_some.mp hcall
  cases hconn : (w.calls c).call.connection with
  | none =>
    rw [hconn] at h
    exact .inl ⟨(Exec.pure_some.mp h).2.symm, .inl rfl⟩
  | some k =>
    simp only [hconn] at h
    split at h
    · next hguard =>
      refine .inl ⟨(Exec.pure_some.mp h).2.symm, .inr ?_⟩
      simpa only [Bool.or_eq_true, Bool.not_eq_true', decide_eq_true_eq] using hguard
    · next hguard =>
      simp only [Bool.or_eq_true, Bool.not_eq_true', decide_eq_true_eq, not_or,
        Bool.not_eq_false] at hguard
      refine .inr ⟨k, rfl, hguard.1, ?_⟩
      obtain ⟨conn, w₃, hread, h⟩ := Exec.bind_some.mp h
      obtain ⟨w₀, w₄, hg, hread⟩ := Exec.bind_some.mp hread
      obtain ⟨rfl, rfl⟩ := Exec.get_some.mp hg
      obtain ⟨rfl, rfl⟩ := Exec.pure_some.mp hread
      obtain ⟨_, w₅, hwhen, h⟩ := Exec.bind_some.mp h
      obtain ⟨_, w₆, hset, h⟩ := Exec.bind_some.mp h
      obtain rfl := Exec.modify_some.mp hset
      obtain rfl := Exec.modify_some.mp h
      rcases Exec.when_some.mp hwhen with ⟨hdead, hclear⟩ | ⟨hdead, rfl⟩
      · obtain ⟨_, w₇, hlog, hclear⟩ := Exec.bind_some.mp hclear
        obtain rfl := Exec.modify_some.mp hlog
        obtain rfl := Exec.modify_some.mp hclear
        refine .inr ⟨hdead, ?_⟩
        have hd : ((w.log k .setUserData).conns k).dead = false := hdead
        simp only [World.unregister, setConn_setConn]
        congr 1
        simp only [World.setConn, H2Connection.mapStream, Function.comp, hd]
        rfl
      · have hd : (w.conns k).dead = true := by simpa using hdead
        refine .inl ⟨hd, ?_⟩
        simp only [World.unregister]
        congr 1
        simp only [World.setConn, hd]
        rfl

/-- What is known of a call behind a change of its registration. -/
theorem unregister_calls (w : World) (k : ConnId) (c : CallId) :
    ((w.unregister k c).calls c).call.streamClosed = (w.calls c).call.streamClosed ∧
      ((w.unregister k c).calls c).call.streamRegistered = false ∧
      ∀ c', c' ≠ c → (w.unregister k c).calls c' = w.calls c' := by
  have hcalls : (w.unregister k c).calls =
      Function.update w.calls c ((w.calls c).input .unregistered) := rfl
  rw [hcalls, Function.update_self]
  exact ⟨rfl, rfl, fun c' hc' => Function.update_of_ne hc' ..⟩

/-- A call that leaves the list does not kill the connection. -/
theorem unregister_conn (w : World) (k : ConnId) (c : CallId) :
    ((w.unregister k c).conns k).dead = (w.conns k).dead ∧
      ((w.unregister k c).conns k).currentWriteDeadlineAbsUs =
        (w.conns k).currentWriteDeadlineAbsUs := by
  have hconns : (w.unregister k c).conns = Function.update w.conns k _ := rfl
  rw [hconns, Function.update_self]
  exact ⟨rfl, rfl⟩

/-- Taking a call off the list drives the session of its connection. -/
theorem unregisterGrpcCallStream_session {k : ConnId} {c : CallId} {w w' : World} {u : Unit}
    (h : unregisterGrpcCallStream c w = some (u, w')) (hs : w.Sound)
    (hconn : (w.calls c).call.connection = some k) :
    Session k w w' ∧ (w'.conns k).dead = (w.conns k).dead ∧
      (w'.calls c).call.streamRegistered = false ∧
      (w'.calls c).call.streamClosed = (w.calls c).call.streamClosed ∧
      ∀ c', c' ≠ c → w'.calls c' = w.calls c' := by
  have hunreg (w₀ : World) (hreg₀ : (w₀.calls c).call.streamRegistered = true)
      (hconn₀ : (w₀.calls c).call.connection = some k) : Session k w₀ (w₀.unregister k c) := by
    refine .of_drives (.single (.unregister c hreg₀ hconn₀)) (fun c' hc' => ?_)
      (unregister_conn w₀ k c).2
    obtain ⟨hclosed, -, hothers⟩ := unregister_calls w₀ k c
    by_cases hc : c' = c
    · subst hc
      exact hclosed.symm.trans hc'
    · rwa [hothers c' hc] at hc'
  rcases unregisterGrpcCallStream_some h with ⟨rfl, hguard⟩ | ⟨k', hk', hreg, hcases⟩
  · refine ⟨.refl, rfl, ?_, rfl, fun _ _ => rfl⟩
    rcases hguard with hnone | hreg | hid
    · exact absurd (hnone.symm.trans hconn) (by simp)
    · exact hreg
    · by_contra hreg
      have hpos := (hs.inv.counted.registered c (Bool.not_eq_false _ ▸ hreg)).2
      exact absurd hpos (not_lt_of_ge hid)
  · obtain rfl := Option.some.inj (hk'.symm.trans hconn)
    have hdes : (w.conns k').destroyed = 0 := hs.inv.alive_of_registered hreg hconn
    rcases hcases with ⟨hdead, rfl⟩ | ⟨hdead, rfl⟩
    · obtain ⟨hclosed, hoff, hothers⟩ := unregister_calls w k' c
      exact ⟨hunreg w hreg hconn, (unregister_conn w k' c).1, hoff, hclosed, hothers⟩
    · obtain ⟨hclosed, hoff, hothers⟩ := unregister_calls (w.log k' .setUserData) k' c
      exact ⟨Session.trans (.log (by simp) ⟨hdead, hdes⟩)
        (hunreg (w.log k' .setUserData) hreg hconn),
        (unregister_conn (w.log k' .setUserData) k' c).1, hoff, hclosed, hothers⟩

/-! ## Receiving -/

/-- The answer to a reset is taken from the script. -/
theorem consumeRst_grows (env : Env) : env.Grows (consumeRst env) := by
  unfold consumeRst
  split
  · exact ⟨Nat.le_refl _, List.prefix_append _ _⟩
  · exact ⟨Nat.le_refl _, List.prefix_rfl⟩

/-- A change of the entry of one stream. -/
theorem mapStream_session {k : ConnId} {w : World} {streamId : Int} {f : StreamEntry → StreamEntry}
    (hf : ∀ e, Ledger.EntryKeeps e (f e)) :
    Session k w (w.setConn k fun conn => conn.mapStream streamId f) :=
  .of_drive (.streams _ (Ledger.EntryKeeps.modify hf)) rfl (by rw [setConn_conns_self]; rfl)

/-- The connection dies. -/
theorem die_session (k : ConnId) (w : World) (errorCode : Int) :
    Session k w (w.setConn k (·.markDead errorCode)) :=
  .setConn (.die errorCode) rfl

/-- A reset kills its connection only when the answer is fatal. -/
theorem noteRst_session {k : ConnId} {streamId rv : Int} {w w' : World} {u : Unit}
    (h : noteRst k streamId rv w = some (u, w')) (hr : w.Ready k) :
    Session k w w' ∧ w'.calls = w.calls ∧
      (Nghttp2.isFatal rv = false → (w'.conns k).dead = (w.conns k).dead) := by
  obtain ⟨_, w₁, hlog, h⟩ := Exec.bind_some.mp h
  obtain rfl := Exec.modify_some.mp hlog
  obtain ⟨_, w₂, hrst, h⟩ := Exec.bind_some.mp h
  obtain rfl := Exec.modify_some.mp hrst
  have hstart : Session k w { w.log k .submitRst with env := consumeRst w.env } :=
    Session.trans (.log (by simp) hr) (.of_drive (.env (consumeRst_grows w.env)) rfl rfl)
  split at h
  · obtain rfl := Exec.modify_some.mp h
    refine ⟨hstart.trans (mapStream_session Ledger.EntryKeeps.acceptReset), rfl, fun _ => ?_⟩
    rw [setConn_conns_self]
    rfl
  · split at h
    · next hfatal =>
      obtain rfl := Exec.modify_some.mp h
      refine ⟨hstart.trans (die_session k _ rv), rfl, fun hne => ?_⟩
      exact absurd (hne.symm.trans hfatal) Bool.false_ne_true
    · obtain ⟨-, rfl⟩ := Exec.pure_some.mp h
      exact ⟨hstart, rfl, fun _ => rfl⟩

/-- The resets of a callback, of which only the last may meet a fatal answer. -/
theorem noteRsts_session {k : ConnId} {streamId : Int} (rsts : List (Nat × Int)) {w w' : World}
    {u : Unit} (h : noteRsts k streamId rsts w = some (u, w')) (hr : w.Ready k)
    (hlast : ∀ x ∈ rsts.dropLast, Nghttp2.isFatal x.2 = false) :
    Session k w w' ∧ w'.calls = w.calls ∧
      ((∀ x ∈ rsts, Nghttp2.isFatal x.2 = false) → (w'.conns k).dead = (w.conns k).dead) := by
  induction rsts generalizing w with
  | nil =>
    obtain ⟨-, rfl⟩ := Exec.pure_some.mp h
    exact ⟨.refl, rfl, fun _ => rfl⟩
  | cons x rest ih =>
    obtain ⟨_, w₁, hone, h⟩ := Exec.bind_some.mp h
    obtain ⟨hsession, hcalls, hdead⟩ := noteRst_session hone hr
    cases rest with
    | nil =>
      obtain ⟨-, rfl⟩ := Exec.pure_some.mp h
      exact ⟨hsession, hcalls, fun hall => hdead (hall x (List.mem_singleton_self x))⟩
    | cons y rest =>
      have hx : Nghttp2.isFatal x.2 = false := hlast x (by simp)
      have hr₁ := hr.drives hsession.drives (hdead hx)
      obtain ⟨hsession', hcalls', hdead'⟩ := ih h hr₁ fun z hz =>
        hlast z (by rw [List.dropLast_cons_of_ne_nil (by simp)]; exact List.mem_cons_of_mem _ hz)
      exact ⟨hsession.trans hsession', hcalls'.trans hcalls,
        fun hall => (hdead' fun z hz => hall z (List.mem_cons_of_mem _ hz)).trans (hdead hx)⟩

/-- The arrival of bytes does not change who is registered for a stream. -/
theorem userData_receive (conn : H2Connection) (streamId streamId' : Int) (event : StreamEvent) :
    (conn.receive streamId event).userData streamId' = conn.userData streamId' := by
  have hkeep : ∀ e : StreamEntry, (e.receive streamId event.bytes).streamId = e.streamId ∧
      (e.receive streamId event.bytes).closed = e.closed ∧
      (e.receive streamId event.bytes).userData = e.userData := by
    intro e
    unfold StreamEntry.receive
    split
    · exact ⟨rfl, rfl, rfl⟩
    · exact ⟨rfl, rfl, rfl⟩
  simp only [H2Connection.userData, Streams.userData, H2Connection.receive, Streams.append,
    List.find?_map]
  have hpred : ((fun entry : StreamEntry => decide (entry.streamId = streamId') && !entry.closed) ∘
      StreamEntry.receive streamId event.bytes) =
      fun entry => decide (entry.streamId = streamId') && !entry.closed := by
    funext e
    simp only [Function.comp, (hkeep e).1, (hkeep e).2.1]
  rw [hpred]
  cases conn.streams.find? fun entry => decide (entry.streamId = streamId') && !entry.closed with
  | none => rfl
  | some e => exact (hkeep e).2.2

/-- Events without body bytes leave the streams alone. -/
theorem receive_eq_self {conn : H2Connection} {streamId : Int} {event : StreamEvent}
    (h : event.bytes = []) : conn.receive streamId event = conn := by
  have hentry : StreamEntry.receive streamId [] = id := by
    funext e
    unfold StreamEntry.receive
    split
    · rw [List.append_nil]
      rfl
    · rfl
  simp only [H2Connection.receive, Streams.append, h, hentry, List.map_id]

/-- The call registered for a stream of a living connection. -/
theorem registered_of_userData {w : World} (hs : w.Sound) {k : ConnId} {streamId : Int}
    {c : CallId} (hdead : (w.conns k).dead = false)
    (huser : (w.conns k).userData streamId = some c) :
    (w.calls c).call.streamRegistered = true ∧ (w.calls c).call.connection = some k ∧
      (w.calls c).call.streamId = streamId := by
  obtain ⟨e, he, rfl, -, hdata⟩ := Ledger.mem_of_userData huser
  have hentry := hs.inv.wired.entry k e he
  obtain ⟨hsource, hreg⟩ := hentry.user hdead c hdata
  have hcleared := (hs.inv.counted.owned _ (hs.inv.counted.registered _ hreg).1).2.2
  rw [← hsource] at hentry hreg hcleared
  exact ⟨hreg, (hentry.home hcleared).2, hentry.id.2⟩

/-- What driving a session leaves of a call. -/
theorem Drives.place {k : ConnId} {w w' : World} (h : Drives k w w') (c : CallId) :
    (w'.ledger.calls c).live = (w.ledger.calls c).live ∧
      (w'.ledger.calls c).connection = (w.ledger.calls c).connection ∧
      (w'.ledger.calls c).streamId = (w.ledger.calls c).streamId ∧
      (w'.ledger.calls c).owned = (w.ledger.calls c).owned ∧
      (w'.ledger.calls c).cleared = (w.ledger.calls c).cleared :=
  (Ledger.Driven.of_drives h.ledger).calls c

/-- An event other than a close reaches the call registered for its stream. -/
theorem deliver_session {k : ConnId} {streamId : Int} {c : CallId} {event : StreamEvent}
    {w w₁ : World} (hw₁ : w₁ = w.setConn k (·.receive streamId event)) (ra : ReadAhead)
    (answers : List Int) (hclose : event.isClose = false) (hr : w.Ready k)
    (huser : (w.conns k).userData streamId = some c) (hcan : (w.calls c).cancelled = false) :
    Session k w (w₁.input c (.event ra answers event)) ∧
      ((w₁.input c (.event ra answers event)).conns k).dead = (w.conns k).dead := by
  subst hw₁
  have hconn : ((w.setConn k (·.receive streamId event)).input c
      (.event ra answers event)).conns k = (w.conns k).receive streamId event :=
    setConn_conns_self w k (·.receive streamId event)
  refine ⟨.of_drives (.single (.deliver streamId c ra answers event hclose hr.dead huser hcan))
    (fun c' hc' => ?_) (by rw [hconn]; rfl), by rw [hconn]; rfl⟩
  have hcalls : ((w.setConn k (·.receive streamId event)).input c
      (.event ra answers event)).calls = Function.update w.calls c
        ((w.calls c).input (.event ra answers event)) := rfl
  rw [hcalls, Function.update_apply] at hc'
  split at hc'
  · next he =>
    rw [he]
    exact (GrpcCall.link_of_fixed
      ((w.calls c).call.apply_event_fixed ra answers hclose)).2.2.2.2.symm.trans hc'
  · exact hc'

/-- The callback of an event other than a close, with the resets it submits. -/
theorem dispatchEvent_session {k : ConnId} {streamId rv : Int} {c : CallId} {event : StreamEvent}
    {w w₁ w' : World} (hw₁ : w₁ = w.setConn k (·.receive streamId event))
    (h : dispatchEvent k streamId c event w₁ = some (rv, w')) (hclose : event.isClose = false)
    (hr : w.Ready k) (huser : (w.conns k).userData streamId = some c)
    (hcan : (w.calls c).cancelled = false) :
    Session k w w' ∧ (rv = 0 → (w'.conns k).dead = (w.conns k).dead) := by
  rw [dispatchEvent, Exec.get_bind_run] at h
  obtain ⟨_, w₂, hin, h⟩ := Exec.bind_some.mp h
  obtain rfl := Exec.modify_some.mp hin
  obtain ⟨_, w₃, hrsts, h⟩ := Exec.bind_some.mp h
  obtain ⟨_, w₄, hwhen, h⟩ := Exec.bind_some.mp h
  obtain ⟨rfl, rfl⟩ := Exec.pure_some.mp h
  obtain ⟨htrue, -⟩ | ⟨-, rfl⟩ := Exec.when_some.mp hwhen
  · exact absurd (hclose.symm.trans htrue) Bool.false_ne_true
  obtain ⟨new, hnew, hlast, hall⟩ := (CallbackState.onEvent_submits (w₁.readAhead k c)
    ⟨(w₁.calls c).call, rstAnswers w₁.env.script, []⟩ hclose).resets
  rw [List.nil_append] at hnew
  obtain ⟨hsession, hdead⟩ := deliver_session hw₁ (w₁.readAhead k c) (rstAnswers w₁.env.script)
    hclose hr huser hcan
  obtain ⟨hsession', -, hdead'⟩ := noteRsts_session _ hrsts (hr.drives hsession.drives hdead)
    (by rw [hnew]; exact hlast)
  refine ⟨hsession.trans hsession', fun hzero => (hdead' ?_).trans hdead⟩
  rw [hnew]
  exact hall hzero

/-- The close of a stream, given to the call registered for it. -/
theorem dispatchClose_session {k : ConnId} {streamId rv : Int} {c : CallId} {code : Nat}
    {w w' : World} (h : dispatchEvent k streamId c (.closed code) w = some (rv, w'))
    (hs : w.Sound) (hreg : (w.calls c).call.streamRegistered = true)
    (hconn : (w.calls c).call.connection = some k) :
    Drives k w w' ∧ (w'.conns k).dead = (w.conns k).dead ∧
      (w'.conns k).currentWriteDeadlineAbsUs = (w.conns k).currentWriteDeadlineAbsUs ∧
      ∀ c', (w'.calls c').call.streamClosed = true →
        (w.calls c').call.streamClosed = true ∨ c' = c := by
  rw [dispatchEvent, Exec.get_bind_run] at h
  obtain ⟨_, w₁, hin, h⟩ := Exec.bind_some.mp h
  obtain rfl := Exec.modify_some.mp hin
  obtain ⟨_, w₂, hrsts, h⟩ := Exec.bind_some.mp h
  obtain ⟨-, rfl⟩ := Exec.pure_some.mp hrsts
  obtain ⟨_, w₃, hwhen, h⟩ := Exec.bind_some.mp h
  obtain ⟨-, rfl⟩ := Exec.pure_some.mp h
  obtain ⟨-, hunreg⟩ | ⟨hfalse, -⟩ := Exec.when_some.mp hwhen
  · have hclosed : Drive k w _ := .close c (.event (w.readAhead k c) (rstAnswers w.env.script)
      (.closed code)) rfl hreg hconn
    have hs₁ := hs.drives (.single hclosed)
    have hconn₁ : ((w.input c (.event (w.readAhead k c) (rstAnswers w.env.script)
        (.closed code))).calls c).call.connection = some k := by
      rw [input_calls_self]
      exact hconn
    obtain ⟨hsession, hdead, -, -, hsame⟩ := unregisterGrpcCallStream_session hunreg hs₁ hconn₁
    refine ⟨.head hclosed hsession.drives, hdead, hsession.deadline, fun c' hc' => ?_⟩
    by_cases hc : c' = c
    · exact .inr hc
    · refine .inl ?_
      rw [hsame c' hc] at hc'
      have hcalls : (w.input c (.event (w.readAhead k c) (rstAnswers w.env.script)
        (.closed code))).calls c' = w.calls c' := Function.update_of_ne hc ..
      rwa [hcalls] at hc'
  · exact absurd rfl hfalse

/-- One event of a stream. -/
theorem onStreamEvent_session {k : ConnId} {streamId rv : Int} {event : StreamEvent}
    {w w' : World} (h : onStreamEvent k streamId event w = some (rv, w')) (hs : w.Sound)
    (hcalm : event.isClose = false → w.Calm) (hr : w.Ready k) :
    Session k w w' ∧ (rv = 0 → (w'.conns k).dead = (w.conns k).dead) := by
  obtain ⟨_, w₁, hrecv, h⟩ := Exec.bind_some.mp h
  obtain rfl := Exec.modify_some.mp hrecv
  obtain ⟨rv', w₂, hcallback, h⟩ := Exec.bind_some.mp h
  obtain ⟨_, w₃, hwhen, h⟩ := Exec.bind_some.mp h
  obtain ⟨rfl, rfl⟩ := Exec.pure_some.mp h
  rw [eventCallback, Exec.get_bind_run, setConn_conns_self, userData_receive] at hcallback
  cases huser : (w.conns k).userData streamId with
  | none =>
    rw [huser] at hcallback
    obtain ⟨-, rfl⟩ := Exec.pure_some.mp hcallback
    have hrecv : Session k w (w.setConn k (·.receive streamId event)) :=
      .setConn (.receive streamId event huser) rfl
    have hdead : ((w.setConn k (·.receive streamId event)).conns k).dead = (w.conns k).dead := by
      rw [setConn_conns_self]
      rfl
    obtain ⟨-, hclose⟩ | ⟨-, rfl⟩ := Exec.when_some.mp hwhen
    · obtain rfl := Exec.modify_some.mp hclose
      refine ⟨hrecv.trans (mapStream_session Ledger.EntryKeeps.close), fun _ => ?_⟩
      rw [setConn_conns_self]
      exact hdead
    · exact ⟨hrecv, fun _ => hdead⟩
  | some c =>
    obtain ⟨hreg, hconn, hid⟩ := registered_of_userData hs hr.dead huser
    simp only [huser] at hcallback
    have hid' : ((w.setConn k (·.receive streamId event)).calls c).call.streamId = streamId := hid
    rw [if_neg (not_not.mpr hid')] at hcallback
    obtain ⟨htrue, hclose⟩ | ⟨hfalse, rfl⟩ := Exec.when_some.mp hwhen
    · cases event with
      | closed code =>
        rw [setConn_eq_self (receive_eq_self rfl)] at hcallback
        obtain rfl := Exec.modify_some.mp hclose
        obtain ⟨hdrives, hdead, hdeadline, hclosed⟩ :=
          dispatchClose_session hcallback hs hreg hconn
        have hmap : Session k w₂ (w₂.setConn k fun conn => conn.mapStream streamId fun e =>
            { e with closed := true }) := mapStream_session Ledger.EntryKeeps.close
        have hall : Drives k w _ := hdrives.trans hmap.drives
        refine ⟨⟨hall, fun hset => hset.driven (.of_drives hall.ledger) fun c' hc' => ?_,
          hmap.deadline.trans hdeadline⟩, fun _ => ?_⟩
        · refine (hclosed c' hc').imp_right ?_
          rintro rfl
          obtain ⟨-, hconn', hid', howned', hcleared'⟩ := Drives.place hall c'
          have howned := (hs.inv.counted.registered c' hreg).1
          refine (hs.drives hall).inv.detached_of_stream
            (hcleared'.trans (hs.inv.counted.owned c' howned).2.2) (hconn'.trans hconn) ?_
          intro e he heid
          have hstreams : (World.ledger (w₂.setConn k fun conn =>
              conn.mapStream streamId fun entry => { entry with closed := true })).conns k =
              ((w₂.conns k).mapStream streamId fun entry => { entry with closed := true }).view :=
            congrArg H2Connection.view (setConn_conns_self w₂ k _)
          rw [hstreams] at he
          obtain ⟨e₀, -, rfl⟩ := List.mem_map.mp he
          split
          · exact .inl rfl
          · next hne =>
            rw [if_neg hne] at heid
            exact absurd ((heid.trans hid').trans hid) hne
        · rw [setConn_conns_self]
          exact hdead
      | _ => cases htrue
    · have hclose : event.isClose = false := Bool.not_eq_true _ ▸ hfalse
      exact dispatchEvent_session rfl hcallback hclose hr huser (hcalm hclose c hreg)

/-- The refusals of a GOAWAY: only calls above its last stream learn that they are closed. -/
theorem refuseStreams_drives {k : ConnId} {lastStreamId : Int} (active : List CallId)
    {w w' : World} {u : Unit} (h : refuseStreams k lastStreamId active w = some (u, w'))
    (hs : w.Sound) (hnodup : active.Nodup)
    (hreg : ∀ c ∈ active, (w.calls c).call.streamRegistered = true ∧
      (w.calls c).call.connection = some k) :
    Drives k w w' ∧ (w'.conns k).dead = (w.conns k).dead ∧
      (w'.conns k).currentWriteDeadlineAbsUs = (w.conns k).currentWriteDeadlineAbsUs ∧
      ∀ c', (w'.calls c').call.streamClosed = true → (w.calls c').call.streamClosed = true ∨
        ((w.ledger.calls c').cleared = false ∧ (w.ledger.calls c').connection = some k ∧
          lastStreamId < (w.ledger.calls c').streamId) := by
  induction active generalizing w with
  | nil =>
    obtain ⟨-, rfl⟩ := Exec.pure_some.mp h
    exact ⟨.refl, rfl, rfl, fun _ hc => .inl hc⟩
  | cons c rest ih =>
    obtain ⟨call, w₁, hcall, h⟩ := Exec.bind_some.mp h
    rw [Proc.call, Exec.get_bind_run] at hcall
    obtain ⟨rfl, rfl⟩ := Exec.pure_some.mp hcall
    obtain ⟨_, w₂, hwhen, h⟩ := Exec.bind_some.mp h
    obtain ⟨hc, hrest⟩ := List.nodup_cons.mp hnodup
    obtain ⟨⟨-, hlast⟩, hrefuse⟩ | ⟨-, rfl⟩ := Exec.when_some.mp hwhen
    · obtain ⟨hregc, hconnc⟩ := hreg c List.mem_cons_self
      obtain ⟨_, w₃, hin, hunreg⟩ := Exec.bind_some.mp hrefuse
      obtain rfl := Exec.modify_some.mp hin
      have hclose : Drive k w (w.input c .refused) := .close c .refused rfl hregc hconnc
      have hs₁ := hs.drives (.single hclose)
      have hconn₁ : ((w.input c .refused).calls c).call.connection = some k := by
        rw [input_calls_self]
        exact hconnc
      obtain ⟨hsession, hdead, -, -, hsame⟩ := unregisterGrpcCallStream_session hunreg hs₁ hconn₁
      have hfirst : Drives k w w₂ := .head hclose hsession.drives
      have hothers : ∀ c', c' ≠ c → w₂.calls c' = w.calls c' := by
        intro c' hne
        rw [hsame c' hne]
        exact Function.update_of_ne hne ..
      have hreg₂ : ∀ c' ∈ rest, (w₂.calls c').call.streamRegistered = true ∧
          (w₂.calls c').call.connection = some k := by
        intro c' hc'
        rw [hothers c' fun he => hc (he ▸ hc')]
        exact hreg c' (List.mem_cons_of_mem c hc')
      obtain ⟨hdrives, hdead', hdeadline', hclosed'⟩ :=
        ih h (hs.drives hfirst) hrest hreg₂
      refine ⟨hfirst.trans hdrives, hdead'.trans hdead, hdeadline'.trans hsession.deadline,
        fun c' hc' => ?_⟩
      obtain ⟨-, hconn', hid', -, hcleared'⟩ := Drives.place hfirst c'
      rcases hclosed' c' hc' with hold | hnew
      · by_cases he : c' = c
        · subst he
          have howned := (hs.inv.counted.registered c' hregc).1
          exact .inr ⟨(hs.inv.counted.owned c' howned).2.2, hconnc, hlast⟩
        · rw [hothers c' he] at hold
          exact .inl hold
      · rw [hconn', hid', hcleared'] at hnew
        exact .inr hnew
    · exact ih h hs hrest fun c' hc' => hreg c' (List.mem_cons_of_mem c hc')

/-- The GOAWAY callback. -/
theorem onGoaway_session {k : ConnId} {lastStreamId : Int} {errorCode : Nat} {w w' : World}
    {u : Unit} (h : onGoaway k lastStreamId errorCode w = some (u, w')) (hs : w.Sound) :
    Session k w w' ∧ (w'.conns k).dead = (w.conns k).dead := by
  obtain ⟨conn, w₁, hconn, h⟩ := Exec.bind_some.mp h
  rw [Proc.conn, Exec.get_bind_run] at hconn
  obtain ⟨rfl, rfl⟩ := Exec.pure_some.mp hconn
  obtain ⟨_, w₂, hdrain, h⟩ := Exec.bind_some.mp h
  obtain rfl := Exec.modify_some.mp hdrain
  obtain ⟨_, w₃, hwhen, h⟩ := Exec.bind_some.mp h
  obtain rfl := Exec.modify_some.mp h
  have hdrain : Session k w (w.setConn k (·.markDraining lastStreamId errorCode)) :=
    .setConn (.drain lastStreamId errorCode) rfl
  have hdead₂ : ((w.setConn k (·.markDraining lastStreamId errorCode)).conns k).dead =
      (w.conns k).dead := by
    rw [setConn_conns_self]
    rfl
  -- The closed streams are those of the refused calls, so that the ledger is settled again.
  have hmid : Drives k w w₃ ∧ (w₃.conns k).dead = (w.conns k).dead ∧
      (w₃.conns k).currentWriteDeadlineAbsUs = (w.conns k).currentWriteDeadlineAbsUs ∧
      ∀ c', (w₃.calls c').call.streamClosed = true → (w.calls c').call.streamClosed = true ∨
        ((w.ledger.calls c').cleared = false ∧ (w.ledger.calls c').connection = some k ∧
          lastStreamId < (w.ledger.calls c').streamId) := by
    obtain ⟨-, hrefuse⟩ | ⟨-, rfl⟩ := Exec.when_some.mp hwhen
    · have hactive : ∀ c ∈ (w.conns k).activeStreams,
          (w.calls c).call.streamRegistered = true ∧ (w.calls c).call.connection = some k :=
        fun c hc => (hs.inv.counted.mem k c).mp hc
      obtain ⟨hdrives, hdead, hdeadline, hclosed⟩ := refuseStreams_drives _ hrefuse
        (hs.drives hdrain.drives) (hs.inv.counted.nodup k) hactive
      refine ⟨hdrain.drives.trans hdrives, hdead.trans hdead₂, hdeadline.trans hdrain.deadline,
        fun c' hc' => ?_⟩
      obtain ⟨-, hconn', hid', -, hcleared'⟩ := Drives.place hdrain.drives c'
      have hc := hclosed c' hc'
      rw [hconn', hid', hcleared'] at hc
      exact hc
    · exact ⟨hdrain.drives, hdead₂, hdrain.deadline, fun c' hc' => .inl hc'⟩
  obtain ⟨hdrives, hdead, hdeadline, hclosed⟩ := hmid
  have hclose : Drive k w₃ (w₃.setConn k fun conn =>
      { conn with streams := conn.streams.map fun entry =>
          if entry.streamId > lastStreamId then { entry with closed := true } else entry }) := by
    refine .streams _ fun e => ?_
    split
    · exact Ledger.EntryKeeps.close e
    · exact Ledger.EntryKeeps.refl e
  have hall : Drives k w _ := hdrives.tail hclose
  refine ⟨⟨hall, fun hset => hset.driven (.of_drives hall.ledger) fun c' hc' => ?_, ?_⟩, ?_⟩
  · refine (hclosed c' hc').imp_right fun ⟨hcleared, hconn, hlast⟩ => ?_
    obtain ⟨-, hconn', hid', -, hcleared'⟩ := Drives.place hall c'
    refine (hs.drives hall).inv.detached_of_stream (hcleared'.trans hcleared)
      (hconn'.trans hconn) fun e he heid => ?_
    have hstreams : (World.ledger (w₃.setConn k fun conn =>
        { conn with streams := conn.streams.map fun entry =>
            if entry.streamId > lastStreamId then { entry with closed := true }
            else entry })).conns k = H2Connection.view _ :=
      congrArg H2Connection.view (setConn_conns_self w₃ k _)
    rw [hstreams] at he
    obtain ⟨e₀, -, rfl⟩ := List.mem_map.mp he
    split
    · exact .inl rfl
    · next hle =>
      rw [if_neg hle, hid'] at heid
      exact absurd (heid ▸ hlast) hle
  · rw [setConn_conns_self]
    exact hdeadline
  · rw [setConn_conns_self]
    exact hdead

/-- A callback of a session that succeeds does not kill the connection. -/
theorem onSessionEvent_session {k : ConnId} {event : SessionEvent} {rv : Int} {w w' : World}
    (h : onSessionEvent k event w = some (rv, w')) (hs : w.Sound) (hcalm : w.Calm)
    (hr : w.Ready k) : Session k w w' ∧ (rv = 0 → (w'.conns k).dead = (w.conns k).dead) := by
  cases event with
  | stream streamId event => exact onStreamEvent_session h hs (fun _ => hcalm) hr
  | goaway lastStreamId errorCode =>
    obtain ⟨_, w₁, hgoaway, h⟩ := Exec.bind_some.mp h
    obtain ⟨-, rfl⟩ := Exec.pure_some.mp h
    obtain ⟨hsession, hdead⟩ := onGoaway_session hgoaway hs
    exact ⟨hsession, fun _ => hdead⟩

/-- So it is for all callbacks of a read. -/
theorem onSessionEvents_session {k : ConnId} {rv rv' : Int} (events : List SessionEvent)
    {w w' : World} (h : onSessionEvents k rv events w = some (rv', w')) (hs : w.Sound)
    (hcalm : w.Calm) (hr : w.Ready k) :
    Session k w w' ∧ (0 ≤ rv' → (w'.conns k).dead = (w.conns k).dead) := by
  induction events generalizing w with
  | nil =>
    obtain ⟨-, rfl⟩ := Exec.pure_some.mp h
    exact ⟨.refl, fun _ => rfl⟩
  | cons event rest ih =>
    obtain ⟨rv₁, w₁, hevent, h⟩ := Exec.bind_some.mp h
    obtain ⟨hsession, hdead⟩ := onSessionEvent_session hevent hs hcalm hr
    split at h
    · obtain ⟨rfl, rfl⟩ := Exec.pure_some.mp h
      exact ⟨hsession, fun hnn => absurd hnn (by decide)⟩
    · next hzero =>
      have hdead₁ := hdead (not_not.mp hzero)
      obtain ⟨hsession', hdead'⟩ := ih h (hs.drives hsession.drives)
        (hcalm.drives hsession.drives) (hr.drives hsession.drives hdead₁)
      exact ⟨hsession.trans hsession', fun hnn => (hdead' hnn).trans hdead₁⟩

/-- An answer of the environment. -/
theorem onEnv_session {α : Type} {k : ConnId} {m : Exec Env α} {w w' : World} {a : α}
    (hm : Exec.Within Env.Grows m) (h : onEnv m w = some (a, w')) :
    Session k w w' ∧ w'.conns = w.conns ∧ w'.calls = w.calls := by
  obtain ⟨env, henv, rfl⟩ := Exec.zoom_some.mp h
  exact ⟨.of_drive (.env (hm _ _ _ henv)) rfl rfl, rfl, rfl⟩

/-- A note of what the library has to send is part of a session. -/
theorem noteOutbound_session {k : ConnId} {outbound : Bool} {w w' : World} {u : Unit}
    (h : noteOutbound k outbound w = some (u, w')) :
    Session k w w' ∧ w'.calls = w.calls ∧
      w'.conns k = { w.conns k with outbound := outbound } := by
  obtain rfl := Exec.modify_some.mp h
  exact ⟨.setConn (.tune rfl (.inr ⟨rfl, rfl⟩)) rfl, rfl, setConn_conns_self w k _⟩

/-- `nghttp2_session_mem_recv`: a result that is no failure leaves the connection alive. -/
theorem sessionMemRecv_session {k : ConnId} {rv : Int} {w w' : World}
    (h : sessionMemRecv k w = some (rv, w')) (hs : w.Sound) (hcalm : w.Calm) (hr : w.Ready k) :
    Session k w w' ∧ (0 ≤ rv → (w'.conns k).dead = (w.conns k).dead) := by
  obtain ⟨_, w₁, hlog, h⟩ := Exec.bind_some.mp h
  obtain rfl := Exec.modify_some.mp hlog
  obtain ⟨⟨events, rv₀⟩, w₂, hask, h⟩ := Exec.bind_some.mp h
  have hlog : Session k w (w.log k .memRecv) := .log (by simp) hr
  obtain ⟨henv, hconns, -⟩ := onEnv_session (k := k) (Env.ask_grows _) hask
  obtain ⟨_, w₃, hqueue, h⟩ := Exec.bind_some.mp h
  obtain ⟨hqueued, -, hconn₃⟩ := noteOutbound_session hqueue
  have hpre := hlog.trans (henv.trans hqueued)
  have hdead : (w₃.conns k).dead = (w.conns k).dead := by
    rw [hconn₃, hconns]
    rfl
  obtain ⟨hsession, hdead'⟩ := onSessionEvents_session events h (hs.drives hpre.drives)
    (hcalm.drives hpre.drives) (hr.drives hpre.drives hdead)
  exact ⟨hpre.trans hsession, fun hnn => (hdead' hnn).trans hdead⟩

end Proc

end GrpcLite
