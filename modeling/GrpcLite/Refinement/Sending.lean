import GrpcLite.Refinement.Session

/-!
# The sending functions are moves

The callbacks of a send read the requests of live calls only, and the flush of
pending frames leaves the connection alive exactly when it succeeds.
-/

namespace GrpcLite

namespace World

/-- A run on the session of a connection that may leave another write behind. -/
structure Turn (k : ConnId) (w w' : World) : Prop where
  /-- It drives the session. -/
  drives : Drives k w w'
  /-- The ledger is settled again. -/
  settled : Ledger.Settled w.ledger → Ledger.Settled w'.ledger

namespace Turn

variable {k : ConnId} {w w₁ w' : World}

theorem refl : Turn k w w := ⟨.refl, id⟩

theorem trans (h : Turn k w w₁) (h' : Turn k w₁ w') : Turn k w w' :=
  ⟨h.drives.trans h'.drives, h'.settled ∘ h.settled⟩

/-- A move that touches no call. -/
theorem of_drive (h : Drive k w w') (hcalls : w'.calls = w.calls) : Turn k w w' :=
  ⟨.single h, fun hs => hs.driven (.of_drives (Drives.ledger (.single h))) fun c hc => by
    have hc' : (w'.calls c).call.streamClosed = true := hc
    rw [hcalls] at hc'
    exact .inl hc'⟩

end Turn

theorem Session.turn {k : ConnId} {w w' : World} (h : Session k w w') : Turn k w w' :=
  ⟨h.drives, h.settled⟩

end World

namespace Proc

open World

/-! ## Callbacks of a send -/

/-- A frame that is sent does not kill the connection. -/
theorem sendFrame_session {k : ConnId} {bytes : Bytes} {ok : Bool} {w w' : World}
    (h : sendFrame k bytes w = some (ok, w')) (hr : w.Ready k) :
    Session k w w' ∧ (w'.conns k).dead = (w.conns k).dead := by
  obtain ⟨_, w₁, hlog, h⟩ := Exec.bind_some.mp h
  obtain rfl := Exec.modify_some.mp hlog
  obtain ⟨hdrive, hcalls, hdead, hdeadline⟩ :=
    Drive.onPort (fun p hp => Port.sendCallback_keeps bytes _ _ p hp) h
  exact ⟨Session.trans (.log (by simp) hr) (.of_drive hdrive hcalls hdeadline), hdead⟩

/-- Nor does the payload of a DATA frame. -/
theorem sendDataLoop_session {k : ConnId} {c : CallId} (fuel : Nat) {length : Nat} {ok : Bool}
    {w w' : World} (h : sendDataLoop k c fuel length w = some (ok, w')) (hr : w.Ready k) :
    Session k w w' ∧ (w'.conns k).dead = (w.conns k).dead := by
  induction fuel generalizing w length with
  | zero =>
    cases length with
    | zero | succ =>
      obtain ⟨-, rfl⟩ := Exec.pure_some.mp h
      exact ⟨.refl, rfl⟩
  | succ fuel ih =>
    cases length with
    | zero =>
      obtain ⟨-, rfl⟩ := Exec.pure_some.mp h
      exact ⟨.refl, rfl⟩
    | succ length =>
      obtain ⟨call, w₁, hcall, h⟩ := Exec.bind_some.mp h
      rw [Proc.call, Exec.get_bind_run] at hcall
      obtain ⟨rfl, rfl⟩ := Exec.pure_some.mp hcall
      cases hchunk : (w.calls c).call.requestChunk (length + 1) with
      | none =>
        simp only [hchunk] at h
        obtain ⟨-, rfl⟩ := Exec.pure_some.mp h
        exact ⟨.refl, rfl⟩
      | some chunk =>
        simp only [hchunk] at h
        obtain ⟨sent, w₂, hsend, h⟩ := Exec.bind_some.mp h
        obtain ⟨hsession, hdead⟩ := sendFrame_session hsend hr
        split at h
        · obtain ⟨-, rfl⟩ := Exec.pure_some.mp h
          exact ⟨hsession, hdead⟩
        · obtain ⟨_, w₃, hin, h⟩ := Exec.bind_some.mp h
          obtain rfl := Exec.modify_some.mp hin
          have hnote := hsession.trans (.note (c := c) (i := .requestSent chunk.length) trivial)
          obtain ⟨hsession', hdead'⟩ := ih h (hr.drives hnote.drives hdead)
          exact ⟨hnote.trans hsession', hdead'.trans hdead⟩

/-- The library reads the request of a stream only while its call is live. -/
theorem live_of_requestSource {w : World} (hs : w.Sound) {k : ConnId} {streamId : Int}
    {c : CallId} (hdead : (w.conns k).dead = false)
    (hsource : (w.conns k).requestSource streamId = some c) : (w.calls c).live = true := by
  obtain ⟨e, hfind, rfl⟩ := Option.map_eq_some_iff.mp hsource
  have hopen := List.find?_some hfind
  simp only [Bool.and_eq_true, decide_eq_true_eq, Bool.not_eq_true'] at hopen
  have hentry := hs.inv.wired.entry k e (List.mem_of_find?_eq_some hfind)
  have hd : (w.ledger.conns k).dead = false := hdead
  rcases hentry.held with hcleared | hclosed | hreset | hdead'
  · exact (hentry.home hcleared).1
  · exact absurd (hopen.1.2.symm.trans hclosed) Bool.false_ne_true
  · exact absurd (hopen.2.symm.trans hreset) Bool.false_ne_true
  · exact absurd (hd.symm.trans hdead') Bool.false_ne_true

/-- Nor does a DATA frame. -/
theorem sendData_session {k : ConnId} {streamId : Int} {limit : Nat} {framehd : Bytes}
    {padlen : Nat} {ok : Bool} {w w' : World}
    (h : sendData k streamId limit framehd padlen w = some (ok, w')) (hs : w.Sound)
    (hr : w.Ready k) : Session k w w' ∧ (w'.conns k).dead = (w.conns k).dead := by
  rw [sendData, Exec.get_bind_run] at h
  cases hsource : (w.conns k).requestSource streamId with
  | none =>
    rw [hsource] at h
    obtain ⟨-, rfl⟩ := Exec.pure_some.mp h
    exact ⟨.refl, rfl⟩
  | some c =>
    simp only [hsource] at h
    obtain ⟨_, w₁, hread, h⟩ := Exec.bind_some.mp h
    obtain rfl := Exec.modify_some.mp hread
    have hlive := live_of_requestSource hs hr.dead hsource
    have hsrc : Session k w { w with sourceReads := w.sourceReads ++ [(c, (w.calls c).live)] } := by
      rw [hlive]
      exact .of_drive (.source c hlive) rfl rfl
    split at h
    · obtain ⟨_, w₂, hreset, h⟩ := Exec.bind_some.mp h
      obtain rfl := Exec.modify_some.mp hreset
      obtain ⟨-, rfl⟩ := Exec.pure_some.mp h
      refine ⟨hsrc.trans (mapStream_session Ledger.EntryKeeps.acceptReset), ?_⟩
      rw [setConn_conns_self]
      rfl
    · obtain ⟨sent, w₂, hsend, h⟩ := Exec.bind_some.mp h
      obtain ⟨hsession, hdead⟩ := sendFrame_session hsend (hr.drives hsrc.drives rfl)
      have hpre := hsrc.trans hsession
      split at h
      · obtain ⟨-, rfl⟩ := Exec.pure_some.mp h
        exact ⟨hpre, hdead⟩
      · obtain ⟨hsession', hdead'⟩ := sendDataLoop_session _ h (hr.drives hpre.drives hdead)
        exact ⟨hpre.trans hsession', hdead'.trans hdead⟩

/-- The close callback does not fail. -/
theorem onStreamEvent_closed {k : ConnId} {streamId rv : Int} {code : Nat} {w w' : World}
    (h : onStreamEvent k streamId (.closed code) w = some (rv, w')) : rv = 0 := by
  obtain ⟨_, w₁, -, h⟩ := Exec.bind_some.mp h
  obtain ⟨rv', w₂, hcallback, h⟩ := Exec.bind_some.mp h
  obtain ⟨_, w₃, -, h⟩ := Exec.bind_some.mp h
  obtain ⟨rfl, rfl⟩ := Exec.pure_some.mp h
  rw [eventCallback, Exec.get_bind_run] at hcallback
  cases huser : (w₁.conns k).userData streamId with
  | none =>
    rw [huser] at hcallback
    exact (Exec.pure_some.mp hcallback).1.symm
  | some c =>
    simp only [huser] at hcallback
    split at hcallback
    · exact (Exec.pure_some.mp hcallback).1.symm
    · rw [dispatchEvent, Exec.get_bind_run] at hcallback
      obtain ⟨_, w₄, -, hcallback⟩ := Exec.bind_some.mp hcallback
      obtain ⟨_, w₅, -, hcallback⟩ := Exec.bind_some.mp hcallback
      obtain ⟨_, w₆, -, hcallback⟩ := Exec.bind_some.mp hcallback
      exact (Exec.pure_some.mp hcallback).1.symm

/-- Nor does any callback of a send. -/
theorem onSendOp_session {k : ConnId} {op : SendOp} {ok : Bool} {w w' : World}
    (h : onSendOp k op w = some (ok, w')) (hs : w.Sound) (hr : w.Ready k) :
    Session k w w' ∧ (w'.conns k).dead = (w.conns k).dead := by
  cases op with
  | frame bytes => exact sendFrame_session h hr
  | data streamId limit framehd padlen => exact sendData_session h hs hr
  | close streamId errorCode =>
    obtain ⟨rv, w₁, hevent, h⟩ := Exec.bind_some.mp h
    obtain ⟨-, rfl⟩ := Exec.pure_some.mp h
    obtain ⟨hsession, hdead⟩ := onStreamEvent_session hevent hs nofun hr
    exact ⟨hsession, hdead (onStreamEvent_closed hevent)⟩

/-- Nor do all of them. -/
theorem onSendOps_session {k : ConnId} {rv rv' : Int} (ops : List SendOp) {w w' : World}
    (h : onSendOps k rv ops w = some (rv', w')) (hs : w.Sound)
    (hr : w.Ready k) : Session k w w' ∧ (w'.conns k).dead = (w.conns k).dead := by
  induction ops generalizing w with
  | nil =>
    obtain ⟨-, rfl⟩ := Exec.pure_some.mp h
    exact ⟨.refl, rfl⟩
  | cons op rest ih =>
    obtain ⟨ok, w₁, hop, h⟩ := Exec.bind_some.mp h
    obtain ⟨hsession, hdead⟩ := onSendOp_session hop hs hr
    split at h
    · obtain ⟨-, rfl⟩ := Exec.pure_some.mp h
      exact ⟨hsession, hdead⟩
    · obtain ⟨hsession', hdead'⟩ := ih h (hs.drives hsession.drives) (hr.drives hsession.drives hdead)
      exact ⟨hsession.trans hsession', hdead'.trans hdead⟩

/-! ## The flush of pending frames -/

/-- Nor does the library while it sends. -/
theorem sessionSend_session {k : ConnId} {rv : Int} {w w' : World}
    (h : sessionSend k w = some (rv, w')) (hs : w.Sound) (hr : w.Ready k) :
    Session k w w' ∧ (w'.conns k).dead = (w.conns k).dead := by
  obtain ⟨_, w₁, hlog, h⟩ := Exec.bind_some.mp h
  obtain rfl := Exec.modify_some.mp hlog
  obtain ⟨conn, w₁, hconn, h⟩ := Exec.bind_some.mp h
  rw [Proc.conn, Exec.get_bind_run] at hconn
  obtain ⟨rfl, rfl⟩ := Exec.pure_some.mp hconn
  obtain ⟨⟨ops, rv₀⟩, w₂, hask, h⟩ := Exec.bind_some.mp h
  obtain ⟨henv, hconns, -⟩ := onEnv_session (k := k) (Env.ask_grows _) hask
  have hlog : Session k w (w.log k .sessionSend) := .log (by simp) hr
  have hpre := hlog.trans henv
  have hdead : (w₂.conns k).dead = (w.conns k).dead := by
    rw [hconns]
    rfl
  obtain ⟨rv₁, w₃, hops, h⟩ := Exec.bind_some.mp h
  obtain ⟨_, w₄, hwhen, h⟩ := Exec.bind_some.mp h
  obtain ⟨rfl, rfl⟩ := Exec.pure_some.mp h
  obtain ⟨hsession, hdead'⟩ := onSendOps_session ops hops (hs.drives hpre.drives)
    (hr.drives hpre.drives hdead)
  obtain ⟨-, hdry⟩ | ⟨-, rfl⟩ := Exec.when_some.mp hwhen
  · obtain ⟨hnote, -, hconn₄⟩ := noteOutbound_session hdry
    refine ⟨hpre.trans (hsession.trans hnote), ?_⟩
    rw [hconn₄]
    exact hdead'.trans hdead
  · exact ⟨hpre.trans hsession, hdead'.trans hdead⟩

/-- Nor does a flush. -/
theorem flushPending_session {k : ConnId} {rv : Int} {w w' : World}
    (h : flushPending k w = some (rv, w')) (hr : w.Ready k) :
    Session k w w' ∧ (w'.conns k).dead = (w.conns k).dead := by
  obtain ⟨_, w₁, hlog, h⟩ := Exec.bind_some.mp h
  obtain rfl := Exec.modify_some.mp hlog
  obtain ⟨conn, w₂, hconn, h⟩ := Exec.bind_some.mp h
  rw [Proc.conn, Exec.get_bind_run] at hconn
  obtain ⟨rfl, rfl⟩ := Exec.pure_some.mp hconn
  obtain ⟨ok, w₃, hflush, h⟩ := Exec.bind_some.mp h
  obtain ⟨hdrive, hcalls, hdead, hdeadline⟩ :=
    Drive.onPort (fun p hp => Port.flushWriteBuffer_writes _ _ _ p hp rfl) hflush
  have hsession : Session k w w₃ :=
    Session.trans (.log (by simp) hr) (.of_drive hdrive hcalls hdeadline)
  split at h
  · obtain ⟨-, rfl⟩ := Exec.pure_some.mp h
    exact ⟨hsession, hdead⟩
  · obtain ⟨-, rfl⟩ := Exec.pure_some.mp h
    exact ⟨hsession, hdead⟩

/-- A send with the flush behind it. -/
theorem sendAndFlush_session {k : ConnId} {rv : Int} {w w' : World}
    (h : sendAndFlush k w = some (rv, w')) (hs : w.Sound) (hr : w.Ready k) :
    Session k w w' ∧ (w'.conns k).dead = (w.conns k).dead := by
  obtain ⟨rv₁, w₁, hsend, h⟩ := Exec.bind_some.mp h
  obtain ⟨hsession, hdead⟩ := sessionSend_session hsend hs hr
  split at h
  · obtain ⟨hsession', hdead'⟩ := flushPending_session h (hr.drives hsession.drives hdead)
    exact ⟨hsession.trans hsession', hdead'.trans hdead⟩
  · obtain ⟨-, rfl⟩ := Exec.pure_some.mp h
    exact ⟨hsession, hdead⟩

/-- What a failed send leaves on its call: the deadline flag only behind the deadline. -/
theorem noteSendFailure_session {k : ConnId} {oc : Option CallId} {w w' : World} {u : Unit}
    (h : noteSendFailure k oc w = some (u, w')) (hs : w.Sound)
    (hdeadline : ∀ c, oc = some c →
      (w.conns k).currentWriteDeadlineAbsUs = (w.calls c).call.deadlineAbsUs) :
    Session k w w' ∧ w'.conns = w.conns := by
  cases oc with
  | none =>
    obtain ⟨-, rfl⟩ := Exec.pure_some.mp h
    exact ⟨.refl, rfl⟩
  | some c =>
    obtain ⟨conn, w₁, hconn, h⟩ := Exec.bind_some.mp h
    rw [Proc.conn, Exec.get_bind_run] at hconn
    obtain ⟨rfl, rfl⟩ := Exec.pure_some.mp hconn
    obtain ⟨_, w₂, hwhen, h⟩ := Exec.bind_some.mp h
    obtain rfl := Exec.modify_some.mp h
    obtain ⟨hflag, hmark⟩ | ⟨-, rfl⟩ := Exec.when_some.mp hwhen
    · rw [markTimedOut, Exec.get_bind_run] at hmark
      obtain rfl := Exec.modify_some.mp hmark
      have hlate := hs.honest k hflag
      rw [hdeadline c rfl] at hlate
      exact ⟨Session.trans (.note (i := .timedOut w.env.now) ⟨rfl, hlate⟩)
        (.note (i := .ioError _ _ _) trivial), rfl⟩
    · exact ⟨.note (i := .ioError _ _ _) trivial, rfl⟩

/-- `send_pending_h2_frames_with_deadline`: the connection is alive behind a success and dead
behind a failure. -/
theorem sendPendingH2FramesWithDeadline_turn {k : ConnId} {oc : Option CallId} {fallback : Nat}
    {rv : Int} {w w' : World}
    (h : sendPendingH2FramesWithDeadline k oc fallback w = some (rv, w')) (hs : w.Sound)
    (hdes : (w.conns k).destroyed = 0) :
    Turn k w w' ∧ (rv = 0 → (w'.conns k).dead = false) ∧ (rv ≠ 0 → (w'.conns k).dead = true) := by
  rw [sendPendingH2FramesWithDeadline, Exec.get_bind_run] at h
  split at h
  · next hdead =>
    obtain ⟨rfl, rfl⟩ := Exec.pure_some.mp h
    exact ⟨.refl, fun h0 => absurd h0 (by decide), fun _ => hdead⟩
  · next hdead =>
    obtain ⟨_, w₁, harm, h⟩ := Exec.bind_some.mp h
    obtain ⟨rv', w₂, hsend, h⟩ := Exec.bind_some.mp h
    obtain ⟨_, w₃, hwhen, h⟩ := Exec.bind_some.mp h
    obtain ⟨_, w₄, hend, h⟩ := Exec.bind_some.mp h
    obtain ⟨rfl, rfl⟩ := Exec.pure_some.mp h
    have hdead₀ : (w.conns k).dead = false := Bool.not_eq_true _ ▸ hdead
    have hmk := Exec.modify_some.mp harm
    have harmed : Turn k w w₁ := by
      rw [hmk]
      exact .of_drive (.tune rfl (.inl rfl)) rfl
    have hconn₁ : (w₁.conns k).dead = false ∧ (w₁.conns k).currentWriteDeadlineAbsUs =
        writeDeadlineFor w fallback oc := by
      rw [hmk, setConn_conns_self]
      exact ⟨hdead₀, rfl⟩
    have hr₁ : w₁.Ready k := ⟨hconn₁.1, harmed.drives.destroyed.trans hdes⟩
    obtain ⟨hsession, hdead₂⟩ := sendAndFlush_session hsend (hs.drives harmed.drives)
      hr₁
    have hto₂ := harmed.trans hsession.turn
    have hreset (w₀ : World) : Turn k w₀ (w₀.setConn k fun conn =>
        { conn with
          currentWriteDeadlineAbsUs := 0, currentWriteTimedOut := false
          writeCoalescing := false, writeBuffer := [] }) :=
      .of_drive (.tune rfl (.inl rfl)) rfl
    obtain rfl := Exec.modify_some.mp hend
    obtain ⟨hne, hfail⟩ | ⟨hzero, rfl⟩ := Exec.when_some.mp hwhen
    · obtain ⟨_, w₅, hdie, hnote⟩ := Exec.bind_some.mp hfail
      obtain rfl := Exec.modify_some.mp hdie
      have hdie := (die_session k w₂ rv').turn
      have hto₅ := hto₂.trans hdie
      have hdeadline : ∀ c, oc = some c →
          ((w₂.setConn k (·.markDead rv')).conns k).currentWriteDeadlineAbsUs =
            ((w₂.setConn k (·.markDead rv')).calls c).call.deadlineAbsUs := by
        rintro c rfl
        rw [Drives.deadline hto₅.drives c, setConn_conns_self]
        exact hsession.deadline.trans hconn₁.2
      obtain ⟨hnoted, hconns⟩ := noteSendFailure_session hnote (hs.drives hto₅.drives) hdeadline
      refine ⟨(hto₅.trans hnoted.turn).trans (hreset w₃), fun h0 => absurd h0 hne, fun _ => ?_⟩
      rw [setConn_conns_self, hconns, setConn_conns_self]
      rfl
    · refine ⟨hto₂.trans (hreset w₂), fun _ => ?_, fun hne => absurd hne hzero⟩
      rw [setConn_conns_self]
      exact hdead₂.trans hconn₁.1

/-- Behind a send the connection lives exactly if it succeeded. -/
theorem sendPendingH2Frames_turn {k : ConnId} {oc : Option CallId} {rv : Int} {w w' : World}
    (h : sendPendingH2Frames k oc w = some (rv, w')) (hs : w.Sound)
    (hdes : (w.conns k).destroyed = 0) :
    Turn k w w' ∧ (rv = 0 → (w'.conns k).dead = false) ∧ (rv ≠ 0 → (w'.conns k).dead = true) := by
  obtain ⟨conn, w₁, hconn, h⟩ := Exec.bind_some.mp h
  rw [Proc.conn, Exec.get_bind_run] at hconn
  obtain ⟨rfl, rfl⟩ := Exec.pure_some.mp hconn
  exact sendPendingH2FramesWithDeadline_turn h hs hdes

end Proc

end GrpcLite
