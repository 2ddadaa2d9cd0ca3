import GrpcLite.Refinement.Requests

/-!
# Receiving for a call

The parts of a receive loop that both drivers share: the read with its
classification, the session calls behind it and the flush. The deadline flag of a
call is set only behind its deadline.
-/

namespace GrpcLite

namespace Proc

open World

/-- A read for a call: a positive result leaves the connection clean, and an error number of
an expired deadline has reached it. -/
theorem connectionRecv_session {k : ConnId} {length deadline : Nat} {nread : Int} {w w' : World}
    (h : onPort k (Port.connectionRecv length deadline) w = some (nread, w')) :
    Session k w w' ∧ w'.calls = w.calls ∧ (w'.conns k).dead = (w.conns k).dead ∧
      (0 < nread → Steady w w') ∧
      (socketTimeout nread w'.env.errno deadline = true → 0 < deadline ∧
        w'.env.Elapsed deadline) := by
  obtain ⟨hdrive, hcalls, hdead, hdeadline⟩ :=
    Drive.onPort (fun p hp => Port.connectionRecv_keeps _ _ _ _ p hp) h
  refine ⟨.of_drive hdrive hcalls hdeadline, hcalls, hdead, fun hpos => ?_, fun htimeout => ?_⟩
  · exact onPort_steady k (Port.connectionRecv_steady length deadline) _ _ _ h hpos
  · obtain ⟨p, hp, rfl⟩ := Exec.zoom_some.mp h
    simp only [socketTimeout, Bool.and_eq_true, Bool.or_eq_true, decide_eq_true_eq] at htimeout
    obtain ⟨⟨hneg, herrno⟩, hpos⟩ := htimeout
    exact ⟨hpos, Port.connectionRecv_expired hp hneg herrno hpos⟩

/-- The record of a failed read. -/
theorem noteReadFailure_session {k : ConnId} {c : CallId} {nread : Int} {late : Bool}
    {w w' : World} (h : noteReadFailure k c nread w = some (late, w')) :
    Session k w w' ∧ w'.conns = w.conns ∧ w'.env = w.env ∧ w'.ledger = w.ledger ∧
      late = socketTimeout nread w.env.errno (w.calls c).call.deadlineAbsUs := by
  rw [noteReadFailure, Exec.get_bind_run] at h
  obtain ⟨conn, w₁, hconn, h⟩ := Exec.bind_some.mp h
  rw [Proc.conn, Exec.get_bind_run] at hconn
  obtain ⟨rfl, rfl⟩ := Exec.pure_some.mp hconn
  obtain ⟨_, w₂, hwhen, h⟩ := Exec.bind_some.mp h
  obtain ⟨call, w₃, hcall, h⟩ := Exec.bind_some.mp h
  rw [Proc.call, Exec.get_bind_run] at hcall
  obtain ⟨rfl, rfl⟩ := Exec.pure_some.mp hcall
  obtain ⟨rfl, rfl⟩ := Exec.pure_some.mp h
  obtain ⟨-, hin⟩ | ⟨-, rfl⟩ := Exec.when_some.mp hwhen
  · obtain rfl := Exec.modify_some.mp hin
    refine ⟨.note (i := .ioError _ _ _) trivial, rfl, rfl, w.ledger_input_quiet c rfl, ?_⟩
    rw [input_calls_self]
    rfl
  · exact ⟨.refl, rfl, rfl, rfl, rfl⟩

/-- The deadline flag of a call. -/
theorem markTimedOut_session {k : ConnId} {c : CallId} {w w' : World} {u : Unit}
    (h : markTimedOut c w = some (u, w')) (hpos : 0 < (w.calls c).call.deadlineAbsUs)
    (hlate : w.env.Elapsed (w.calls c).call.deadlineAbsUs) :
    Session k w w' ∧ w'.conns = w.conns ∧ w'.ledger = w.ledger := by
  rw [markTimedOut, Exec.get_bind_run] at h
  obtain rfl := Exec.modify_some.mp h
  exact ⟨.note (i := .timedOut w.env.now) ⟨rfl, hpos, hlate⟩, rfl, w.ledger_input_quiet c rfl⟩

theorem noteConnectionBroken_session {k : ConnId} {c : CallId} {w w' : World} {u : Unit}
    (h : noteConnectionBroken c w = some (u, w')) : Session k w w' ∧ w'.conns = w.conns := by
  obtain ⟨call, w₁, hcall, h⟩ := Exec.bind_some.mp h
  rw [Proc.call, Exec.get_bind_run] at hcall
  obtain ⟨rfl, rfl⟩ := Exec.pure_some.mp hcall
  cases hconn : (w.calls c).call.connection with
  | none =>
    simp only [hconn] at h
    obtain rfl := Exec.modify_some.mp h
    exact ⟨.note (i := .connectionBroken _ _) trivial, rfl⟩
  | some k' =>
    simp only [hconn] at h
    obtain ⟨conn, w₂, hread, h⟩ := Exec.bind_some.mp h
    rw [Proc.conn, Exec.get_bind_run] at hread
    obtain ⟨rfl, rfl⟩ := Exec.pure_some.mp hread
    obtain rfl := Exec.modify_some.mp h
    exact ⟨.note (i := .connectionBroken _ _) trivial, rfl⟩

/-- The session calls behind a read. -/
theorem feedSession_session {k : ConnId} {c : CallId} {rv : Int} {w w' : World}
    (h : feedSession k c w = some (rv, w')) (hs : w.Sound) (hcalm : w.Calm) (hr : w.Ready k) :
    Session k w w' ∧ (¬rv < 0 → (w'.conns k).dead = false) ∧ Spares w w' := by
  obtain ⟨_, w₁, henter, h⟩ := Exec.bind_some.mp h
  obtain ⟨rv', w₂, hfeed, h⟩ := Exec.bind_some.mp h
  obtain ⟨_, w₃, hleave, h⟩ := Exec.bind_some.mp h
  obtain ⟨rfl, rfl⟩ := Exec.pure_some.mp h
  have hsteady₁ : Steady w w₁ := by
    exact .setConn henter (fun _ => rfl) (fun _ => rfl) fun _ => ⟨rfl, id⟩
  have hsteady₃ : Steady w₂ w₃ := by
    exact .setConn hleave (fun _ => rfl) (fun _ => rfl) fun _ => ⟨rfl, id⟩
  obtain rfl := Exec.modify_some.mp henter
  obtain rfl := Exec.modify_some.mp hleave
  have htune (w₀ : World) (reader : Option CallId) : Session k w₀ (w₀.setConn k fun conn =>
      { conn with currentReadCall := reader }) :=
    .setConn (.tune rfl (.inr ⟨rfl, rfl⟩)) rfl
  have hdead₁ : ((w.setConn k fun conn =>
      { conn with currentReadCall := some c }).conns k).dead = (w.conns k).dead := by
    rw [setConn_conns_self]
  obtain ⟨hsession, hdead⟩ := sessionMemRecv_session hfeed (hs.drives (htune w _).drives)
    (hcalm.drives (htune w _).drives) (hr.drives (htune w _).drives hdead₁)
  refine ⟨(htune w _).trans (hsession.trans (htune w₂ _)), fun hnn => ?_, ?_⟩
  · rw [setConn_conns_self]
    exact (hdead (Int.not_lt.mp hnn)).trans (hdead₁.trans hr.dead)
  · exact trans_of Spares hsteady₁.spares
      (trans_of Spares (sessionMemRecv_spares k _ _ _ hfeed) hsteady₃.spares)

/-- The flush behind a read: the connection is dead or its library has nothing to send. -/
theorem flushAfterRead_turn {k : ConnId} {c : CallId} {rv : Int} {w w' : World}
    (h : flushAfterRead k c w = some (rv, w')) (hs : w.Sound)
    (hr : w.Ready k) (hclean : w.Clean k) :
    Turn k w w' ∧ (rv = 0 → (w'.conns k).dead = false) ∧ w'.Idle k := by
  obtain ⟨wants, w₁, hwants, h⟩ := Exec.bind_some.mp h
  obtain ⟨hsession, -, hdead, hsteady, hdry⟩ := sessionWantWrite_session hwants
  have hclean₁ : w₁.Clean k := hclean.spares hsteady.spares
  cases wants with
  | true =>
    have hs₁ := hs.drives hsession.drives
    have hdes₁ := hsession.drives.destroyed.trans hr.destroyed
    obtain ⟨hturn, halive, -⟩ := sendPendingH2Frames_turn h hs₁ hdes₁
    exact ⟨hsession.turn.trans hturn, halive, sendPendingH2Frames_idle h hs₁ hdes₁ hclean₁⟩
  | false =>
    obtain ⟨rfl, rfl⟩ := Exec.pure_some.mp h
    exact ⟨hsession.turn, fun _ => hdead.trans hr.dead, hclean₁.idle (hdry rfl)⟩

end Proc

end GrpcLite
