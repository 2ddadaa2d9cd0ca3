import GrpcLite.Refinement.Pulling

/-!
# What the drivers report

The status, the metadata and the outcome that a driver reports are read from the
record of its call, behind the check for a truncated message, and from the error
text of the connection that the call points at.
-/

namespace GrpcLite

namespace GrpcCall

/-- The record of a unary call behind the check for a truncated message. -/
def checkUnary (call : GrpcCall) : GrpcCall :=
  if call.unaryTruncated then { call with malformedResponseFrame := true } else call

/-- The record of a server stream behind the check for a truncated message. -/
def checkStream (call : GrpcCall) : GrpcCall :=
  if call.streamTruncated then { call with malformedResponseFrame := true } else call

end GrpcCall

/-- The error text of the connection that a call points at. -/
def World.detailOf (w : World) (c : CallId) : Option ErrorDetail :=
  match (w.calls c).call.connection with
  | some k => (w.conns k).lastErrorDetail
  | none => none

theorem World.detailOf_congr {w w' : World} {c : CallId}
    (hconn : (w'.calls c).call.connection = (w.calls c).call.connection)
    (hconns : w'.conns = w.conns) : w'.detailOf c = w.detailOf c := by
  unfold detailOf
  rw [hconn, hconns]

namespace Proc

open World

theorem connectionDetail_some {c : CallId} {detail : Option ErrorDetail} {w w' : World}
    (h : connectionDetail c w = some (detail, w')) : w' = w ∧ detail = w.detailOf c := by
  obtain ⟨call, w₁, hcall, h⟩ := Exec.bind_some.mp h
  rw [Proc.call, Exec.get_bind_run] at hcall
  obtain ⟨rfl, rfl⟩ := Exec.pure_some.mp hcall
  cases hconn : (w.calls c).call.connection with
  | none =>
    simp only [hconn] at h
    obtain ⟨rfl, rfl⟩ := Exec.pure_some.mp h
    exact ⟨rfl, by rw [detailOf, hconn]⟩
  | some k =>
    simp only [hconn] at h
    obtain ⟨conn, w₂, hread, h⟩ := Exec.bind_some.mp h
    rw [Proc.conn, Exec.get_bind_run] at hread
    obtain ⟨rfl, rfl⟩ := Exec.pure_some.mp hread
    obtain ⟨rfl, rfl⟩ := Exec.pure_some.mp h
    exact ⟨rfl, by rw [detailOf, hconn]⟩

/-- The check of a driver changes the record of its call only. -/
theorem truncated_some {c : CallId} {b : Bool} {w w' : World} {u : Unit}
    (h : Exec.when b (input c .truncated) w = some (u, w')) :
    (w'.calls c).call = (if b then { (w.calls c).call with malformedResponseFrame := true }
      else (w.calls c).call) ∧ w'.conns = w.conns ∧ (w'.calls c).cancelled = (w.calls c).cancelled ∧
      (w'.calls c).deliveredMessages = (w.calls c).deliveredMessages := by
  obtain ⟨hb, hin⟩ | ⟨hb, rfl⟩ := Exec.when_some.mp h
  · obtain rfl := Exec.modify_some.mp hin
    rw [input_calls_self, if_pos hb]
    exact ⟨rfl, rfl, rfl, rfl⟩
  · rw [if_neg hb]
    exact ⟨rfl, rfl, rfl, rfl⟩

/-- The result of a unary call is read from its checked record. -/
theorem buildUnaryResult_report {k : ConnId} {c : CallId} {r : UnaryResult} {w w' : World}
    (h : buildUnaryResult k c w = some (r, w')) :
    r.status = resolveGrpcCallStatus (w.detailOf c) (w.calls c).call.checkUnary false ∧
      r.body = (w.calls c).call.responseQueue.head? ∧
      r.initialMetadata = (w.calls c).call.metadataMap false ∧
      r.trailingMetadata = (w.calls c).call.metadataMap true ∧
      r.outcome = attemptOutcomeFromCall (w.calls c).call.checkUnary.unaryTakeResponsePayload.2
        false := by
  obtain ⟨call, w₀, hcall, h⟩ := Exec.bind_some.mp h
  rw [Proc.call, Exec.get_bind_run] at hcall
  obtain ⟨rfl, rfl⟩ := Exec.pure_some.mp hcall
  obtain ⟨_, w₁, hwhen, h⟩ := Exec.bind_some.mp h
  obtain ⟨hcall₁, hconns₁, -, -⟩ := truncated_some hwhen
  obtain ⟨detail, w₂, hdetail, h⟩ := Exec.bind_some.mp h
  obtain ⟨rfl, rfl⟩ := connectionDetail_some hdetail
  obtain ⟨call₁, w₃, hread, h⟩ := Exec.bind_some.mp h
  rw [Proc.call, Exec.get_bind_run] at hread
  obtain ⟨rfl, rfl⟩ := Exec.pure_some.mp hread
  obtain ⟨call₂, w₄, hread, h⟩ := Exec.bind_some.mp h
  rw [Proc.call, Exec.get_bind_run] at hread
  obtain ⟨rfl, rfl⟩ := Exec.pure_some.mp hread
  obtain ⟨_, w₅, htake, h⟩ := Exec.bind_some.mp h
  obtain rfl := Exec.modify_some.mp htake
  obtain ⟨call₃, w₆, hread, h⟩ := Exec.bind_some.mp h
  rw [Proc.call, Exec.get_bind_run] at hread
  obtain ⟨rfl, rfl⟩ := Exec.pure_some.mp hread
  obtain ⟨_, w₇, -, h⟩ := Exec.bind_some.mp h
  obtain ⟨_, w₈, -, h⟩ := Exec.bind_some.mp h
  obtain ⟨_, w₉, -, h⟩ := Exec.bind_some.mp h
  obtain ⟨rfl, rfl⟩ := Exec.pure_some.mp h
  have hchecked : (w₂.calls c).call = (w.calls c).call.checkUnary := hcall₁
  have hdetail : w₂.detailOf c = w.detailOf c := by
    refine detailOf_congr ?_ hconns₁
    rw [hcall₁]
    split <;> rfl
  have hkept : ∀ {α : Type} (f : GrpcCall → α),
      (∀ call : GrpcCall, f { call with malformedResponseFrame := true } = f call) →
      f (w.calls c).call.checkUnary = f (w.calls c).call := by
    intro α f hf
    unfold GrpcCall.checkUnary
    split
    · exact hf _
    · rfl
  have htaken : ∀ (call : GrpcCall) (trailing : Bool),
      (call.apply .take).metadataMap trailing = call.metadataMap trailing := by
    intro call trailing
    simp only [GrpcCall.apply, GrpcCall.unaryTakeResponsePayload]
    cases call.responseQueue <;> rfl
  have hfirst : ∀ call : GrpcCall, call.unaryTakeResponsePayload.1 = call.responseQueue.head? := by
    intro call
    simp only [GrpcCall.unaryTakeResponsePayload]
    cases call.responseQueue <;> rfl
  refine ⟨?_, ?_, ?_, ?_, ?_⟩
  · rw [hdetail, hchecked]
  · rw [hfirst, hchecked, hkept GrpcCall.responseQueue fun _ => rfl]
  · rw [input_calls_self]
    exact (htaken _ false).trans (by rw [hchecked]; exact hkept (·.metadataMap false) fun _ => rfl)
  · rw [input_calls_self]
    exact (htaken _ true).trans (by rw [hchecked]; exact hkept (·.metadataMap true) fun _ => rfl)
  · rw [input_calls_self, ← hchecked]
    rfl

/-- The end of a server stream is read from its checked record. -/
theorem finishStream_report {c : CallId} {r : NextResult} {w w' : World}
    (h : finishStream c w = some (r, w')) :
    r = .done
      (resolveGrpcCallStatus (w.detailOf c) (w.calls c).call.checkStream (w.calls c).cancelled)
      ((w.calls c).call.metadataMap false) ((w.calls c).call.metadataMap true)
      (attemptOutcomeFromCall (w.calls c).call.checkStream
        (decide ((w.calls c).deliveredMessages > 0))) := by
  obtain ⟨call, w₀, hcall, h⟩ := Exec.bind_some.mp h
  rw [Proc.call, Exec.get_bind_run] at hcall
  obtain ⟨rfl, rfl⟩ := Exec.pure_some.mp hcall
  obtain ⟨_, w₁, hwhen, h⟩ := Exec.bind_some.mp h
  obtain ⟨hcall₁, hconns₁, hcancelled₁, hdelivered₁⟩ := truncated_some hwhen
  obtain ⟨_, w₂, hmark, h⟩ := Exec.bind_some.mp h
  obtain rfl := Exec.modify_some.mp hmark
  obtain ⟨tc, w₃, hread, h⟩ := Exec.bind_some.mp h
  rw [Proc.tracked, Exec.get_bind_run] at hread
  obtain ⟨rfl, rfl⟩ := Exec.pure_some.mp hread
  obtain ⟨detail, w₃, hdetail, h⟩ := Exec.bind_some.mp h
  obtain ⟨rfl, rfl⟩ := connectionDetail_some hdetail
  obtain ⟨_, w₄, -, h⟩ := Exec.bind_some.mp h
  obtain ⟨rfl, rfl⟩ := Exec.pure_some.mp h
  have hchecked : (w₁.calls c).call = (w.calls c).call.checkStream := hcall₁
  have hself : (w₁.setCall c fun tc => { tc with completed := true }).calls c =
      { w₁.calls c with completed := true } := Function.update_self ..
  have hdetail : (w₁.setCall c fun tc => { tc with completed := true }).detailOf c =
      w.detailOf c := by
    refine detailOf_congr ?_ hconns₁
    rw [hself]
    dsimp only
    rw [hcall₁]
    split <;> rfl
  have hmap : ∀ trailing, (w₁.calls c).call.metadataMap trailing =
      (w.calls c).call.metadataMap trailing := by
    intro trailing
    rw [hcall₁]
    split <;> rfl
  rw [hdetail, hself]
  dsimp only
  rw [hmap, hmap, hchecked, hcancelled₁, hdelivered₁]

end Proc

end GrpcLite
