import GrpcLite.Correctness.StreamDelivery
import GrpcLite.Refinement.Exchanges

/-!
# Runs of the streaming driver

Every complete sequence of pulls of an opened stream is a behaviour: what they have
recorded of the call is the schedule of that behaviour, and the messages and the
status code that they return are functions of it.
-/

namespace GrpcLite

namespace GrpcCall

/-! ## Schedules -/

/-- The call has nothing for its user and no reason to stop reading. -/
def Starved (call : GrpcCall) : Prop :=
  call.responseQueue = [] ∧ call.streamClosed = false ∧ call.validationFailed = false

/-- In front of every round the call is starved. -/
def Wants : GrpcCall → List (List CallInput) → Prop
  | _, [] => True
  | call, round :: rounds => call.Starved ∧ (call.applyAll round).Wants rounds

/-- A starved stream has nothing to pop. -/
theorem Starved.pops {call : GrpcCall} (h : call.Starved) : call.pops = [] := by
  rw [GrpcCall.pops, h.1]
  rfl

/-- A starved stream is drained already. -/
theorem Starved.drained {call : GrpcCall} (h : call.Starved) : call.drained = call := by
  rw [GrpcCall.drained, h.pops]
  rfl

/-- The rounds of one pull come first in the schedule. -/
theorem Wants.streamInputs {call : GrpcCall} {rounds : List (List CallInput)} (h : call.Wants rounds)
    (ending : List CallInput) (more : List (List CallInput)) :
    call.streamInputs ending (rounds ++ more) =
      rounds.flatten ++ (call.applyAll rounds.flatten).streamInputs ending more := by
  induction rounds generalizing call with
  | nil => rfl
  | cons round rounds ih =>
    rw [List.cons_append, GrpcCall.streamInputs, if_neg (by rw [h.1.2.1, h.1.2.2]; decide),
      h.1.pops, h.1.drained, ih h.2, List.flatten_cons, applyAll_append, List.nil_append,
      List.append_assoc]

/-- The round that ends the loop of a starved call. -/
theorem Starved.streamInputs {call : GrpcCall} (h : call.Starved) (ending : List CallInput) :
    call.streamInputs ending [] = ending ++ (call.applyAll ending).closing := by
  rw [GrpcCall.streamInputs, if_neg (by rw [h.2.1, h.2.2]; decide), h.pops, h.drained,
    List.nil_append]

/-- Behind a violated rule or a closed stream nothing more is read. -/
theorem streamInputs_over {call : GrpcCall}
    (h : call.validationFailed = true ∨ call.streamClosed = true) (ending : List CallInput)
    (rounds : List (List CallInput)) : call.streamInputs ending rounds = call.closing := by
  have hover : (call.validationFailed || call.streamClosed) = true := Bool.or_eq_true_iff.mpr h
  cases rounds <;> rw [streamInputs, if_pos hover]

/-- A failed response frees its queue at the end. -/
theorem closing_failed {call : GrpcCall} (h : call.validationFailed = true) :
    call.closing = [.freeQueue] := by
  rw [closing, if_pos h]

/-- A valid response without a queue has no end to come. -/
theorem closing_empty {call : GrpcCall} (h : call.validationFailed = false)
    (hqueue : call.responseQueue = []) : call.closing = [] := by
  rw [closing, if_neg (by rw [h]; decide), pops, hqueue]
  rfl

/-- A pop leaves everything but the queue. -/
theorem apply_dequeue {call : GrpcCall} {payload : Bytes} {rest : List Bytes}
    (hqueue : call.responseQueue = payload :: rest) :
    (call.apply .dequeue).responseQueue = rest ∧
      (call.apply .dequeue).validationFailed = call.validationFailed ∧
      (call.apply .dequeue).streamClosed = call.streamClosed := by
  have hpop : call.dequeueResponsePayload = some (payload, (call.apply .dequeue)) := by
    simp only [apply, dequeueResponsePayload, hqueue]
  simp only [dequeueResponsePayload, hqueue, Option.some.injEq, Prod.mk.injEq, true_and] at hpop
  rw [← hpop]
  exact ⟨rfl, rfl, rfl⟩

/-- The first pop and those behind it. -/
theorem pops_dequeue {call : GrpcCall} {payload : Bytes} {rest : List Bytes}
    (hqueue : call.responseQueue = payload :: rest) :
    call.pops = .dequeue :: (call.apply .dequeue).pops := by
  rw [pops, pops, (apply_dequeue hqueue).1, hqueue]
  rfl

/-- The first payload is dequeued before the end. -/
theorem closing_dequeue {call : GrpcCall} (h : call.validationFailed = false) {payload : Bytes}
    {rest : List Bytes} (hqueue : call.responseQueue = payload :: rest) :
    call.closing = .dequeue :: (call.apply .dequeue).closing := by
  have hvalid := (apply_dequeue hqueue).2.1.trans h
  rw [closing, closing, if_neg (by rw [h]; decide), if_neg (by rw [hvalid]; decide),
    pops_dequeue hqueue]

/-- A waiting message is returned first. -/
theorem streamInputs_dequeue {call : GrpcCall} (h : call.validationFailed = false) {payload : Bytes}
    {rest : List Bytes} (hqueue : call.responseQueue = payload :: rest) (ending : List CallInput)
    (rounds : List (List CallInput)) : call.streamInputs ending rounds =
      .dequeue :: (call.apply .dequeue).streamInputs ending rounds := by
  obtain ⟨-, hvalid, hclosed⟩ := apply_dequeue hqueue
  have hdrained : call.drained = (call.apply .dequeue).drained := by
    rw [drained, pops_dequeue hqueue]
    rfl
  by_cases hopen : call.streamClosed = true
  · rw [streamInputs_over (.inr hopen), streamInputs_over (.inr (hclosed.trans hopen)),
      closing_dequeue h hqueue]
  · have hgo : ¬(call.validationFailed || call.streamClosed) = true := by
      rw [h, Bool.false_or]
      exact hopen
    cases rounds with
    | nil =>
      rw [streamInputs, streamInputs, if_neg hgo, if_neg (by rw [hvalid, hclosed]; exact hgo),
        hdrained, pops_dequeue hqueue]
      rfl
    | cons round rounds =>
      rw [streamInputs, streamInputs, if_neg hgo, if_neg (by rw [hvalid, hclosed]; exact hgo),
        hdrained, pops_dequeue hqueue]
      rfl

/-- Only pops return messages. -/
theorem deliveredBy_nil {inputs : List CallInput} (h : ∀ i ∈ inputs, i.pops = false)
    (call : GrpcCall) : call.deliveredBy inputs = [] := by
  induction inputs generalizing call with
  | nil => rfl
  | cons i inputs ih =>
    rw [deliveredBy, h i List.mem_cons_self, ih fun j hj => h j (List.mem_cons_of_mem _ hj)]
    rfl

/-- What follows a reset of the stream leaves the code of a response that violates a rule. -/
theorem failedCode_after {call : GrpcCall} {inputs : List CallInput}
    (h : ∀ i ∈ inputs, i.ofSend = true ∨ i = .locallyCancelled) :
    (call.applyAll inputs).validationFailed = call.validationFailed ∧
      (call.applyAll inputs).failedCode = call.failedCode := by
  induction inputs generalizing call with
  | nil => exact ⟨rfl, rfl⟩
  | cons i inputs ih =>
    obtain ⟨hvalid, hcode⟩ := @ih (call.apply i) fun j hj => h j (List.mem_cons_of_mem _ hj)
    have hsame : (call.apply i).validationFailed = call.validationFailed ∧
        (call.apply i).failedCode = call.failedCode := by
      rcases h i List.mem_cons_self with hsend | rfl
      · cases i with
        | event ra answers event =>
          cases event with
          | closed code => exact ⟨rfl, rfl⟩
          | _ => cases hsend
        | unregistered | requestSent => exact ⟨rfl, rfl⟩
        | _ => cases hsend
      · exact ⟨rfl, rfl⟩
    exact ⟨hvalid.trans hsame.1, hcode.trans hsame.2⟩

end GrpcCall

namespace Proc

open World

/-! ## The rounds of a pull -/

/-- A completed call is marked and records nothing. -/
theorem markCompleted_calls {c : CallId} {w w' : World} {u : Unit}
    (h : markCompleted c w = some (u, w')) :
    w'.calls c = { w.calls c with completed := true } := by
  rw [Exec.modify_some.mp h]
  exact Function.update_self ..

/-- The check of the deadline leaves the calls alone. -/
theorem deadlinePassed_sameCalls (deadline : Nat) :
    Exec.Within SameCalls (deadlinePassed deadline) := by
  unfold deadlinePassed
  exact .ite (.bind (onEnv_sameCalls _) fun _ => .pure _) (.pure _)

/-- What a round leaves that ends the loop: if it is neither the deadline nor the connection, the
library has failed. -/
def EndsPull (ending : List CallInput) : Prop :=
  EndsLoop ending ∨ ∀ i ∈ ending, i.inRound = true

/-- The stream ended in a round. -/
def EndedRound (c : CallId) (w w' : World) : Prop :=
  ∃ ending, EndsPull ending ∧
    w'.calls c = { (w.calls c).inputAll ending with completed := true }

/-- Inputs of the last round come in front of its end. -/
theorem EndedRound.after {c : CallId} {w w₁ w' : World} {is : List CallInput}
    (his : ∀ i ∈ is, i.inEnding = true) (hcall : w₁.calls c = (w.calls c).inputAll is)
    (h : ∃ ending, EndsLoop ending ∧
      w'.calls c = { (w₁.calls c).inputAll ending with completed := true }) : EndedRound c w w' := by
  obtain ⟨ending, hends, hcall'⟩ := h
  exact ⟨is ++ ending, .inl (hends.after his), by rw [hcall', hcall, TrackedCall.inputAll_append]⟩

/-- A stream without a connection ends its loop. -/
theorem breakUnread_records {c : CallId} {w w' : World} {u : Unit}
    (h : breakUnread c w = some (u, w')) : ∃ ending, EndsLoop ending ∧
      w'.calls c = { (w.calls c).inputAll ending with completed := true } := by
  obtain ⟨_, w₁, hnote, hmark⟩ := Exec.bind_some.mp h
  obtain ⟨errno, detail, hcall⟩ := noteConnectionBroken_records hnote
  refine ⟨[.connectionBroken errno detail], .broken errno detail, ?_⟩
  rw [markCompleted_calls hmark, hcall]

/-- A connection that dies under a stream ends its loop. -/
theorem breakStream_records {k : ConnId} {c : CallId} {errorCode : Int} {go : Bool} {w w' : World}
    (h : breakStream k c errorCode w = some (go, w')) : go = false ∧ ∃ ending, EndsLoop ending ∧
      w'.calls c = { (w.calls c).inputAll ending with completed := true } := by
  obtain ⟨_, w₁, hdie, h⟩ := Exec.bind_some.mp h
  obtain ⟨_, w₂, hnote, h⟩ := Exec.bind_some.mp h
  obtain ⟨_, w₃, hmark, h⟩ := Exec.bind_some.mp h
  obtain ⟨rfl, rfl⟩ := Exec.pure_some.mp h
  obtain ⟨errno, detail, hcall⟩ := noteConnectionBroken_records hnote
  refine ⟨rfl, [.connectionBroken errno detail], .broken errno detail, ?_⟩
  rw [markCompleted_calls hmark, hcall, show w₁.calls = w.calls from setConn_sameCalls k _ _ _ _ hdie]

/-- A deadline that passes ends the loop of its stream. -/
theorem expireStream_records {c : CallId} {go : Bool} {w w' : World}
    (h : expireStream c w = some (go, w')) : go = false ∧ ∃ ending, EndsLoop ending ∧
      w'.calls c = { (w.calls c).inputAll ending with completed := true } := by
  obtain ⟨_, w₁, hmark, h⟩ := Exec.bind_some.mp h
  obtain ⟨_, w₂, hcancel, h⟩ := Exec.bind_some.mp h
  obtain ⟨_, w₃, hend, h⟩ := Exec.bind_some.mp h
  obtain ⟨rfl, rfl⟩ := Exec.pure_some.mp h
  obtain ⟨now, hcall₁⟩ := markTimedOut_records hmark
  have hcancels : Exec.Within (Records fun i => i.ofSend = true ∨ i = .locallyCancelled)
      (cancelActiveServerStreamingCallState c) :=
    .bind ((tracked_sameCalls c).records _) fun tc => .ite (.pure _) (cancelGrpcCallStream_records c)
  obtain ⟨rest, hrest, hcall₂⟩ := hcancels _ _ _ hcancel c
  refine ⟨rfl, .timedOut now :: rest,
    .expired (fun i hi => CallInput.inEnding_of_cancel (hrest i hi)) now, ?_⟩
  rw [markCompleted_calls hend, hcall₂, hcall₁, ← TrackedCall.inputAll_append]
  rfl

/-- A read that ends the loop. -/
theorem endPullRead_records {k : ConnId} {c : CallId} {nread : Int} {go : Bool} {w w' : World}
    (h : endPullRead k c nread w = some (go, w')) : go = false ∧ EndedRound c w w' := by
  obtain ⟨late, w₁, hnote, h⟩ := Exec.bind_some.mp h
  obtain ⟨notes, hnotes, hcall₁⟩ := noteReadFailure_records k c nread _ _ _ hnote c
  have hkind : ∀ i ∈ notes, i.inEnding = true := fun i hi =>
    CallInput.inEnding_of_send (.inr (hnotes i hi))
  split at h
  · obtain ⟨hgo, hended⟩ := expireStream_records h
    exact ⟨hgo, .after hkind hcall₁ hended⟩
  · rw [Exec.get_bind_run] at h
    obtain ⟨hgo, hended⟩ := breakStream_records h
    exact ⟨hgo, .after hkind hcall₁ hended⟩

/-- A round of a pull: it records callbacks of an own read, or it ends the stream. -/
theorem pullRound_records {k : ConnId} {c : CallId} {go : Bool} {w w' : World}
    (h : pullRound k c w = some (go, w')) :
    (go = true ∧ ∃ is, (∀ i ∈ is, i.inRound = true ∧ i.ownReader = true) ∧
      w'.calls c = (w.calls c).inputAll is) ∨ (go = false ∧ EndedRound c w w') := by
  obtain ⟨conn, w₀, hconn, h⟩ := Exec.bind_some.mp h
  rw [Proc.conn, Exec.get_bind_run] at hconn
  obtain ⟨rfl, rfl⟩ := Exec.pure_some.mp hconn
  have hnone : ∀ i ∈ ([] : List CallInput), i.inEnding = true := fun _ hi =>
    absurd hi List.not_mem_nil
  split at h
  · obtain ⟨_, w₁, hbreak, h⟩ := Exec.bind_some.mp h
    obtain ⟨rfl, rfl⟩ := Exec.pure_some.mp h
    exact .inr ⟨rfl, .after hnone (TrackedCall.inputAll_nil _).symm (breakUnread_records hbreak)⟩
  obtain ⟨call, w₁, hcall, h⟩ := Exec.bind_some.mp h
  rw [Proc.call, Exec.get_bind_run] at hcall
  obtain ⟨rfl, rfl⟩ := Exec.pure_some.mp hcall
  obtain ⟨late, w₁, hlate, h⟩ := Exec.bind_some.mp h
  have hcalls₁ : w₁.calls = w.calls := deadlinePassed_sameCalls _ _ _ _ hlate
  have hcall₁ : w₁.calls c = (w.calls c).inputAll [] := by rw [hcalls₁, TrackedCall.inputAll_nil]
  split at h
  · obtain ⟨hgo, hended⟩ := expireStream_records h
    exact .inr ⟨hgo, .after hnone hcall₁ hended⟩
  obtain ⟨rv, w₂, hsend, h⟩ := Exec.bind_some.mp h
  split at h
  · obtain ⟨notes, hnotes, hcall₂⟩ := sendPendingH2Frames_allRecords k c _ _ _ hsend c
    obtain ⟨hgo, hended⟩ := breakStream_records h
    exact .inr ⟨hgo, .after (fun i hi => CallInput.inEnding_of_send (hnotes i hi))
      (hcalls₁ ▸ hcall₂) hended⟩
  next hrv =>
  obtain ⟨is, his, hcall₂⟩ := sendPendingH2Frames_records k _ _ _ _ hsend
    (Classical.not_not.mp hrv) c
  rw [hcalls₁] at hcall₂
  obtain ⟨_, w₃, hlog, h⟩ := Exec.bind_some.mp h
  obtain ⟨nread, w₄, hrecv, h⟩ := Exec.bind_some.mp h
  have hcall₄ : w₄.calls c = (w.calls c).inputAll is := by
    rw [show w₄.calls = w₂.calls from (onPort_sameCalls k _ _ _ _ hrecv).trans
      (log_sameCalls k _ _ _ _ hlog), hcall₂]
  split at h
  · obtain ⟨hgo, ending, hends, hcall'⟩ := endPullRead_records h
    refine .inr ⟨hgo, is ++ ending, hends.imp (·.after fun i hi => CallInput.inEnding_of_inRound
      (CallInput.inRound_of_ofSend (his i hi))) fun hround i hi => ?_, ?_⟩
    · exact (List.mem_append.mp hi).elim (fun hi => CallInput.inRound_of_ofSend (his i hi))
        (hround i)
    · rw [hcall', hcall₄, TrackedCall.inputAll_append]
  obtain ⟨rv', w₅, hfeed, h⟩ := Exec.bind_some.mp h
  obtain ⟨js, hjs, hcall₅⟩ := feedSession_records hfeed
  rw [hcall₄, ← TrackedCall.inputAll_append] at hcall₅
  have hround : ∀ i ∈ is ++ js, i.inRound = true ∧ i.ownReader = true := by
    intro i hi
    rcases List.mem_append.mp hi with hi | hi
    · exact ⟨CallInput.inRound_of_ofSend (his i hi), CallInput.ownReader_of_ofSend (his i hi)⟩
    · exact ⟨CallInput.inRound_of_ofFeed (hjs i hi).1, (hjs i hi).2⟩
  split at h
  · -- the library has failed
    obtain ⟨_, w₆, hdie, h⟩ := Exec.bind_some.mp h
    obtain ⟨_, w₇, hmark, h⟩ := Exec.bind_some.mp h
    obtain ⟨rfl, rfl⟩ := Exec.pure_some.mp h
    refine .inr ⟨rfl, is ++ js, .inr fun i hi => (hround i hi).1, ?_⟩
    rw [markCompleted_calls hmark, show w₆.calls = w₅.calls from setConn_sameCalls k _ _ _ _ hdie,
      hcall₅]
  obtain ⟨rv'', w₆, hflush, h⟩ := Exec.bind_some.mp h
  split at h
  · obtain ⟨notes, hnotes, hcall₆⟩ := flushAfterRead_allRecords k c _ _ _ hflush c
    rw [hcall₅, ← TrackedCall.inputAll_append] at hcall₆
    obtain ⟨hgo, hended⟩ := breakStream_records h
    refine .inr ⟨hgo, .after (fun i hi => ?_) hcall₆ hended⟩
    exact (List.mem_append.mp hi).elim (fun hi => CallInput.inEnding_of_inRound (hround i hi).1)
      fun hi => CallInput.inEnding_of_send (hnotes i hi)
  · next hrv' =>
    obtain ⟨rfl, rfl⟩ := Exec.pure_some.mp h
    obtain ⟨ks, hks, hcall₆⟩ := flushAfterRead_records k c _ _ _ hflush
      (Classical.not_not.mp hrv') c
    rw [hcall₅, ← TrackedCall.inputAll_append] at hcall₆
    refine .inl ⟨rfl, is ++ js ++ ks, fun i hi => ?_, hcall₆⟩
    rcases List.mem_append.mp hi with hi | hi
    · exact hround i hi
    · exact ⟨CallInput.inRound_of_ofSend (hks i hi), CallInput.ownReader_of_ofSend (hks i hi)⟩

/-- The loop of a pull: rounds in front of which the call is starved, and then a call that is not
starved any more or a round that ends the stream. -/
structure LoopRan (c : CallId) (w w' : World) (rounds : List (List CallInput)) : Prop where
  /-- The rounds bring callbacks of own reads. -/
  own : ∀ round ∈ rounds, ∀ i ∈ round, i.inRound = true ∧ i.ownReader = true
  /-- They are wanted. -/
  wants : (w.calls c).call.Wants rounds
  /-- The loop ends. -/
  ends : (w'.calls c = (w.calls c).inputAll rounds.flatten ∧ ¬(w'.calls c).call.Starved) ∨
    ((w.calls c).call.applyAll rounds.flatten).Starved ∧ ∃ ending, EndsPull ending ∧
      w'.calls c = { (w.calls c).inputAll (rounds.flatten ++ ending) with completed := true }

/-- An active stream wants to read exactly when it is starved. -/
theorem starved_of_wantsRead {tc : TrackedCall} (h : tc.completed = false) :
    tc.wantsRead = true ↔ tc.call.Starved := by
  rw [TrackedCall.wantsRead, GrpcCall.Starved, h]
  simp only [Bool.and_eq_true, List.isEmpty_iff, Bool.not_eq_true', Bool.not_false, and_true,
    and_assoc]

/-- The loop of an active stream runs whole rounds up to its end. -/
theorem pullLoop_records {c : CallId} (fuel : Nat) {w w' : World} {u : Unit}
    (h : pullLoop c fuel w = some (u, w')) (hactive : (w.calls c).completed = false) :
    ∃ rounds, LoopRan c w w' rounds := by
  induction fuel generalizing w with
  | zero => exact (Exec.block_some.mp h).elim
  | succ fuel ih =>
    obtain ⟨tc, w₁, hread, h⟩ := Exec.bind_some.mp h
    rw [Proc.tracked, Exec.get_bind_run] at hread
    obtain ⟨rfl, rfl⟩ := Exec.pure_some.mp hread
    have hstarved := starved_of_wantsRead hactive
    have hlast (hwant : (w.calls c).call.Starved) (hended : EndedRound c w w') :
        ∃ rounds, LoopRan c w w' rounds := by
      obtain ⟨ending, hends, hcall⟩ := hended
      exact ⟨[], fun _ hr => absurd hr List.not_mem_nil, trivial, .inr ⟨hwant, ending, hends, hcall⟩⟩
    split at h
    · next hwant =>
      obtain ⟨-, rfl⟩ := Exec.pure_some.mp h
      refine ⟨[], fun _ hr => absurd hr List.not_mem_nil, trivial, .inl ⟨?_, ?_⟩⟩
      · exact (TrackedCall.inputAll_nil _).symm
      · rw [← hstarved]
        simpa using hwant
    next hwant =>
    have hwant : (w.calls c).call.Starved := hstarved.mp (by simpa using hwant)
    cases hconn : (w.calls c).call.connection with
    | none =>
      simp only [hconn] at h
      exact hlast hwant (.after (fun _ hi => absurd hi List.not_mem_nil)
        (TrackedCall.inputAll_nil _).symm (breakUnread_records h))
    | some k =>
      simp only [hconn] at h
      obtain ⟨go, w₁, hround, h⟩ := Exec.bind_some.mp h
      rcases pullRound_records hround with ⟨rfl, is, his, hcall⟩ | ⟨rfl, hended⟩
      · rw [if_pos rfl] at h
        obtain ⟨rounds, hran⟩ := ih h (by rw [hcall]; exact hactive)
        have hcall' : (w₁.calls c).call = (w.calls c).call.applyAll is := by rw [hcall]; rfl
        refine ⟨is :: rounds, List.forall_mem_cons.mpr ⟨his, hran.own⟩, ⟨hwant, ?_⟩, ?_⟩
        · rw [← hcall']
          exact hran.wants
        · have hflat (more : List CallInput) :
              (w₁.calls c).inputAll more = (w.calls c).inputAll (is ++ more) := by
            rw [hcall, TrackedCall.inputAll_append]
          rw [List.flatten_cons, GrpcCall.applyAll_append, ← hcall', ← hflat]
          refine hran.ends.imp_right ?_
          rintro ⟨hlast, ending, hends, hcall⟩
          refine ⟨hlast, ending, hends, ?_⟩
          rw [hcall, hflat, List.append_assoc]
      · rw [if_neg Bool.false_ne_true] at h
        obtain ⟨-, rfl⟩ := Exec.pure_some.mp h
        exact hlast hwant hended

/-- On a completed stream nothing is read. -/
theorem pullLoop_completed {c : CallId} (fuel : Nat) {w w' : World} {u : Unit}
    (h : pullLoop c fuel w = some (u, w')) (hdone : (w.calls c).completed = true) : w' = w := by
  cases fuel with
  | zero => exact (Exec.block_some.mp h).elim
  | succ fuel =>
    obtain ⟨tc, w₁, hread, h⟩ := Exec.bind_some.mp h
    rw [Proc.tracked, Exec.get_bind_run] at hread
    obtain ⟨rfl, rfl⟩ := Exec.pure_some.mp hread
    have hno : (w.calls c).wantsRead = false := by simp [TrackedCall.wantsRead, hdone]
    rw [if_pos (by simp only [hno, Bool.not_false])] at h
    exact (Exec.pure_some.mp h).2.symm

/-! ## What a pull returns -/

/-- What ends a stream adds to its record: accounts, the mark of a message that was cut off and
what a send can bring. -/
def Epilogue (i : CallInput) : Prop := i.accounts = true ∨ i = .truncated ∨ i.ofSend = true

/-- The end of a stream notes a truncated message at most. -/
theorem finishStream_records {c : CallId} {r : NextResult} {w w' : World}
    (h : finishStream c w = some (r, w')) :
    ∃ post, (∀ i ∈ post, Epilogue i) ∧ (w'.calls c).inputs = (w.calls c).inputs ++ post := by
  obtain ⟨call, w₀, hcall, h⟩ := Exec.bind_some.mp h
  rw [Proc.call, Exec.get_bind_run] at hcall
  obtain ⟨rfl, rfl⟩ := Exec.pure_some.mp hcall
  obtain ⟨_, w₁, hwhen, h⟩ := Exec.bind_some.mp h
  obtain ⟨_, w₂, hmark, h⟩ := Exec.bind_some.mp h
  obtain ⟨tc, w₃, hread, h⟩ := Exec.bind_some.mp h
  rw [Proc.tracked, Exec.get_bind_run] at hread
  obtain ⟨rfl, rfl⟩ := Exec.pure_some.mp hread
  obtain ⟨detail, w₄, hdetail, h⟩ := Exec.bind_some.mp h
  obtain ⟨rfl, rfl⟩ := connectionDetail_some hdetail
  obtain ⟨_, w₅, hclear, h⟩ := Exec.bind_some.mp h
  obtain ⟨-, rfl⟩ := Exec.pure_some.mp h
  obtain ⟨is, his, hcall₁⟩ := Exec.Within.when (R := Records Epilogue)
    (fun _ => input_records c (.inr (.inl rfl))) _ _ _ hwhen c
  have hclears : Exec.Within (Records Epilogue) (clearConnectionServerStreamingCallStateOwner c) := by
    refine .bind ((call_sameCalls c).records _) fun call => ?_
    cases call.connection with
    | none => exact .pure _
    | some k =>
      refine .bind ((detachUnlessUsable_sameCalls c).records _) fun _ =>
        .bind (unregisterGrpcCallStream_records c (.inl rfl)) fun _ => .bind ?_ fun _ =>
        (destroyDetachedConnectionIfUnowned_sameCalls k).records _
      refine .bind ((call_sameCalls c).records _) fun _ => .bind (.when fun _ => ?_) fun _ =>
        input_records c (.inl rfl)
      exact (setConn_sameCalls k _).records _
  obtain ⟨js, hjs, hcall₂⟩ := hclears _ _ _ hclear c
  refine ⟨is ++ js, fun i hi => (List.mem_append.mp hi).elim (his i) (hjs i), ?_⟩
  rw [hcall₂, TrackedCall.inputAll, markCompleted_calls hmark, hcall₁]
  exact List.append_assoc _ _ _

/-- Behind a violated rule the queue is freed and the stream reset. -/
theorem terminateWithCancel_records {c : CallId} {w w' : World} {u : Unit}
    (h : terminateWithCancel c w = some (u, w')) :
    ∃ after, (∀ i ∈ after, i.ofSend = true ∨ i = .locallyCancelled) ∧
      w'.calls c = { (w.calls c).inputAll (.freeQueue :: after) with completed := true } := by
  obtain ⟨_, w₁, hfree, h⟩ := Exec.bind_some.mp h
  obtain ⟨_, w₂, hcancel, h⟩ := Exec.bind_some.mp h
  obtain ⟨_, w₃, hdetach, hmark⟩ := Exec.bind_some.mp h
  obtain ⟨after, hafter, hcall⟩ := cancelGrpcCallStream_records c _ _ _ hcancel c
  refine ⟨after, hafter, ?_⟩
  rw [markCompleted_calls hmark, show w₃.calls = w₂.calls from detachUnlessUsable_sameCalls c _ _ _
    hdetach, hcall, Exec.modify_some.mp hfree, input_calls_self,
    show (.freeQueue :: after : List CallInput) = [.freeQueue] ++ after from rfl,
    TrackedCall.inputAll_append]
  rfl

/-- The end of a stream: its record, and the status code that it reports. -/
structure Finished (c : CallId) (w w' : World) (inputs : List CallInput) (status : StatusResult) :
    Prop where
  /-- The record of the call. -/
  record : ∃ post, (∀ i ∈ post, Epilogue i) ∧
    (w'.calls c).inputs = (w.calls c).inputs ++ (inputs ++ post)
  /-- The status code follows from it. -/
  code : status.code = statusCodeFromCall ((w.calls c).call.applyAll inputs).checkStream false

/-- What a pull does behind its loop. -/
inductive Returned (c : CallId) (w w' : World) : NextResult → Prop
  /-- The stream ends. -/
  | finished (status : StatusResult) (initialMetadata trailingMetadata : List (Bytes × Bytes))
    (outcome : AttemptOutcome)
    (hqueue : (w.calls c).call.validationFailed = false → (w.calls c).call.responseQueue = [])
    (h : Finished c w w' (w.calls c).call.closing status) :
    Returned c w w' (.done status initialMetadata trailingMetadata outcome)
  /-- A message is returned. -/
  | popped (payload : Bytes) (rest : List Bytes) (initialMetadata : List (Bytes × Bytes))
    (hvalid : (w.calls c).call.validationFailed = false)
    (hqueue : (w.calls c).call.responseQueue = payload :: rest)
    (hcall : (w'.calls c).call = (w.calls c).call.apply .dequeue)
    (hinputs : (w'.calls c).inputs = (w.calls c).inputs ++ [.dequeue])
    (hcompleted : (w'.calls c).completed = (w.calls c).completed)
    (hcancelled : (w'.calls c).cancelled = (w.calls c).cancelled) :
    Returned c w w' (.message payload initialMetadata)

/-- A pull is its loop and what comes behind it. -/
theorem next_returned {c : CallId} {r : NextResult} {w w' : World}
    (h : serverStreamingCallNextResource c w = some (r, w')) :
    ∃ fuel u w₁, pullLoop c fuel w = some (u, w₁) ∧
      ((w₁.calls c).cancelled = false → Returned c w₁ w' r) := by
  rw [serverStreamingCallNextResource, Exec.get_bind_run] at h
  obtain ⟨u, w₁, hloop, h⟩ := Exec.bind_some.mp h
  refine ⟨_, u, w₁, hloop, fun hcalm => ?_⟩
  obtain ⟨call, w₂, hcall, h⟩ := Exec.bind_some.mp h
  rw [Proc.call, Exec.get_bind_run] at hcall
  obtain ⟨rfl, rfl⟩ := Exec.pure_some.mp hcall
  obtain ⟨_, w₂, hwhen, h⟩ := Exec.bind_some.mp h
  obtain ⟨call, w₃, hcall, h⟩ := Exec.bind_some.mp h
  rw [Proc.call, Exec.get_bind_run] at hcall
  obtain ⟨rfl, rfl⟩ := Exec.pure_some.mp hcall
  obtain ⟨hvalid, hterm⟩ | ⟨hvalid, rfl⟩ := Exec.when_some.mp hwhen
  · obtain ⟨_, w₃, hterm, hdetach⟩ := Exec.bind_some.mp hterm
    obtain ⟨after, hafter, hcall₃⟩ := terminateWithCancel_records hterm
    have hcalls₂ : w₂.calls = w₃.calls := detachUnlessUsable_sameCalls c _ _ _ hdetach
    rw [← hcalls₂] at hcall₃
    have hqueue : (w₂.calls c).call.responseQueue = [] := by
      obtain ⟨_, w₄, hfree, hterm⟩ := Exec.bind_some.mp hterm
      obtain ⟨_, w₅, hcancel, hterm⟩ := Exec.bind_some.mp hterm
      have hquiet : (w₄.calls c).call.responseQueue = [] := by
        rw [Exec.modify_some.mp hfree, input_calls_self]
        rfl
      rw [hcalls₂]
      refine Exec.Within.bind (detachUnlessUsable_sameCalls c).hushed
        (fun _ => markCompleted_hushed c) _ _ _ hterm c ?_
      exact cancelGrpcCallStream_hushed c _ _ _ hcancel c hquiet
    simp only [hqueue] at h
    have hreport := finishStream_report h
    obtain ⟨post, hpost, hinputs⟩ := finishStream_records h
    subst hreport
    refine .finished _ _ _ _ (fun hfine => absurd (hfine.symm.trans hvalid) Bool.false_ne_true)
      ⟨⟨after ++ post, ?_, ?_⟩, ?_⟩
    · intro i hi
      rcases List.mem_append.mp hi with hi | hi
      · rcases hafter i hi with hsend | rfl
        · exact .inr (.inr hsend)
        · exact .inl rfl
      · exact hpost i hi
    · rw [hinputs, hcall₃, GrpcCall.closing_failed hvalid]
      exact List.append_assoc _ _ _
    · -- What follows the violated rule does not count.
      have hfreed : ((w₁.calls c).call.applyAll [.freeQueue]).validationFailed = true := hvalid
      obtain ⟨hsame, hcode⟩ :=
        @GrpcCall.failedCode_after ((w₁.calls c).call.applyAll [.freeQueue]) after hafter
      have hcall₂ : (w₂.calls c).call = ((w₁.calls c).call.applyAll [.freeQueue]).applyAll after := by
        rw [hcall₃]
        exact GrpcCall.applyAll_append _ [.freeQueue] after
      have hcancelled : (w₂.calls c).cancelled = false := by
        rw [hcall₃]
        exact hcalm
      change statusCodeFromCall (w₂.calls c).call.checkStream (w₂.calls c).cancelled = _
      rw [GrpcCall.closing_failed hvalid, hcancelled, hcall₂,
        GrpcCall.statusCode_checkStream (hsame.trans hfreed), hcode,
        GrpcCall.statusCode_checkStream hfreed]
  · have hvalid : (w₁.calls c).call.validationFailed = false := by simpa using hvalid
    cases hqueue : (w₁.calls c).call.responseQueue with
    | nil =>
      simp only [hqueue] at h
      have hreport := finishStream_report h
      obtain ⟨post, hpost, hinputs⟩ := finishStream_records h
      subst hreport
      refine .finished _ _ _ _ (fun _ => hqueue) ⟨⟨post, hpost, ?_⟩, ?_⟩
      · rw [hinputs, GrpcCall.closing_empty hvalid hqueue, List.nil_append]
      · rw [GrpcCall.closing_empty hvalid hqueue]
        change statusCodeFromCall (w₁.calls c).call.checkStream (w₁.calls c).cancelled = _
        rw [hcalm]
        rfl
    | cons payload rest =>
      simp only [hqueue] at h
      obtain ⟨_, w₂, hin, h⟩ := Exec.bind_some.mp h
      obtain ⟨_, w₃, hset, h⟩ := Exec.bind_some.mp h
      obtain ⟨tc, w₄, hread, h⟩ := Exec.bind_some.mp h
      rw [Proc.tracked, Exec.get_bind_run] at hread
      obtain ⟨rfl, rfl⟩ := Exec.pure_some.mp hread
      obtain ⟨rfl, rfl⟩ := Exec.pure_some.mp h
      have hcall₂ : w₂.calls c = (w₁.calls c).input .dequeue := by
        rw [Exec.modify_some.mp hin, input_calls_self]
      have hcall₃ : w₃.calls c = { (w₁.calls c).input .dequeue with
          deliveredMessages := (w₁.calls c).deliveredMessages + 1
          delivered := (w₁.calls c).delivered ++ [payload] } := by
        rw [Exec.modify_some.mp hset, ← hcall₂]
        refine (Function.update_self ..).trans ?_
        rw [hcall₂]
        rfl
      exact .popped payload rest _ hvalid hqueue (by rw [hcall₃]; rfl) (by rw [hcall₃]; rfl)
        (by rw [hcall₃]; rfl) (by rw [hcall₃]; rfl)

/-! ## Complete sequences of pulls -/

/-- Pulls of a stream until its end, with the messages and the status that they return. Whatever
happens between two of them leaves the call alone. -/
inductive Pulls (c : CallId) : World → List Bytes → StatusResult → World → Prop
  /-- The end of the stream. -/
  | done {w w' : World} {status : StatusResult} {initialMetadata trailingMetadata : List (Bytes × Bytes)}
      {outcome : AttemptOutcome} (h : serverStreamingCallNextResource c w =
        some (.done status initialMetadata trailingMetadata outcome, w')) : Pulls c w [] status w'
  /-- A message, and the pulls behind it. -/
  | message {w w₁ w₂ w' : World} {payload : Bytes} {initialMetadata : List (Bytes × Bytes)}
      {payloads : List Bytes} {status : StatusResult}
      (h : serverStreamingCallNextResource c w = some (.message payload initialMetadata, w₁))
      (hcall : w₂.calls c = w₁.calls c) (hrest : Pulls c w₂ payloads status w') :
    Pulls c w (payload :: payloads) status w'

/-- The record, the messages and the status code of a complete sequence of pulls. -/
structure Pulled (c : CallId) (w w' : World) (inputs : List CallInput) (payloads : List Bytes)
    (status : StatusResult) : Prop extends Finished c w w' inputs status where
  /-- The messages are those that the pops of the record return. -/
  payloads : payloads = (w.calls c).call.deliveredBy inputs

/-- Inputs without a pop come in front of the pulls. -/
theorem Pulled.after {c : CallId} {w w₁ w' : World} {is inputs : List CallInput}
    {payloads : List Bytes} {status : StatusResult} (h : Pulled c w₁ w' inputs payloads status)
    (hpops : ∀ i ∈ is, i.pops = false) (hcall : (w₁.calls c).call = (w.calls c).call.applyAll is)
    (hinputs : (w₁.calls c).inputs = (w.calls c).inputs ++ is) :
    Pulled c w w' (is ++ inputs) payloads status := by
  obtain ⟨⟨⟨post, hpost, hrecord⟩, hcode⟩, hpayloads⟩ := h
  refine ⟨⟨⟨post, hpost, ?_⟩, ?_⟩, ?_⟩
  · rw [hrecord, hinputs, List.append_assoc, List.append_assoc]
  · rw [hcode, hcall, GrpcCall.applyAll_append]
  · rw [hpayloads, hcall, GrpcCall.deliveredBy_append, GrpcCall.deliveredBy_nil hpops,
      List.nil_append]

/-- A pull that returns a queued payload comes in front of the others. -/
theorem Pulled.message {c : CallId} {w w₁ w' : World} {inputs : List CallInput}
    {payloads rest : List Bytes} {payload : Bytes} {status : StatusResult}
    (h : Pulled c w₁ w' inputs payloads status)
    (hqueue : (w.calls c).call.responseQueue = payload :: rest)
    (hcall : (w₁.calls c).call = (w.calls c).call.apply .dequeue)
    (hinputs : (w₁.calls c).inputs = (w.calls c).inputs ++ [.dequeue]) :
    Pulled c w w' (.dequeue :: inputs) (payload :: payloads) status := by
  obtain ⟨⟨⟨post, hpost, hrecord⟩, hcode⟩, hpayloads⟩ := h
  refine ⟨⟨⟨post, hpost, ?_⟩, ?_⟩, ?_⟩
  · rw [hrecord, hinputs, List.append_assoc]
    rfl
  · rw [hcode, hcall]
    rfl
  · rw [hpayloads, hcall, GrpcCall.deliveredBy, hqueue]
    rfl

/-- A schedule that belongs to pulls of a stream that has not ended yet. -/
def Scheduled (c : CallId) (w w' : World) (payloads : List Bytes) (status : StatusResult) : Prop :=
  ∃ rounds ending, (∀ round ∈ rounds, ∀ i ∈ round, i.inRound = true ∧ i.ownReader = true) ∧
    EndsPull ending ∧
    Pulled c w w' ((w.calls c).call.streamInputs ending rounds) payloads status

/-- Neither callbacks nor notes return messages. -/
theorem pops_of_inRound {i : CallInput} (h : i.inRound = true) : i.pops = false := by
  cases i with
  | dequeue | take => cases h
  | _ => rfl

/-- The end of a loop pops nothing. -/
theorem pops_of_inEnding {i : CallInput} (h : i.inEnding = true) : i.pops = false := by
  cases i with
  | dequeue | take => cases h
  | _ => rfl

/-- The end of a pull pops nothing. -/
theorem pops_of_endsPull {ending : List CallInput} (h : EndsPull ending) :
    ∀ i ∈ ending, i.pops = false := by
  rcases h with hends | hround
  · exact fun i hi => pops_of_inEnding (hends.kind i hi)
  · exact fun i hi => pops_of_inRound (hround i hi)

/-- What comes behind the loop of a pull is scheduled, and so is the whole pull. -/
theorem scheduled_of_loop {c : CallId} {fuel : Nat} {w w₁ w' : World} {u : Unit}
    {payloads : List Bytes} {status : StatusResult} (hloop : pullLoop c fuel w = some (u, w₁))
    (hover : (w₁.calls c).completed = true →
      Pulled c w₁ w' (w₁.calls c).call.closing payloads status)
    (hmore : (w₁.calls c).completed = false → ¬(w₁.calls c).call.Starved →
      Scheduled c w₁ w' payloads status) :
    ((w.calls c).completed = true → Pulled c w w' (w.calls c).call.closing payloads status) ∧
      ((w.calls c).completed = false → Scheduled c w w' payloads status) := by
  refine ⟨fun hdone => ?_, fun hactive => ?_⟩
  · obtain rfl := pullLoop_completed fuel hloop hdone
    exact hover hdone
  obtain ⟨rounds, hran⟩ := pullLoop_records fuel hloop hactive
  have hpops : ∀ i ∈ rounds.flatten, i.pops = false := by
    intro i hi
    obtain ⟨round, hround, hi⟩ := List.mem_flatten.mp hi
    exact pops_of_inRound (hran.own round hround i hi).1
  rcases hran.ends with ⟨hcall, hsated⟩ | ⟨hstarved, ending, hends, hcall⟩
  · obtain ⟨more, ending, hown, hends, hpulled⟩ := hmore (by rw [hcall]; exact hactive) hsated
    refine ⟨rounds ++ more, ending, fun round hr => ?_, hends, ?_⟩
    · exact (List.mem_append.mp hr).elim (hran.own round) (hown round)
    · rw [hran.wants.streamInputs]
      have hcall' : (w₁.calls c).call = (w.calls c).call.applyAll rounds.flatten := by
        rw [hcall]
        rfl
      rw [← hcall']
      exact hpulled.after hpops hcall' (by rw [hcall]; rfl)
  · refine ⟨rounds, ending, hran.own, hends, ?_⟩
    have hsame := hran.wants.streamInputs ending []
    rw [List.append_nil] at hsame
    rw [hsame, hstarved.streamInputs, ← List.append_assoc, ← GrpcCall.applyAll_append]
    have hcall' : (w₁.calls c).call =
        (w.calls c).call.applyAll (rounds.flatten ++ ending) := by
      rw [hcall]
      rfl
    rw [← hcall']
    refine (hover (by rw [hcall])).after (fun i hi => ?_) hcall' (by rw [hcall]; rfl)
    exact (List.mem_append.mp hi).elim (hpops i) (pops_of_endsPull hends i)

/-- Every complete sequence of pulls is scheduled. -/
theorem Pulls.scheduled {c : CallId} {w w' : World} {payloads : List Bytes} {status : StatusResult}
    (h : Pulls c w payloads status w') (hcalm : (w.calls c).cancelled = false) :
    ((w.calls c).completed = true → Pulled c w w' (w.calls c).call.closing payloads status) ∧
      ((w.calls c).completed = false → Scheduled c w w' payloads status) := by
  have hkept {fuel : Nat} {w w₁ : World} {u : Unit} (hloop : pullLoop c fuel w = some (u, w₁))
      (hcalm : (w.calls c).cancelled = false) : (w₁.calls c).cancelled = false := by
    by_cases hdone : (w.calls c).completed = true
    · rw [pullLoop_completed fuel hloop hdone]
      exact hcalm
    · obtain ⟨rounds, hran⟩ := pullLoop_records fuel hloop (Bool.not_eq_true _ ▸ hdone)
      rcases hran.ends with ⟨hcall, -⟩ | ⟨-, ending, -, hcall⟩
      · rw [hcall]
        exact hcalm
      · rw [hcall]
        exact hcalm
  induction h with
  | @done w w' status _ _ _ h =>
    obtain ⟨fuel, u, w₁, hloop, hreturned⟩ := next_returned h
    cases hreturned (hkept hloop hcalm) with
    | finished _ _ _ _ hqueue hfinished =>
      have hpulled : Pulled c w₁ w' (w₁.calls c).call.closing [] status := by
        refine ⟨hfinished, ?_⟩
        by_cases hvalid : (w₁.calls c).call.validationFailed = true
        · rw [GrpcCall.closing_failed hvalid]
          rfl
        · have hvalid := Bool.not_eq_true _ ▸ hvalid
          rw [GrpcCall.closing_empty hvalid (hqueue hvalid)]
          rfl
      refine scheduled_of_loop hloop (fun _ => hpulled) fun _ hsated => ?_
      refine ⟨[], [.connectionBroken 0 none], fun _ hr => absurd hr List.not_mem_nil,
        .inl (.broken 0 none), ?_⟩
      rw [GrpcCall.streamInputs_over ?_]
      · exact hpulled
      · by_cases hvalid : (w₁.calls c).call.validationFailed = true
        · exact .inl hvalid
        · have hvalid := Bool.not_eq_true _ ▸ hvalid
          refine .inr ?_
          by_contra hopen
          exact hsated ⟨hqueue hvalid, Bool.not_eq_true _ ▸ hopen, hvalid⟩
  | message h hcall hrest ih =>
    obtain ⟨fuel, u, w₁, hloop, hreturned⟩ := next_returned h
    have hcalm₁ := hkept hloop hcalm
    cases hreturned hcalm₁ with
    | popped _ rest _ hvalid hqueue hpop hinputs hcompleted hcancelled =>
      rw [← hcall] at hpop hinputs hcompleted hcancelled
      obtain ⟨hover, hmore⟩ := ih (hcancelled.trans hcalm₁)
      refine scheduled_of_loop hloop (fun hdone => ?_) fun hactive _ => ?_
      · rw [GrpcCall.closing_dequeue hvalid hqueue, ← hpop]
        exact (hover (hcompleted.trans hdone)).message hqueue hpop hinputs
      · obtain ⟨rounds, ending, hown, hends, hpulled⟩ := hmore (hcompleted.trans hactive)
        refine ⟨rounds, ending, hown, hends, ?_⟩
        rw [GrpcCall.streamInputs_dequeue hvalid hqueue, ← hpop]
        exact hpulled.message hqueue hpop hinputs

/-! ## The run of a stream -/

/-- Opening a stream is a round of its own. -/
theorem openExchange_records {k : ConnId} {c c' : CallId} {w w' : World}
    (h : openExchange k c w = some (.ok (.opened c'), w')) : c' = c ∧
      ∃ is, (∀ i ∈ is, i.inRound = true ∧ i.ownReader = true) ∧
        w'.calls c = (w.calls c).inputAll is := by
  have hfail {code : Int} {details : SetupDetails} {w₁ : World}
      (h : failOpen c code details w₁ = some (.ok (.opened c'), w')) : False := by
    obtain ⟨_, w₂, -, h⟩ := Exec.bind_some.mp h
    cases (Exec.pure_some.mp h).1
  obtain ⟨rv, w₁, hsubmit, h⟩ := Exec.bind_some.mp h
  split at h
  · obtain ⟨_, w₂, -, h⟩ := Exec.bind_some.mp h
    exact (hfail h).elim
  obtain ⟨registered, w₂, hregister, h⟩ := Exec.bind_some.mp h
  split at h
  · obtain ⟨_, w₃, -, h⟩ := Exec.bind_some.mp h
    exact (hfail h).elim
  obtain ⟨rv', w₃, hsend, h⟩ := Exec.bind_some.mp h
  split at h
  · obtain ⟨call, w₄, -, h⟩ := Exec.bind_some.mp h
    obtain ⟨_, w₅, -, h⟩ := Exec.bind_some.mp h
    split at h
    · exact (hfail h).elim
    · exact (hfail h).elim
  next hrv =>
  obtain ⟨hresult, rfl⟩ := Exec.pure_some.mp h
  obtain ⟨is, his, hcall₂⟩ := trans_of (Records _) (submitRequest_records k c _ _ _ hsubmit)
    (registerGrpcCallStream_records k c _ _ _ hregister) c
  obtain ⟨js, hjs, hcall₃⟩ := sendPendingH2Frames_records k _ _ _ _ hsend
    (Classical.not_not.mp hrv) c
  refine ⟨OpenResult.opened.inj (Except.ok.inj hresult.symm), is ++ js, fun i hi => ?_, ?_⟩
  · rcases List.mem_append.mp hi with hi | hi
    · exact his i hi
    · exact ⟨CallInput.inRound_of_ofSend (hjs i hi), CallInput.ownReader_of_ofSend (hjs i hi)⟩
  · rw [hcall₃, hcall₂, TrackedCall.inputAll_append]

/-- An opened stream has been submitted and registered, and its first round may have been read. -/
theorem openOnConnection_records {k : ConnId} {req : CallRequest} {retryAttempt : Nat} {c : CallId}
    {w w' : World} (h : openOnConnection k req retryAttempt w = some (.ok (.opened c), w')) :
    ∃ is, (∀ i ∈ is, i.inRound = true ∧ i.ownReader = true) ∧
      w'.calls c = TrackedCall.inputAll
        { call := req.startCall k retryAttempt
          start := req.startCall k retryAttempt
          live := true } is := by
  obtain ⟨left, w₁, hleft, h⟩ := Exec.bind_some.mp h
  split at h
  · cases (Exec.pure_some.mp h).1
  obtain ⟨c', w₂, hnew, h⟩ := Exec.bind_some.mp h
  rw [newCall, Exec.get_bind_run] at hnew
  obtain ⟨_, w₃, hset, hnew⟩ := Exec.bind_some.mp hnew
  obtain ⟨rfl, rfl⟩ := Exec.pure_some.mp hnew
  obtain ⟨left', w₄, hleft', h⟩ := Exec.bind_some.mp h
  split at h
  · obtain ⟨_, w₅, -, h⟩ := Exec.bind_some.mp h
    cases (Exec.pure_some.mp h).1
  split at h
  · obtain ⟨_, w₅, -, h⟩ := Exec.bind_some.mp h
    cases (Exec.pure_some.mp h).1
  obtain ⟨rfl, is, his, hcall⟩ := openExchange_records h
  refine ⟨is, his, ?_⟩
  rw [hcall, show w₄.calls = w₃.calls from onEnv_sameCalls _ _ _ _ hleft', Exec.set_some.mp hset]
  exact congrArg (TrackedCall.inputAll · is) (Function.update_self ..)

/-- The record of a stream and what its pulls return belong to a behaviour. -/
structure StreamRun (start : GrpcCall) (record : List CallInput) (payloads : List Bytes)
    (status : StatusResult) (b : Behaviour) : Prop where
  /-- The last round ends the loop. -/
  ends : EndsPull b.ending
  /-- The pulls read for themselves. -/
  ownReads : b.OwnReads
  /-- The record is the schedule of the behaviour, followed by what ending the stream adds. -/
  record : ∃ post, (∀ i ∈ post, Epilogue i) ∧
    record = start.streamInputs b.ending b.rounds ++ post
  /-- The messages and the status code are functions of the behaviour. -/
  result : (payloads, status.code) = b.streamResult start

/-- Every stream that is opened and pulled until its end is a behaviour: the record of its call is
the schedule of the behaviour, and the messages and the status code that the pulls return are
functions of the behaviour. -/
theorem serverStreamingCall_run {k : ConnId} {req : CallRequest} {retryAttempt : Nat} {c : CallId}
    {w w₁ w₂ w' : World} {payloads : List Bytes} {status : StatusResult}
    (hopen : openOnConnection k req retryAttempt w = some (.ok (.opened c), w₁))
    (hcall : w₂.calls c = w₁.calls c) (hpulls : Pulls c w₂ payloads status w') :
    ∃ b, StreamRun (req.startCall k retryAttempt) (w'.calls c).inputs payloads status b := by
  obtain ⟨is, his, hcall₁⟩ := openOnConnection_records hopen
  rw [hcall₁] at hcall
  obtain ⟨rounds, ending, hown, hends, ⟨⟨post, hpost, hrecord⟩, hcode⟩, hpayloads⟩ :=
    (hpulls.scheduled (by rw [hcall]; rfl)).2 (by rw [hcall]; rfl)
  have hround : ∀ round ∈ is :: rounds, ∀ i ∈ round, i.inRound = true ∧ i.ownReader = true :=
    List.forall_mem_cons.mpr ⟨his, hown⟩
  have hstarved : (req.startCall k retryAttempt).Starved := ⟨rfl, rfl, rfl⟩
  -- opening the stream is the first round
  have hschedule : (req.startCall k retryAttempt).streamInputs ending (is :: rounds) =
      is ++ ((req.startCall k retryAttempt).applyAll is).streamInputs ending rounds := by
    rw [GrpcCall.streamInputs, if_neg (by rw [hstarved.2.1, hstarved.2.2]; decide), hstarved.pops,
      hstarved.drained, List.nil_append]
  rw [show (w₂.calls c).call = (req.startCall k retryAttempt).applyAll is by rw [hcall]; rfl]
    at hrecord hcode hpayloads
  refine ⟨⟨is :: rounds, ending, fun r hr i hi => (hround r hr i hi).1⟩, hends,
    fun r hr i hi => (hround r hr i hi).2, ⟨post, hpost, ?_⟩, ?_⟩
  · rw [hrecord, hcall, hschedule, List.append_assoc]
    rfl
  · rw [Behaviour.streamResult, Behaviour.streamEnd, hschedule, GrpcCall.deliveredBy_append,
      GrpcCall.deliveredBy_nil (fun i hi => pops_of_inRound (his i hi).1), List.nil_append,
      GrpcCall.applyAll_append, ← hpayloads, ← hcode]

/-- A stream on a new connection with two pulls. -/
private def pulledTwice : Proc (NextResult × NextResult) := do
  match ← getPersistentConnection [] 0 false with
  | .ok k =>
    match ← openOnConnection k { key := [] } 0 with
    | .ok (.opened c) => do
      let first ← serverStreamingCallNextResource c
      let second ← serverStreamingCallNextResource c
      return (first, second)
    | _ => Exec.block
  | .error _ => Exec.block

/-- A server that answers with a message, and with its status later. -/
private def streamingServer : Env :=
  World.exchangeWith [.sessionSend [] 0, .recv 10 0, .memRecv [
    .stream 1 (.header .response HeaderName.status (ascii ['2', '0', '0'])),
    .stream 1 (.header .response HeaderName.contentType (ascii "application/grpc".toList)),
    .stream 1 (.headersEnd .response false), .stream 1 (.data [0, 0, 0, 0, 1, 7])] 10,
    .wantWrite false, .sessionSend [] 0, .recv 10 0, .memRecv [
    .stream 1 (.header .headers HeaderName.grpcStatus (ascii ['5'])),
    .stream 1 (.headersEnd .headers true), .stream 1 (.closed 0)] 10, .wantWrite false]

/-- The message or the status code that a pull returns. -/
private def NextResult.outline : NextResult → Except Int Bytes
  | .message payload _ => .ok payload
  | .done status _ _ _ => .error status.code

/-- A stream that is answered at once is pulled to its end. -/
theorem serverStreamingCall_run_answered :
    ∃ k w c w₁ payloads status w' b, openOnConnection k { key := [] } 0 w =
        some (.ok (.opened c), w₁) ∧ Pulls c w₁ payloads status w' ∧
      (payloads, status.code) = ([[7]], 5) ∧
      StreamRun (({ key := [] } : CallRequest).startCall k 0) (w'.calls c).inputs payloads status
        b := by
  have hrun : (pulledTwice { env := streamingServer }).map
      (fun r => (NextResult.outline r.1.1, NextResult.outline r.1.2)) =
        some (.ok [7], .error 5) := by decide +kernel
  obtain ⟨⟨results, w'⟩, hrun, hresults⟩ := Option.map_eq_some_iff.mp hrun
  obtain ⟨conn, w, -, h⟩ := Exec.bind_some.mp hrun
  cases conn with
  | error => exact (Exec.block_some.mp h).elim
  | ok k =>
    obtain ⟨opened, w₁, hopen, h⟩ := Exec.bind_some.mp h
    rcases opened with failure | ⟨c⟩ | ⟨code, details⟩
    · exact (Exec.block_some.mp h).elim
    · obtain ⟨first, w₂, hfirst, h⟩ := Exec.bind_some.mp h
      obtain ⟨second, w₃, hsecond, h⟩ := Exec.bind_some.mp h
      obtain ⟨rfl, rfl⟩ := Exec.pure_some.mp h
      obtain ⟨hmessage, hdone⟩ := Prod.mk.inj hresults
      cases first with
      | done => cases hmessage
      | message payload =>
        cases second with
        | message => cases hdone
        | done status =>
          have hpulls : Pulls c w₁ [payload] status w₃ := .message hfirst rfl (.done hsecond)
          obtain ⟨b, hb⟩ := serverStreamingCall_run hopen rfl hpulls
          refine ⟨k, w, c, w₁, _, _, w₃, b, hopen, hpulls, ?_, hb⟩
          rw [Except.ok.inj hmessage, Except.error.inj hdone]
    · exact (Exec.block_some.mp h).elim

end Proc

end GrpcLite
