import GrpcLite.Correctness.StreamEnds
import GrpcLite.Refinement.Peer
import GrpcLite.Refinement.Rounds

/-!
# What the drivers make of a behaviour of the server

A behaviour is what happens to a call round by round: the callbacks of its stream with
the notes that the transport makes beside them, and what the round records that ends
the loop. The record of a call, and with it everything that the drivers report, is a
function of the behaviour; the two drivers differ in that function.
-/

namespace GrpcLite

/-- What happens to a call in the loop of its driver. -/
structure Behaviour where
  /-- What every completed round records. -/
  rounds : List (List CallInput)
  /-- What the round records that ends the loop of an open stream. -/
  ending : List CallInput
  /-- Rounds bring callbacks. -/
  inRound : ∀ round ∈ rounds, ∀ i ∈ round, i.inRound = true

/-- What the last round of a loop may leave on its call. -/
def CallInput.inEnding : CallInput → Bool
  | .timedOut _ | .ioError _ _ _ | .connectionBroken _ _ | .locallyCancelled
  | .ownerCleared _ => true
  | i => i.inRound

/-- What happens in a round may happen at the end. -/
theorem CallInput.inEnding_of_inRound {i : CallInput} (h : i.inRound = true) :
    i.inEnding = true := by
  cases i <;> first | rfl | exact h

/-- So may what a send leaves behind. -/
theorem CallInput.inEnding_of_send {i : CallInput} (h : i.ofSend = true ∨ i.ofFailure = true) :
    i.inEnding = true := by
  rcases h with h | h
  · exact inEnding_of_inRound (inRound_of_ofSend h)
  · cases i <;> first | rfl | cases h

/-- So may the cancellation of the stream. -/
theorem CallInput.inEnding_of_cancel {i : CallInput} (h : i.ofSend = true ∨ i = .locallyCancelled) :
    i.inEnding = true := by
  rcases h with h | rfl
  · exact inEnding_of_inRound (inRound_of_ofSend h)
  · rfl

/-- What a round leaves that finds the deadline expired or the connection broken. -/
structure EndsLoop (ending : List CallInput) : Prop where
  /-- Callbacks and notes. -/
  kind : ∀ i ∈ ending, i.inEnding = true
  /-- The deadline has expired, or last of all the connection is broken. -/
  ends : ending.any CallInput.expires = true ∨
    ∃ notes errno detail, ending = notes ++ [.connectionBroken errno detail]

/-- A broken connection ends the loop. -/
theorem EndsLoop.broken (errno : Nat) (detail : Option ErrorDetail) :
    EndsLoop [.connectionBroken errno detail] :=
  ⟨fun _ hi => List.mem_singleton.mp hi ▸ rfl, .inr ⟨[], errno, detail, rfl⟩⟩

/-- A deadline that passes ends the loop. -/
theorem EndsLoop.expired {rest : List CallInput} (h : ∀ i ∈ rest, i.inEnding = true) (now : Nat) :
    EndsLoop (.timedOut now :: rest) :=
  ⟨List.forall_mem_cons.mpr ⟨rfl, h⟩, .inl rfl⟩

/-- Notes may come in front of the end. -/
theorem EndsLoop.after {notes ending : List CallInput} (h : EndsLoop ending)
    (hnotes : ∀ i ∈ notes, i.inEnding = true) : EndsLoop (notes ++ ending) := by
  refine ⟨fun i hi => (List.mem_append.mp hi).elim (hnotes i) (h.kind i), ?_⟩
  rcases h.ends with hexpires | ⟨notes', errno, detail, rfl⟩
  · exact .inl (by rw [List.any_append, hexpires, Bool.or_true])
  · exact .inr ⟨notes ++ notes', errno, detail, (List.append_assoc _ _ _).symm⟩

namespace GrpcCall

/-- The loop of the unary driver: rounds until the stream is closed. -/
def unaryInputs (ending : List CallInput) : GrpcCall → List (List CallInput) → List CallInput
  | call, [] => if call.streamClosed then [] else ending
  | call, round :: rounds =>
    if call.streamClosed then [] else round ++ (call.applyAll round).unaryInputs ending rounds

/-- The pops of the whole queue. -/
def pops (call : GrpcCall) : List CallInput := List.replicate call.responseQueue.length .dequeue

/-- The call behind the pops of its whole queue. -/
def drained (call : GrpcCall) : GrpcCall := call.applyAll call.pops

/-- The pulls when nothing more is read: a violated rule frees the queue. -/
def closing (call : GrpcCall) : List CallInput :=
  if call.validationFailed then [.freeQueue] else call.pops

/-- The pulls of a server stream until its end: nothing more is read behind a violated rule, and
otherwise not before the whole queue is returned. -/
def streamInputs (ending : List CallInput) : GrpcCall → List (List CallInput) → List CallInput
  | call, [] =>
    if call.validationFailed || call.streamClosed then call.closing
    else call.pops ++ (ending ++ (call.drained.applyAll ending).closing)
  | call, round :: rounds =>
    if call.validationFailed || call.streamClosed then call.closing
    else call.pops ++ (round ++ (call.drained.applyAll round).streamInputs ending rounds)

end GrpcCall

namespace Behaviour

/-- The record of a unary call when its loop ends. -/
def unaryEnd (b : Behaviour) (start : GrpcCall) : GrpcCall :=
  start.applyAll (start.unaryInputs b.ending b.rounds)

/-- The status code that the unary driver reports. -/
def unaryCode (b : Behaviour) (start : GrpcCall) : Int :=
  statusCodeFromCall (b.unaryEnd start).checkUnary false

/-- What the unary driver reports, up to the text beside the status code. -/
def unaryResult (b : Behaviour) (start : GrpcCall) (details : StatusDetails) : UnaryResult where
  body := (b.unaryEnd start).responseQueue.head?
  status := ⟨b.unaryCode start, details⟩
  initialMetadata := (b.unaryEnd start).metadataMap false
  trailingMetadata := (b.unaryEnd start).metadataMap true
  outcome := attemptOutcomeFromCall (b.unaryEnd start).checkUnary.unaryTakeResponsePayload.2 false

/-- The record of a server stream when its pulls end. -/
def streamEnd (b : Behaviour) (start : GrpcCall) : GrpcCall :=
  start.applyAll (start.streamInputs b.ending b.rounds)

/-- The messages and the status code that the pulls of a server stream return. -/
def streamResult (b : Behaviour) (start : GrpcCall) : List Bytes × Int :=
  (start.deliveredBy (start.streamInputs b.ending b.rounds),
    statusCodeFromCall (b.streamEnd start).checkStream false)

/-- The round that ends the loop finds the deadline expired or the connection broken. -/
def Ends (b : Behaviour) : Prop := EndsLoop b.ending

/-- The callbacks of the completed rounds come from reads of the call's own driver. -/
def OwnReads (b : Behaviour) : Prop := ∀ round ∈ b.rounds, ∀ i ∈ round, i.ownReader = true

end Behaviour

/-! ## What counts for the peer -/

/-- What the peer, the clock and the connection do among some inputs. -/
def peerInputs (inputs : List CallInput) : List CallInput :=
  (inputs.filter CallInput.ofPeer).map CallInput.plain

/-- The input is an account that a driver or the transport keeps of a call. -/
def CallInput.accounts : CallInput → Bool
  | .submitted _ | .registered _ | .unregistered | .ownerCleared _ | .ioError _ _ _
  | .locallyCancelled | .freeQueue | .dequeue | .take | .requestSent _ => true
  | _ => false

/-- What is not from the peer in a round is bookkeeping. -/
theorem CallInput.accounts_of_inRound {i : CallInput} (h : i.inRound = true)
    (hpeer : i.ofPeer = false) : i.accounts = true := by
  cases i with
  | submitted | registered | unregistered | requestSent => rfl
  | event | refused => cases hpeer
  | _ => cases h

namespace GrpcCall

/-- Bookkeeping leaves the call of the peer. -/
theorem apply_accounts {i : CallInput} (h : i.accounts = true) (call : GrpcCall) :
    (call.apply i).fromPeer = call.fromPeer := by
  refine apply_driver ?_ ?_ ?_ call
  · cases i with
    | event | refused | timedOut | connectionBroken => cases h
    | _ => rfl
  · rintro rfl
    cases h
  · rintro rfl
    cases h

/-- Accounts leave what the call knows from its peer. -/
theorem applyAll_accounts {inputs : List CallInput} (h : ∀ i ∈ inputs, i.accounts = true)
    (call : GrpcCall) : (call.applyAll inputs).fromPeer = call.fromPeer := by
  induction inputs generalizing call with
  | nil => rfl
  | cons i inputs ih =>
    exact (ih (fun j hj => h j (List.mem_cons_of_mem _ hj)) (call.apply i)).trans
      (apply_accounts (h i List.mem_cons_self) call)

/-- Pops are bookkeeping. -/
theorem pops_accounts (call : GrpcCall) : ∀ i ∈ call.pops, i.accounts = true := by
  intro i hi
  rw [List.eq_of_mem_replicate hi]
  rfl

/-- So is the end of a pull. -/
theorem closing_accounts (call : GrpcCall) : ∀ i ∈ call.closing, i.accounts = true := by
  unfold closing
  split
  · intro i hi
    rw [List.mem_singleton.mp hi]
    rfl
  · exact call.pops_accounts

/-- A drained stream has heard the same from the peer. -/
theorem drained_fromPeer (call : GrpcCall) : call.drained.fromPeer = call.fromPeer :=
  applyAll_accounts call.pops_accounts call

/-- A drained stream reads as before. -/
theorem Direct.drained {call : GrpcCall} (h : call.Direct) : call.drained.Direct := h.applyAll _

/-- The limit on messages is part of the configuration. -/
theorem maxResponseMessages_applyAll (call : GrpcCall) (inputs : List CallInput) :
    (call.applyAll inputs).maxResponseMessages = call.maxResponseMessages :=
  (limits_of_config (call.applyAll_config inputs)).1

/-- Headers are counted upwards. -/
theorem apply_count_le {call : GrpcCall} (hdirect : call.Direct) (i : CallInput) :
    call.responseMessageCount ≤ (call.apply i).responseMessageCount := by
  by_cases hdata : ∃ ra answers chunk, i = .event ra answers (.data chunk)
  · obtain ⟨ra, answers, chunk, rfl⟩ := hdata
    rcases call.apply_data hdirect ra answers chunk with ⟨heq, -⟩ | ⟨-, heq⟩ | ⟨hseen, heq⟩
    · exact Nat.le_of_eq (congrArg responseMessageCount heq).symm
    · exact Nat.le_of_eq (congrArg responseMessageCount heq).symm
    · rw [heq]
      unfold CallbackState.processResponseDataDirect
      rw [if_neg (by simp [hseen])]
      split
      · exact Nat.le_refl _
      · exact CallbackState.directLoop_count_le chunk chunk.length ⟨call, answers, []⟩ 0
  · refine Nat.le_of_eq (apply_messageCount_same call fun ra answers chunk heq => ?_).symm
    exact hdata ⟨ra, answers, chunk, heq⟩

/-- Messages are never taken off the count. -/
theorem applyAll_count_le {call : GrpcCall} (hdirect : call.Direct) (inputs : List CallInput) :
    call.responseMessageCount ≤ (call.applyAll inputs).responseMessageCount := by
  induction inputs generalizing call with
  | nil => exact Nat.le_refl _
  | cons i inputs ih => exact (apply_count_le hdirect i).trans (ih (hdirect.apply i))

/-- A limit that is kept in the end was kept all the time. -/
theorem WithinCount.of_applyAll {call : GrpcCall} (hdirect : call.Direct) {inputs : List CallInput}
    (h : (call.applyAll inputs).WithinCount) : call.WithinCount := by
  intro hpos
  have hlimit := call.maxResponseMessages_applyAll inputs
  exact ((applyAll_count_le hdirect inputs).trans (h (hlimit.symm ▸ hpos))).trans
    (Nat.le_of_eq hlimit)

/-- Calls that know the same from their peer still do behind the same inputs of the peer. -/
theorem applyAll_plain {a b : GrpcCall} (h : a.fromPeer = b.fromPeer) (ha : a.Direct)
    (hb : b.Direct) (hmany : a.maxResponseMessages = 0) (hmany' : b.maxResponseMessages = 0)
    {inputs : List CallInput} (hpeer : ∀ i ∈ inputs, i.ofPeer = true ∧ i.Own) :
    (a.applyAll inputs).fromPeer = (b.applyAll inputs).fromPeer := by
  induction inputs generalizing a b with
  | nil => exact h
  | cons i inputs ih =>
    obtain ⟨hi, hown⟩ := hpeer i List.mem_cons_self
    have hmax := (limits_of_config (a.apply_config i)).1.trans hmany
    have hmax' := (limits_of_config (b.apply_config i)).1.trans hmany'
    refine ih ?_ (ha.apply i) (hb.apply i) hmax hmax' fun j hj => hpeer j (List.mem_cons_of_mem _ hj)
    rw [← apply_fromPeer ha hi hown (.of_zero hmax), ← apply_fromPeer hb hi hown (.of_zero hmax'), h]

/-- What is left of the inputs comes from the peer to its own reader. -/
theorem peerInputs_own {inputs : List CallInput} :
    ∀ i ∈ peerInputs inputs, i.ofPeer = true ∧ i.Own := by
  intro i hi
  obtain ⟨j, hj, rfl⟩ := List.mem_map.mp hi
  have hpeer := (List.mem_filter.mp hj).2
  cases j with
  | event ra answers event =>
    cases event with
    | data bytes => exact ⟨rfl, rfl, fun rv hrv => absurd hrv List.not_mem_nil⟩
    | _ => exact ⟨rfl, trivial⟩
  | refused | timedOut | connectionBroken => exact ⟨rfl, trivial⟩
  | _ => cases hpeer

/-- What a call knows from its peer depends on what the peer has done. -/
theorem applyAll_fromPeer {call : GrpcCall} (hdirect : call.Direct) {inputs : List CallInput}
    (hinputs : ∀ i ∈ inputs, i.ofPeer = true ∧ i.Own ∨ i.accounts = true)
    (hcount : (call.applyAll inputs).WithinCount) :
    (call.applyAll inputs).fromPeer = (call.fromPeer.applyAll (peerInputs inputs)).fromPeer := by
  induction inputs generalizing call with
  | nil => rfl
  | cons i inputs ih =>
    have hrest := ih (hdirect.apply i) (fun j hj => hinputs j (List.mem_cons_of_mem _ hj)) hcount
    refine hrest.trans ?_
    rcases hinputs i List.mem_cons_self with ⟨hpeer, hown⟩ | haccounts
    · have hlist : peerInputs (i :: inputs) = i.plain :: peerInputs inputs := by
        rw [peerInputs, List.filter_cons_of_pos hpeer]
        rfl
      rw [hlist]
      have hfirst : (call.apply i).WithinCount := .of_applyAll (hdirect.apply i) hcount
      have hplain : ∀ {call : GrpcCall}, call.Direct → call.fromPeer.Direct := fun h =>
        ⟨h.payload, h.incrementally, h.queue⟩
      refine applyAll_plain ?_ (hplain (hdirect.apply i)) ((hplain hdirect).apply i.plain) rfl ?_
        peerInputs_own
      · exact (apply_fromPeer hdirect hpeer hown hfirst).symm
      · exact (limits_of_config (call.fromPeer.apply_config i.plain)).1
    · have hnot : ¬i.ofPeer = true := by
        cases i with
        | event | refused | timedOut | connectionBroken => cases haccounts
        | _ => exact Bool.false_ne_true
      have hlist : peerInputs (i :: inputs) = peerInputs inputs := by
        rw [peerInputs, List.filter_cons_of_neg hnot]
        rfl
      rw [hlist, apply_accounts haccounts]

/-! ## Calls on a level -/

/-- Two calls of the drivers that know the same from their peer. -/
structure Level (a b : GrpcCall) : Prop where
  /-- Up to what the drivers do. -/
  peer : a.fromPeer = b.fromPeer
  direct : a.Direct
  direct' : b.Direct

/-- Calls that are level stay so when one is drained. -/
theorem Level.drained {a b : GrpcCall} (h : Level a b) : Level a b.drained :=
  ⟨h.peer.trans b.drained_fromPeer.symm, h.direct, h.direct'.drained⟩

/-- Accounts of the drivers. -/
theorem Level.accounts {a b : GrpcCall} (h : Level a b) {is js : List CallInput}
    (his : ∀ i ∈ is, i.accounts = true) (hjs : ∀ i ∈ js, i.accounts = true) :
    Level (a.applyAll is) (b.applyAll js) :=
  ⟨(applyAll_accounts his a).trans (h.peer.trans (applyAll_accounts hjs b).symm),
    h.direct.applyAll is, h.direct'.applyAll js⟩

/-- A field that the drivers leave alone. -/
theorem Level.field {α : Type} {a b : GrpcCall} (h : Level a b) (f : GrpcCall → α)
    (hf : ∀ call : GrpcCall, f call.fromPeer = f call) : f a = f b := by
  rw [← hf a, h.peer, hf b]

/-- The same inputs of the peer. -/
theorem Level.applyAll {a b : GrpcCall} (h : Level a b) {is js : List CallInput}
    (his : ∀ i ∈ is, i.ofPeer = true ∧ i.Own ∨ i.accounts = true)
    (hjs : ∀ i ∈ js, i.ofPeer = true ∧ i.Own ∨ i.accounts = true)
    (hsame : peerInputs is = peerInputs js) (hcount : (a.applyAll is).WithinCount)
    (hcount' : (b.applyAll js).WithinCount) : Level (a.applyAll is) (b.applyAll js) := by
  refine ⟨?_, h.direct.applyAll is, h.direct'.applyAll js⟩
  rw [applyAll_fromPeer h.direct his hcount, applyAll_fromPeer h.direct' hjs hcount', h.peer, hsame]

/-! ## Violated rules -/

/-- The code of a response that violates a rule: nothing that happens later to the stream or the
connection has a part in it. -/
def failedCode (call : GrpcCall) : Int :=
  if call.timedOut then Status.deadlineExceeded
  else if call.invalidGrpcStatus then Status.unknown
  else if call.grpcStatus < 0 ∧ call.httpStatus ≠ 200 then httpStatusCode call.httpStatus
  else if call.invalidContentType then Status.unknown
  else if call.responseMessageTooLarge || call.metadataTooLarge ||
      call.responseQueueLimitExceeded then Status.resourceExhausted
  else Status.internal

/-- A failed response has the code of its failure. -/
theorem statusCode_failed {call : GrpcCall} (h : call.validationFailed = true) :
    statusCodeFromCall call false = call.failedCode := by
  unfold statusCodeFromCall failedCode
  rw [if_neg Bool.false_ne_true]
  by_cases htime : call.timedOut = true
  · rw [if_pos htime, if_pos htime]
  rw [if_neg htime, if_neg htime]
  by_cases hstatus : call.invalidGrpcStatus = true
  · rw [if_pos hstatus, if_pos hstatus]
  rw [if_neg hstatus, if_neg hstatus]
  by_cases hhttp : call.grpcStatus < 0 ∧ call.httpStatus ≠ 200
  · rw [if_pos hhttp, if_pos hhttp]
  rw [if_neg hhttp, if_neg hhttp]
  by_cases htype : call.invalidContentType = true
  · rw [if_pos htype, if_pos htype]
  rw [if_neg htype, if_neg htype]
  by_cases hlimits : (call.responseMessageTooLarge || call.metadataTooLarge ||
      call.responseQueueLimitExceeded) = true
  · rw [if_pos hlimits, if_pos hlimits]
  rw [if_neg hlimits, if_neg hlimits]
  by_cases hmalformed : call.malformedResponseFrame = true
  · rw [if_pos hmalformed]
  rw [if_neg hmalformed]
  refine if_pos ?_
  -- only the flags of the encoding are left
  simp only [Bool.or_eq_true, not_or, Bool.not_eq_true] at htype hlimits hmalformed
  rw [validationFailed, hlimits.1.1, hlimits.1.2, hlimits.2, hmalformed, htype] at h
  simpa only [Bool.false_or, Bool.or_false] using h

/-- A violated rule is all that counts, also behind the check for a truncated message. -/
theorem statusCode_checkUnary {call : GrpcCall} (h : call.validationFailed = true) :
    statusCodeFromCall call.checkUnary false = call.failedCode := by
  unfold checkUnary
  split
  · have hfailed : ({ call with malformedResponseFrame := true } : GrpcCall).validationFailed = true := by
      simp [validationFailed]
    exact statusCode_failed hfailed
  · exact statusCode_failed h

@[inherit_doc statusCode_checkUnary]
theorem statusCode_checkStream {call : GrpcCall} (h : call.validationFailed = true) :
    statusCodeFromCall call.checkStream false = call.failedCode := by
  unfold checkStream
  split
  · have hfailed : ({ call with malformedResponseFrame := true } : GrpcCall).validationFailed = true := by
      simp [validationFailed]
    exact statusCode_failed hfailed
  · exact statusCode_failed h

end GrpcCall

end GrpcLite
