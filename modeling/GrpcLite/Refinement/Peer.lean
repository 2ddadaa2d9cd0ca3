import GrpcLite.Refinement.Delivery

/-!
# What a call knows from its peer

The two drivers do different things with a call: they limit the number of messages or
not, take payloads from its queue at different times, and keep different accounts of
the stream. None of that has an influence on what the callbacks of the driver's own
reads make of the response, as long as the limit on the messages is not exceeded.
-/

namespace GrpcLite

/-- The call without its queue, its limit on messages and the accounts of its driver. -/
def GrpcCall.fromPeer (call : GrpcCall) : GrpcCall :=
  { call with
    connection := none, streamId := 0, retryAttempt := 0
    streamRegistered := false, connectionOwned := false, locallyCancelled := false
    responseMessageCount := 0, maxResponseMessages := 0
    lastIoErrno := 0, lastSslError := 0, lastIoErrorDetail := none
    responseQueue := [], responseQueueCount := 0, responseQueueBytes := 0
    grpcHeader := [], request := [], requestOffset := 0 }

/-- The number of messages is within the limit of the call. -/
def GrpcCall.WithinCount (call : GrpcCall) : Prop :=
  0 < call.maxResponseMessages → call.responseMessageCount ≤ call.maxResponseMessages

/-- Without a limit on messages there is no count to keep. -/
theorem GrpcCall.WithinCount.of_zero {call : GrpcCall} (h : call.maxResponseMessages = 0) :
    call.WithinCount := by
  intro hpos
  exact absurd hpos (h ▸ Nat.lt_irrefl 0)

/-- The callback belongs to a read of the call's own driver, and no reset that it submits fails
fatally. -/
structure OwnRead (ra : ReadAhead) (answers : List Int) : Prop where
  /-- No other call is the reader. -/
  reader : ra.foreignReader = false
  /-- The library takes the resets. -/
  taken : ∀ rv ∈ answers, Nghttp2.isFatal rv = false

namespace CallbackState

/-- The state without the resets, with its call up to what the drivers do with it. -/
def fromPeer (s : CallbackState) : CallbackState := ⟨s.call.fromPeer, [], []⟩

@[inherit_doc CallbackState.fromPeer]
def Round.fromPeer : Round → Round
  | .next s offset => .next s.fromPeer offset
  | .done s rv => .done s.fromPeer rv

/-- No reset fails fatally. -/
def Taken (s : CallbackState) : Prop := ∀ rv ∈ s.rstAnswers, Nghttp2.isFatal rv = false

/-- A reset that the library takes. -/
theorem submitRstStream_taken {s : CallbackState} (h : s.Taken) (code : Nat) :
    (submitRstStream s code).2 = 0 ∧ (submitRstStream s code).1.Taken ∧
      (submitRstStream s code).1.fromPeer = s.fromPeer := by
  unfold submitRstStream
  split
  · exact ⟨rfl, h, rfl⟩
  · dsimp only
    cases hanswers : s.rstAnswers with
    | nil => exact ⟨rfl, fun rv hrv => absurd hrv (List.not_mem_nil), rfl⟩
    | cons rv rest =>
      have hrv : Nghttp2.isFatal rv = false := h rv (hanswers ▸ List.mem_cons_self)
      refine ⟨?_, fun rv' hrv' => h rv' (hanswers ▸ List.mem_cons_of_mem _ hrv'), rfl⟩
      rw [List.headD_cons, hrv]
      rfl

/-- A round goes on with a state whose resets are taken. -/
def Round.GoesOn : Round → Prop
  | .next s _ => s.Taken
  | .done _ _ => False

/-- Only the answers to the resets count. -/
theorem Taken.congr {s t : CallbackState} (h : s.Taken) (hanswers : t.rstAnswers = s.rstAnswers) :
    t.Taken := by
  unfold Taken
  rw [hanswers]
  exact h

section Parser

variable {ra : ReadAhead} (hra : ra.foreignReader = false) (data : Bytes)

/-- A rejection goes on with the marked call, whatever the drivers do with it. -/
theorem rejectFrame_fromPeer {s : CallbackState} (h : s.Taken) {mark : GrpcCall → GrpcCall}
    (hmark : ∀ call : GrpcCall, (mark call.fromPeer).fromPeer = (mark call).fromPeer)
    (offset : Nat) :
    (rejectFrame s mark offset).GoesOn ∧
      (rejectFrame s mark offset).fromPeer = (rejectFrame s.fromPeer mark offset).fromPeer := by
  have hreject : ∀ t : CallbackState, t.Taken → (rejectFrame t mark offset).GoesOn ∧
      (rejectFrame t mark offset).fromPeer =
        .next ⟨(resetMessage (discardBody (mark t.call))).fromPeer, [], []⟩ offset := by
    intro t ht
    obtain ⟨hrv, htaken, hsame⟩ := submitRstStream_taken
      (s := { t with call := resetMessage (discardBody (mark t.call)) }) ht Nghttp2.cancel
    unfold rejectFrame
    dsimp only
    rw [hrv, if_neg (by decide)]
    exact ⟨htaken, congrArg (Round.next · offset) hsame⟩
  have hempty : s.fromPeer.Taken := fun rv hrv => absurd hrv List.not_mem_nil
  have hcall : (resetMessage (discardBody (mark s.call))).fromPeer =
      (resetMessage (discardBody (mark s.call.fromPeer))).fromPeer :=
    congrArg (fun call => resetMessage (discardBody call)) (hmark s.call).symm
  refine ⟨(hreject s h).1, ?_⟩
  rw [(hreject s h).2, (hreject s.fromPeer hempty).2, hcall]
  rfl

include hra

/-- A driver's own reads are not limited by its queue. -/
theorem not_wouldExceed (call : GrpcCall) (payloadLen : Nat) :
    readAheadLimitWouldExceed ra call payloadLen = false := by
  rw [readAheadLimitWouldExceed, hra, Bool.and_false, Bool.false_and]

/-- The end of a message is that of the call of the peer, and the loop goes on. -/
theorem finishMessage_fromPeer {s : CallbackState} (h : s.Taken) (payload : Bytes) (offset : Nat) :
    (finishMessage ra s payload offset).GoesOn ∧ (finishMessage ra s payload offset).fromPeer =
      (finishMessage ra s.fromPeer payload offset).fromPeer := by
  have hfinish : ∀ t : CallbackState, t.Taken → (finishMessage ra t payload offset).GoesOn ∧
      (finishMessage ra t payload offset).fromPeer =
        .next ⟨(endMessage t).call.fromPeer, [], []⟩ offset := by
    intro t ht
    unfold finishMessage
    split
    · rw [enqueueResponsePayload, not_wouldExceed hra, if_neg Bool.false_ne_true]
      exact ⟨ht.congr rfl, rfl⟩
    · exact ⟨ht.congr rfl, rfl⟩
  have hempty : s.fromPeer.Taken := fun rv hrv => absurd hrv List.not_mem_nil
  refine ⟨(hfinish s h).1, ?_⟩
  rw [(hfinish s h).2, (hfinish s.fromPeer hempty).2]
  rfl

/-- So is a round that reads payload. -/
theorem payloadRound_fromPeer {s : CallbackState} (h : s.Taken) (offset : Nat) :
    (payloadRound ra data s offset).GoesOn ∧ (payloadRound ra data s offset).fromPeer =
      (payloadRound ra data s.fromPeer offset).fromPeer := by
  unfold payloadRound
  rw [show s.fromPeer.call.responsePayload = s.call.responsePayload from rfl]
  cases s.call.responsePayload with
  | none => exact ⟨h.congr rfl, rfl⟩
  | some payload =>
    dsimp only
    by_cases hfull : s.call.responsePayloadOffset + min
        (s.call.responsePayloadLen - s.call.responsePayloadOffset) (data.length - offset) =
          s.call.responsePayloadLen
    · rw [if_pos hfull, if_pos (show s.fromPeer.call.responsePayloadOffset + min
        (s.fromPeer.call.responsePayloadLen - s.fromPeer.call.responsePayloadOffset)
          (data.length - offset) = s.fromPeer.call.responsePayloadLen from hfull)]
      exact finishMessage_fromPeer hra h _ _
    · rw [if_neg hfull, if_neg (show ¬s.fromPeer.call.responsePayloadOffset + min
        (s.fromPeer.call.responsePayloadLen - s.fromPeer.call.responsePayloadOffset)
          (data.length - offset) = s.fromPeer.call.responsePayloadLen from hfull)]
      exact ⟨h.congr rfl, rfl⟩

/-- The same for two states that only the drivers tell apart. -/
theorem payloadRound_level {s t : CallbackState} (hs : s.Taken) (ht : t.Taken)
    (h : s.fromPeer = t.fromPeer) (offset : Nat) :
    (payloadRound ra data s offset).GoesOn ∧ (payloadRound ra data s offset).fromPeer =
      (payloadRound ra data t offset).fromPeer := by
  obtain ⟨hgo, hsame⟩ := payloadRound_fromPeer hra data hs offset
  rw [h] at hsame
  exact ⟨hgo, hsame.trans (payloadRound_fromPeer hra data ht offset).2.symm⟩

omit hra in
/-- A compressed message is flagged in the call of the peer. -/
theorem flagCompressedMessage_fromPeer (call : GrpcCall) :
    (flagCompressedMessage call.fromPeer).fromPeer = (flagCompressedMessage call).fromPeer := by
  unfold flagCompressedMessage
  rw [show call.fromPeer.grpcEncoding = call.grpcEncoding from rfl]
  cases call.grpcEncoding with
  | none => rfl
  | some encoding =>
    dsimp only
    split <;> rfl

omit hra in
/-- Two rounds behind conditions that are the same. -/
theorem Round.fromPeer_ite {c c' : Prop} [Decidable c] [Decidable c'] {x y x' y' : Round}
    (hc : c' ↔ c) (hx : x.GoesOn ∧ x.fromPeer = x'.fromPeer)
    (hy : y.GoesOn ∧ y.fromPeer = y'.fromPeer) :
    (if c then x else y).GoesOn ∧ (if c then x else y).fromPeer = (if c' then x' else y').fromPeer := by
  by_cases h : c
  · rw [if_pos h, if_pos (hc.mpr h)]
    exact hx
  · rw [if_neg h, if_neg (mt hc.mp h)]
    exact hy

/-- A header within the limit on the messages. -/
theorem headerRound_fromPeer {s : CallbackState} (h : s.Taken)
    (hcount : 0 < s.call.maxResponseMessages →
      s.call.responseMessageCount + 1 ≤ s.call.maxResponseMessages) (offset : Nat) :
    (headerRound ra data s offset).GoesOn ∧ (headerRound ra data s offset).fromPeer =
      (headerRound ra data s.fromPeer offset).fromPeer := by
  have hmany : ∀ len, ¬((countHeader s len).call.maxResponseMessages > 0 ∧
      (countHeader s len).call.responseMessageCount > (countHeader s len).call.maxResponseMessages) := by
    rintro len ⟨hpos, hover⟩
    change s.call.responseMessageCount + (if s.call.maxResponseMessages > 0 then 1 else 0) >
      s.call.maxResponseMessages at hover
    rw [if_pos (show s.call.maxResponseMessages > 0 from hpos)] at hover
    exact absurd (hcount hpos) (Nat.not_le.mpr hover)
  have hnone : ∀ len, ¬((countHeader s.fromPeer len).call.maxResponseMessages > 0 ∧
      (countHeader s.fromPeer len).call.responseMessageCount >
        (countHeader s.fromPeer len).call.maxResponseMessages) :=
    fun len hpos => absurd hpos.1 (Nat.lt_irrefl 0)
  have htaken : ∀ len, (countHeader s len).Taken := fun _ => h
  unfold headerRound
  dsimp only
  rw [if_neg (hmany _), if_neg (hnone _)]
  refine Round.fromPeer_ite Iff.rfl (rejectFrame_fromPeer (htaken _) (fun _ => rfl) offset) ?_
  refine Round.fromPeer_ite Iff.rfl (rejectFrame_fromPeer (htaken _) (fun _ => rfl) offset) ?_
  refine Round.fromPeer_ite Iff.rfl (rejectFrame_fromPeer (htaken _) (fun _ => rfl) offset) ?_
  refine Round.fromPeer_ite Iff.rfl
    (rejectFrame_fromPeer (htaken _) flagCompressedMessage_fromPeer offset) ?_
  rw [not_wouldExceed hra, not_wouldExceed hra, if_neg Bool.false_ne_true,
    if_neg Bool.false_ne_true]
  refine payloadRound_level hra data ?_ ?_ ?_ offset
  · exact h
  · exact fun rv hrv => absurd hrv List.not_mem_nil
  · rfl

/-! ### The count -/

omit hra in
/-- The end of a round that depends on the answer to a reset. -/
theorem Round.state_ite {c : Prop} [Decidable c] (s : CallbackState) (rv : Int) (offset : Nat) :
    Round.state (if c then .done s rv else .next s offset) = s := by
  split <;> rfl

omit hra in
/-- A rejected frame is not counted. -/
theorem rejectFrame_count (s : CallbackState) {mark : GrpcCall → GrpcCall}
    (hmark : (mark s.call).responseMessageCount = s.call.responseMessageCount) (offset : Nat) :
    (rejectFrame s mark offset).state.call.responseMessageCount = s.call.responseMessageCount := by
  unfold rejectFrame
  dsimp only
  rw [Round.state_ite, submitRstStream_call]
  exact hmark

omit hra in
/-- A queued payload has been counted. -/
theorem enqueueResponsePayload_count (s : CallbackState) (payload : Bytes) :
    (enqueueResponsePayload ra s payload).1.call.responseMessageCount =
      s.call.responseMessageCount := by
  unfold enqueueResponsePayload
  split
  · rw [markReadAheadLimitExceeded, submitRstStream_call]
    rfl
  · rfl

omit hra in
/-- The end of a message does not count again. -/
theorem finishMessage_count (s : CallbackState) (payload : Bytes) (offset : Nat) :
    (finishMessage ra s payload offset).state.call.responseMessageCount =
      s.call.responseMessageCount := by
  unfold finishMessage
  split
  · dsimp only
    rw [Round.state_ite, enqueueResponsePayload_count]
    rfl
  · rfl

omit hra in
/-- Payload is not counted. -/
theorem payloadRound_count (s : CallbackState) (offset : Nat) :
    (payloadRound ra data s offset).state.call.responseMessageCount =
      s.call.responseMessageCount := by
  unfold payloadRound
  cases s.call.responsePayload with
  | none => rfl
  | some payload =>
    dsimp only
    split
    · rw [finishMessage_count]
    · rfl

omit hra in
/-- The mark of a compressed message counts nothing. -/
theorem flagCompressedMessage_count (call : GrpcCall) :
    (flagCompressedMessage call).responseMessageCount = call.responseMessageCount := by
  unfold flagCompressedMessage
  cases call.grpcEncoding with
  | none => rfl
  | some encoding =>
    dsimp only
    split <;> rfl

omit hra in
/-- A header counts. -/
theorem headerRound_count (s : CallbackState) (offset : Nat) :
    (headerRound ra data s offset).state.call.responseMessageCount =
      s.call.responseMessageCount + if s.call.maxResponseMessages > 0 then 1 else 0 := by
  have hcount : ∀ len, (countHeader s len).call.responseMessageCount =
      s.call.responseMessageCount + if s.call.maxResponseMessages > 0 then 1 else 0 := fun _ => rfl
  unfold headerRound
  simp only
  generalize be32 _ _ _ _ = len
  rw [← hcount len]
  generalize countHeader s len = c
  split
  · exact rejectFrame_count c (by rfl) offset
  split
  · exact rejectFrame_count c (by rfl) offset
  split
  · exact rejectFrame_count c (by rfl) offset
  split
  · exact rejectFrame_count c (by rfl) offset
  split
  · exact rejectFrame_count c (flagCompressedMessage_count c.call) offset
  split
  · rw [Round.state, markReadAheadLimitExceeded, submitRstStream_call]
    rfl
  · rw [payloadRound_count]

/-! ### Rounds and chunks -/

/-- The state with the header bytes of a chunk. -/
def fillHeader (data : Bytes) (s : CallbackState) (offset : Nat) : CallbackState :=
  let take := min (5 - s.call.responseHeaderLen) (data.length - offset)
  { s with call := { s.call with
    responseHeaderBuf :=
      writeAt s.call.responseHeaderBuf s.call.responseHeaderLen ((data.drop offset).take take)
    responseHeaderLen := s.call.responseHeaderLen + take } }

omit hra in
/-- The three kinds of rounds. -/
theorem directRound_eq (s : CallbackState) (offset : Nat) :
    directRound ra data s offset =
      if s.call.responseHeaderLen < 5 then
        if (fillHeader data s offset).call.responseHeaderLen < 5 then
          .next (fillHeader data s offset)
            (offset + min (5 - s.call.responseHeaderLen) (data.length - offset))
        else headerRound ra data (fillHeader data s offset)
          (offset + min (5 - s.call.responseHeaderLen) (data.length - offset))
      else payloadRound ra data s offset := by
  unfold directRound fillHeader
  rfl

/-- A round within the count is that of the call of the peer. -/
theorem directRound_fromPeer {s : CallbackState} (h : s.Taken) (offset : Nat)
    (hcount : (directRound ra data s offset).state.call.WithinCount) :
    (directRound ra data s offset).GoesOn ∧ (directRound ra data s offset).fromPeer =
      (directRound ra data s.fromPeer offset).fromPeer := by
  have hfill : fillHeader data s.fromPeer offset = (fillHeader data s offset).fromPeer := by
    unfold fillHeader
    rfl
  rw [directRound_eq, directRound_eq data s.fromPeer, hfill]
  by_cases hlen : s.call.responseHeaderLen < 5
  · rw [if_pos hlen, if_pos (show s.fromPeer.call.responseHeaderLen < 5 from hlen)]
    by_cases hshort : (fillHeader data s offset).call.responseHeaderLen < 5
    · rw [if_pos hshort, if_pos (show (fillHeader data s offset).fromPeer.call.responseHeaderLen < 5
        from hshort)]
      exact ⟨h, rfl⟩
    · rw [if_neg hshort, if_neg (show ¬(fillHeader data s offset).fromPeer.call.responseHeaderLen < 5
        from hshort)]
      have hfilled : (fillHeader data s offset).Taken := h
      refine headerRound_fromPeer hra data hfilled (fun hpos => ?_) _
      rw [directRound_eq, if_pos hlen, if_neg hshort] at hcount
      have hmax := BodyStep.field (headerRound_moves ra data (fillHeader data s offset)
        (offset + min (5 - s.call.responseHeaderLen) (data.length - offset))).bodyStep.frame
          GrpcCall.maxResponseMessages fun _ => rfl
      have hmore := @headerRound_count ra data (fillHeader data s offset)
        (offset + min (5 - s.call.responseHeaderLen) (data.length - offset))
      unfold GrpcCall.WithinCount at hcount
      rw [hmax, hmore, if_pos hpos] at hcount
      exact hcount hpos
  · rw [if_neg hlen, if_neg (show ¬s.fromPeer.call.responseHeaderLen < 5 from hlen)]
    exact payloadRound_fromPeer hra data h offset

omit hra in
/-- The count only grows. -/
theorem directRound_count_le (s : CallbackState) (offset : Nat) :
    s.call.responseMessageCount ≤ (directRound ra data s offset).state.call.responseMessageCount := by
  rw [directRound_eq]
  split
  · split
    · exact Nat.le_refl _
    · rw [headerRound_count]
      exact Nat.le_add_right _ _
  · exact Nat.le_of_eq (payloadRound_count data s offset).symm

omit hra in
/-- The loop never takes messages off the count. -/
theorem directLoop_count_le (fuel : Nat) (s : CallbackState) (offset : Nat) :
    s.call.responseMessageCount ≤
      (directLoop ra data fuel s offset).1.call.responseMessageCount := by
  induction fuel generalizing s offset with
  | zero => exact Nat.le_refl _
  | succ fuel ih =>
    have hround := @directRound_count_le ra data s offset
    unfold directLoop
    split
    · cases hr : directRound ra data s offset with
      | next s' offset' =>
        rw [hr] at hround
        exact hround.trans (ih s' offset')
      | done s' rv =>
        rw [hr] at hround
        exact hround
    · exact Nat.le_refl _

omit hra in
/-- A round leaves the limit. -/
theorem directRound_max (s : CallbackState) (offset : Nat) :
    (directRound ra data s offset).state.call.maxResponseMessages = s.call.maxResponseMessages :=
  BodyStep.field (directRound_moves ra data s offset).bodyStep.frame
    GrpcCall.maxResponseMessages fun _ => rfl

omit hra in
/-- The loop leaves the limit. -/
theorem directLoop_max (fuel : Nat) (s : CallbackState) (offset : Nat) :
    (directLoop ra data fuel s offset).1.call.maxResponseMessages = s.call.maxResponseMessages :=
  BodyStep.field (directLoop_moves ra data fuel s offset).bodyStep.frame
    GrpcCall.maxResponseMessages fun _ => rfl

/-- A chunk within the limit on the messages. -/
theorem directLoop_fromPeer (fuel : Nat) {s : CallbackState} (h : s.Taken) (offset : Nat)
    (hcount : (directLoop ra data fuel s offset).1.call.WithinCount) :
    (directLoop ra data fuel s offset).1.fromPeer =
      (directLoop ra data fuel s.fromPeer offset).1.fromPeer := by
  induction fuel generalizing s offset with
  | zero => rfl
  | succ fuel ih =>
    unfold directLoop at hcount ⊢
    by_cases hgo : offset < data.length ∧ !decodingStopped s.call
    · rw [if_pos hgo] at hcount ⊢
      rw [if_pos (show offset < data.length ∧ !decodingStopped s.fromPeer.call from hgo)]
      have hround : (directRound ra data s offset).state.call.WithinCount := by
        cases hr : directRound ra data s offset with
        | next s' offset' =>
          rw [hr] at hcount
          intro hpos
          have hmax := @directLoop_max ra data fuel s' offset'
          have hfinal := hcount (hmax.symm ▸ hpos)
          rw [hmax] at hfinal
          exact (directLoop_count_le data fuel s' offset').trans hfinal
        | done s' rv =>
          rw [hr] at hcount
          exact hcount
      have hempty : s.fromPeer.Taken := fun rv hrv => absurd hrv List.not_mem_nil
      have hzero : s.fromPeer.call.maxResponseMessages = 0 := rfl
      have hunlimited : (directRound ra data s.fromPeer offset).state.call.WithinCount :=
        .of_zero ((directRound_max data s.fromPeer offset).trans hzero)
      obtain ⟨hon, hsame⟩ := directRound_fromPeer hra data h offset hround
      obtain ⟨hon', -⟩ := directRound_fromPeer hra data hempty offset hunlimited
      have hmax' := @directRound_max ra data s.fromPeer offset
      cases hr : directRound ra data s offset with
      | done s' rv =>
        rw [hr] at hon
        exact hon.elim
      | next s' offset' =>
        cases hr' : directRound ra data s.fromPeer offset with
        | done t' rv =>
          rw [hr'] at hon'
          exact hon'.elim
        | next t' offset'' =>
          rw [hr, hr'] at hsame
          rw [hr] at hcount hon
          rw [hr'] at hon' hmax'
          obtain ⟨hstate, rfl⟩ := Round.next.inj hsame
          have htwin := ih hon' offset' (.of_zero
            ((directLoop_max data fuel t' offset').trans (hmax'.trans hzero)))
          rw [← hstate] at htwin
          exact (ih hon offset' hcount).trans htwin.symm
    · rw [if_neg hgo, if_neg (show ¬(offset < data.length ∧ !decodingStopped s.fromPeer.call)
        from hgo)]
      rfl

end Parser

/-- All own reads are the same to the parser. -/
theorem directLoop_reader {ra ra' : ReadAhead} (hra : ra.foreignReader = false)
    (hra' : ra'.foreignReader = false) (data : Bytes) (fuel : Nat) (s : CallbackState)
    (offset : Nat) : directLoop ra data fuel s offset = directLoop ra' data fuel s offset := by
  have hpayload : ∀ (s : CallbackState) (offset : Nat),
      payloadRound ra data s offset = payloadRound ra' data s offset := by
    intro s offset
    simp only [payloadRound, finishMessage, enqueueResponsePayload, not_wouldExceed hra,
      not_wouldExceed hra']
  have hround : ∀ (s : CallbackState) (offset : Nat),
      directRound ra data s offset = directRound ra' data s offset := by
    intro s offset
    simp only [directRound, headerRound, hpayload, not_wouldExceed hra, not_wouldExceed hra']
  induction fuel generalizing s offset with
  | zero => rfl
  | succ fuel ih =>
    unfold directLoop
    rw [hround]
    split
    · cases directRound ra' data s offset with
      | next s' offset' => exact ih s' offset'
      | done s' rv => rfl
    · rfl

/-- A chunk within the count is read as the call of the peer reads it. -/
theorem processResponseDataDirect_fromPeer {ra : ReadAhead} (hra : ra.foreignReader = false)
    (data : Bytes) {s : CallbackState} (h : s.Taken)
    (hcount : (processResponseDataDirect ra s data).1.call.WithinCount) :
    (processResponseDataDirect ra s data).1.fromPeer =
      (processResponseDataDirect ra s.fromPeer data).1.fromPeer := by
  unfold processResponseDataDirect at hcount ⊢
  by_cases hseen : s.call.grpcStatusSeen = true
  · rw [if_pos hseen, if_pos (show s.fromPeer.call.grpcStatusSeen = true from hseen)]
    have hreject : ∀ t : CallbackState, (rejectDataAfterStatus t).1.fromPeer =
        ⟨(discardBody { t.call with invalidGrpcStatus := true }).fromPeer, [], []⟩ := by
      intro t
      rw [rejectDataAfterStatus, fromPeer, submitRstStream_call]
    rw [hreject, hreject]
    rfl
  rw [if_neg hseen] at hcount ⊢
  rw [if_neg (show ¬s.fromPeer.call.grpcStatusSeen = true from hseen)]
  by_cases hdiscard : s.call.discardResponseBody = true
  · rw [if_pos hdiscard, if_pos (show s.fromPeer.call.discardResponseBody = true from hdiscard)]
    rfl
  rw [if_neg hdiscard] at hcount ⊢
  rw [if_neg (show ¬s.fromPeer.call.discardResponseBody = true from hdiscard)]
  exact directLoop_fromPeer hra data data.length h 0 hcount

end CallbackState

/-! ## Inputs -/

/-- What the peer, the clock or the connection does, without what surrounds it. -/
def CallInput.plain : CallInput → CallInput
  | .event _ _ callback => .event ⟨false, 0, 0⟩ [] callback
  | .timedOut _ => .timedOut 0
  | .connectionBroken _ _ => .connectionBroken 0 none
  | i => i

/-- The input comes from the peer, the clock or the connection. -/
def CallInput.ofPeer : CallInput → Bool
  | .event _ _ _ | .refused | .timedOut _ | .connectionBroken _ _ => true
  | _ => false

/-- Body bytes belong to own reads. -/
def CallInput.Own : CallInput → Prop
  | .event ra answers (.data _) => OwnRead ra answers
  | _ => True

namespace GrpcCall

open CallbackState

/-- A status reads alike in the call of the peer. -/
theorem headerGrpcStatus_fromPeer (cat : HeaderCategory) (value : Bytes) (call : GrpcCall) :
    (headerGrpcStatus cat value call.fromPeer).fromPeer =
      (headerGrpcStatus cat value call).fromPeer := by
  unfold headerGrpcStatus
  cases cat with
  | response =>
    simp only [if_true]
    rw [show call.fromPeer.grpcStatusSeen = call.grpcStatusSeen from rfl]
    split <;> split <;> rfl
  | headers | other =>
    simp only [reduceCtorEq, if_false]
    rw [show call.fromPeer.grpcStatusSeen = call.grpcStatusSeen from rfl]
    split <;> split <;> rfl

/-- So does any other field. -/
theorem headerField_fromPeer (cat : HeaderCategory) (name value : Bytes) (call : GrpcCall) :
    (headerField cat name value call.fromPeer).fromPeer =
      (headerField cat name value call).fromPeer := by
  unfold headerField
  split
  · cases cat <;> rfl
  split
  · rfl
  split
  · dsimp only
    split <;> rfl
  split <;> rfl

/-- So does a stored field. -/
theorem addResponseMetadataEntry_fromPeer {s t : CallbackState}
    (h : t.call.fromPeer = s.call.fromPeer) (name value : Bytes) (trailing : Bool) :
    (addResponseMetadataEntry t name value trailing).1.call.fromPeer =
      (addResponseMetadataEntry s name value trailing).1.call.fromPeer := by
  have hself : ∀ s : CallbackState, (addResponseMetadataEntry s name value trailing).1.call.fromPeer =
      (addResponseMetadataEntry s.fromPeer name value trailing).1.call.fromPeer := by
    intro s
    have hfull : (s.fromPeer.call.metadataTooLarge = true ∨
        s.fromPeer.call.metadataEntryCount ≥ maxResponseMetadataEntries ∨
        name.length + value.length > s.fromPeer.call.maxResponseMetadataBytes ∨
        s.fromPeer.call.metadataBytes >
          s.fromPeer.call.maxResponseMetadataBytes - (name.length + value.length)) ↔
        (s.call.metadataTooLarge = true ∨
        s.call.metadataEntryCount ≥ maxResponseMetadataEntries ∨
        name.length + value.length > s.call.maxResponseMetadataBytes ∨
        s.call.metadataBytes > s.call.maxResponseMetadataBytes - (name.length + value.length)) :=
      Iff.rfl
    unfold addResponseMetadataEntry
    dsimp only
    split
    · rfl
    by_cases hlarge : s.call.metadataTooLarge = true ∨
        s.call.metadataEntryCount ≥ maxResponseMetadataEntries ∨
        name.length + value.length > s.call.maxResponseMetadataBytes ∨
        s.call.metadataBytes > s.call.maxResponseMetadataBytes - (name.length + value.length)
    · rw [if_pos hlarge, if_pos (hfull.mpr hlarge)]
      split <;> split <;> simp only [submitRstStream_call] <;> rfl
    · rw [if_neg hlarge, if_neg (mt hfull.mp hlarge)]
      rfl
  have hsame : (addResponseMetadataEntry t.fromPeer name value trailing).1.call.fromPeer =
      (addResponseMetadataEntry s.fromPeer name value trailing).1.call.fromPeer := by
    rw [CallbackState.fromPeer, CallbackState.fromPeer, h]
  rw [hself t, hself s, hsame]

/-- Header fields. -/
theorem apply_header_fromPeer (call : GrpcCall) (ra ra' : ReadAhead) (answers answers' : List Int)
    (cat : HeaderCategory) (name value : Bytes) :
    (call.fromPeer.apply (.event ra' answers' (.header cat name value))).fromPeer =
      (call.apply (.event ra answers (.header cat name value))).fromPeer := by
  simp only [apply, onEvent, onHeader]
  split
  · exact headerGrpcStatus_fromPeer cat value call
  split
  · cases cat <;> rfl
  · exact addResponseMetadataEntry_fromPeer (headerField_fromPeer cat name value call) name value _

/-- The end of a header block. -/
theorem apply_headersEnd_fromPeer (call : GrpcCall) (ra ra' : ReadAhead) (answers answers' : List Int)
    (cat : HeaderCategory) (endStream : Bool) :
    (call.fromPeer.apply (.event ra' answers' (.headersEnd cat endStream))).fromPeer =
      (call.apply (.event ra answers (.headersEnd cat endStream))).fromPeer := by
  simp only [apply, onEvent, onHeadersFrame]
  cases cat with
  | response =>
    dsimp only
    by_cases htype : (!call.contentTypeSeen && !(call.grpcStatusSeen && endStream)) = true
    · rw [if_pos htype, if_pos (show (!call.fromPeer.contentTypeSeen &&
        !(call.fromPeer.grpcStatusSeen && endStream)) = true from htype)]
      split <;> split <;> first | rfl | contradiction
    · rw [if_neg htype, if_neg (show ¬(!call.fromPeer.contentTypeSeen &&
        !(call.fromPeer.grpcStatusSeen && endStream)) = true from htype)]
      split <;> split <;> first | rfl | contradiction
  | headers =>
    dsimp only
    split <;> rfl
  | other => rfl

/-- Body bytes of an own read, within the limit on the messages. -/
theorem apply_data_fromPeer {call : GrpcCall} (hdirect : call.Direct) {ra : ReadAhead}
    {answers : List Int} (hown : OwnRead ra answers) (bytes : Bytes)
    (hcount : (call.apply (.event ra answers (.data bytes))).WithinCount) :
    (call.fromPeer.apply (.event ⟨false, 0, 0⟩ [] (.data bytes))).fromPeer =
      (call.apply (.event ra answers (.data bytes))).fromPeer := by
  have happly : ∀ {call : GrpcCall}, call.Direct → ∀ (ra : ReadAhead) (answers : List Int),
      call.apply (.event ra answers (.data bytes)) = if bytes.length = 0 then call else
        (processResponseDataDirect ra ⟨call, answers, []⟩ bytes).1.call := by
    intro call hdirect ra answers
    have hon : (call.directResponsePayload && call.decodeResponseIncrementally &&
        call.queueResponsePayloads) = true := by
      rw [hdirect.payload, hdirect.incrementally, hdirect.queue]
      rfl
    simp only [apply, onEvent, onDataChunkRecv]
    by_cases hnil : bytes.length = 0
    · rw [if_pos hnil, if_pos hnil]
    · rw [if_neg hnil, if_neg hnil, if_pos hon]
  have hplain : call.fromPeer.Direct := ⟨hdirect.payload, hdirect.incrementally, hdirect.queue⟩
  rw [happly hdirect] at hcount ⊢
  rw [happly hplain]
  by_cases hnil : bytes.length = 0
  · rw [if_pos hnil, if_pos hnil]
    rfl
  rw [if_neg hnil] at hcount
  rw [if_neg hnil, if_neg hnil]
  have htaken : (⟨call, answers, []⟩ : CallbackState).Taken := hown.taken
  have hchunk := processResponseDataDirect_fromPeer hown.reader bytes htaken hcount
  refine Eq.trans ?_ (congrArg CallbackState.call hchunk).symm
  have hreader : processResponseDataDirect ⟨false, 0, 0⟩ ⟨call.fromPeer, [], []⟩ bytes =
      processResponseDataDirect ra ⟨call.fromPeer, [], []⟩ bytes := by
    unfold processResponseDataDirect
    rw [directLoop_reader rfl hown.reader]
  rw [hreader]
  rfl

/-- What comes from the peer has the same effect up to what the drivers do with the call. -/
theorem apply_fromPeer {call : GrpcCall} (hdirect : call.Direct) {i : CallInput}
    (hpeer : i.ofPeer = true) (hown : i.Own) (hcount : (call.apply i).WithinCount) :
    (call.fromPeer.apply i.plain).fromPeer = (call.apply i).fromPeer := by
  cases i with
  | event ra answers event =>
    cases event with
    | header cat name value => exact apply_header_fromPeer call ra _ answers _ cat name value
    | headersEnd cat endStream => exact apply_headersEnd_fromPeer call ra _ answers _ cat endStream
    | data bytes => exact apply_data_fromPeer hdirect hown bytes hcount
    | rstStream code => rfl
    | pushPromise =>
      simp only [CallInput.plain, apply, onEvent, onPushPromise, submitRstStream_call]
      rfl
    | closed code => rfl
  | refused => rfl
  | timedOut now => rfl
  | connectionBroken errno detail =>
    simp only [CallInput.plain, apply]
    rw [show call.fromPeer.timedOut = call.timedOut from rfl]
    split <;> rfl
  | _ => cases hpeer

/-- What a driver does to a call leaves what it knows from its peer. -/
theorem apply_driver {i : CallInput} (hpeer : i.ofPeer = false) (hcancel : i ≠ .userCancelled)
    (hcheck : i ≠ .truncated) (call : GrpcCall) : (call.apply i).fromPeer = call.fromPeer := by
  cases i with
  | event | refused | timedOut | connectionBroken => cases hpeer
  | userCancelled => exact absurd rfl hcancel
  | truncated => exact absurd rfl hcheck
  | dequeue =>
    simp only [apply, dequeueResponsePayload]
    cases call.responseQueue <;> rfl
  | take =>
    simp only [apply, unaryTakeResponsePayload]
    cases call.responseQueue <;> rfl
  | ownerCleared forget =>
    simp only [apply]
    split <;> rfl
  | submitted | registered | unregistered | ioError | locallyCancelled | freeQueue
  | requestSent => rfl

end GrpcCall

end GrpcLite
