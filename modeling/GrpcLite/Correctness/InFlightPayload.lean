import GrpcLite.Refinement.Inputs

/-!
# The payload in flight

Between two chunks the parser of a call holds a payload string exactly behind a
complete and valid header whose message is unfinished. The string is as long as
the payload bytes received so far, which are fewer than the declared length, so
memory never follows the declaration. Every write into the string stays inside it.
-/

namespace GrpcLite

/-- The parser fields of a call. -/
def GrpcCall.parser (call : GrpcCall) : GrpcCall where
  responseHeaderBuf := call.responseHeaderBuf
  responseHeaderLen := call.responseHeaderLen
  responsePayloadLen := call.responsePayloadLen
  responsePayloadOffset := call.responsePayloadOffset
  responsePayload := call.responsePayload
  maxReceiveMessageBytes := call.maxReceiveMessageBytes

/-- The length that the header in the buffer declares. -/
def GrpcCall.declaredLen (call : GrpcCall) : Nat :=
  be32 (call.responseHeaderBuf.getD 1 0) (call.responseHeaderBuf.getD 2 0)
    (call.responseHeaderBuf.getD 3 0) (call.responseHeaderBuf.getD 4 0)

/-- A complete and valid header was read, and the payload bytes received so far are fewer than
it declares. -/
structure GrpcCall.Unfinished (call : GrpcCall) (payload : Bytes) : Prop where
  /-- The header is complete. -/
  header : call.responseHeaderLen = 5
  /-- The message is not compressed. -/
  flag : call.responseHeaderBuf.getD 0 0 = 0
  /-- The length is the declared one. -/
  declared : call.responsePayloadLen = call.declaredLen
  /-- The length is within the receive limit. -/
  limit : call.responsePayloadLen ≤ call.maxReceiveMessageBytes
  /-- The string is as long as the bytes received so far. -/
  received : payload.length = call.responsePayloadOffset
  /-- They are fewer than declared. -/
  short : call.responsePayloadOffset < call.responsePayloadLen

/-- The parser fields between two chunks. -/
structure GrpcCall.InFlight (call : GrpcCall) : Prop where
  /-- The header buffer has its fixed size. -/
  buffer : call.responseHeaderBuf.length = 5
  /-- At most a header is in it. -/
  header : call.responseHeaderLen ≤ 5
  /-- There is a payload string exactly behind a complete header. -/
  present : call.responsePayload.isSome = true ↔ call.responseHeaderLen = 5
  /-- The string belongs to an unfinished message. -/
  unfinished : ∀ payload, call.responsePayload = some payload → call.Unfinished payload
  /-- Without a string nothing is declared and received. -/
  idle : call.responsePayload = none →
    call.responsePayloadLen = 0 ∧ call.responsePayloadOffset = 0

/-- The bytes end with the header and the payload of the message in flight, as far as they
were received. -/
def GrpcCall.EndsIn (call : GrpcCall) (bytes : Bytes) : Prop :=
  ∃ before, bytes = before ++ call.responseHeaderBuf.take call.responseHeaderLen ++
    call.responsePayload.getD []

namespace GrpcCall

/-- Only the parser fields count. -/
theorem InFlight.of_parserState {call call' : GrpcCall} (h : call.InFlight)
    (hparser : call'.parser = call.parser) : call'.InFlight := by
  have hsame : ∀ c : GrpcCall, c.parser.InFlight ↔ c.InFlight := by
    intro c
    constructor
    · intro hc
      exact ⟨hc.buffer, hc.header, hc.present, fun payload hp =>
        ⟨(hc.unfinished payload hp).header, (hc.unfinished payload hp).flag,
          (hc.unfinished payload hp).declared, (hc.unfinished payload hp).limit,
          (hc.unfinished payload hp).received, (hc.unfinished payload hp).short⟩, hc.idle⟩
    · intro hc
      exact ⟨hc.buffer, hc.header, hc.present, fun payload hp =>
        ⟨(hc.unfinished payload hp).header, (hc.unfinished payload hp).flag,
          (hc.unfinished payload hp).declared, (hc.unfinished payload hp).limit,
          (hc.unfinished payload hp).received, (hc.unfinished payload hp).short⟩, hc.idle⟩
  rw [← hsame, hparser, hsame]
  exact h

/-- Only the parser fields count. -/
theorem EndsIn.of_parserState {call call' : GrpcCall} {bytes : Bytes} (h : call.EndsIn bytes)
    (hparser : call'.parser = call.parser) : call'.EndsIn bytes := by
  have hsame : ∀ c : GrpcCall, c.parser.EndsIn bytes = c.EndsIn bytes := fun _ => rfl
  rw [← hsame, hparser, hsame]
  exact h

/-- At a message boundary the parser holds nothing. -/
structure AtBoundary (call : GrpcCall) : Prop where
  /-- The header buffer has its fixed size. -/
  buffer : call.responseHeaderBuf.length = 5
  /-- No header byte was read. -/
  header : call.responseHeaderLen = 0
  /-- There is no payload string. -/
  payload : call.responsePayload = none
  /-- Nothing is declared. -/
  length : call.responsePayloadLen = 0
  /-- Nothing was received. -/
  offset : call.responsePayloadOffset = 0

/-- Between two messages no payload is in flight. -/
theorem AtBoundary.inFlight {call : GrpcCall} (h : call.AtBoundary) : call.InFlight := by
  refine ⟨h.buffer, ?_, ?_, ?_, fun _ => ⟨h.length, h.offset⟩⟩
  · rw [h.header]
    decide
  · rw [h.payload, h.header]
    decide
  · intro payload hp
    rw [h.payload] at hp
    cases hp

/-- Between two messages nothing has to end the bytes. -/
theorem AtBoundary.endsIn {call : GrpcCall} (h : call.AtBoundary) (bytes : Bytes) :
    call.EndsIn bytes := by
  refine ⟨bytes, ?_⟩
  rw [h.header, h.payload]
  simp

end GrpcCall

/-! ## Writes -/

/-- A write into a payload string: where it starts, how many bytes it writes, and the length of
the string at that time. Behind that length the string has room for a terminator. -/
structure PayloadWrite where
  /-- First byte written. -/
  start : Nat
  /-- Number of bytes written. -/
  count : Nat
  /-- `ZSTR_LEN` of the string. -/
  length : Nat
  /-- The terminator is written. -/
  terminator : Bool
  deriving DecidableEq, Repr

/-- The write stays inside the string; the terminator is written directly behind it. -/
def PayloadWrite.Inside (write : PayloadWrite) : Prop :=
  if write.terminator then write.start = write.length ∧ write.count = 1
  else write.start + write.count ≤ write.length

namespace CallbackState

/-- The writes of `payloadRound`: the received bytes, and behind a complete message the
terminator at the declared length. -/
def payloadWrites (data : Bytes) (call : GrpcCall) (offset : Nat) : List PayloadWrite :=
  match call.responsePayload with
  | none => []
  | some payload =>
    let need := call.responsePayloadLen - call.responsePayloadOffset
    let take := min need (data.length - offset)
    let required := call.responsePayloadOffset + take
    let length := if take > 0 ∧ required > payload.length then required else payload.length
    (if take > 0 then [⟨call.responsePayloadOffset, take, length, false⟩] else []) ++
      if required = call.responsePayloadLen then [⟨call.responsePayloadLen, 1, length, true⟩]
      else []

/-- The writes of `headerRound`: an accepted header allocates the string, and an empty one is
terminated at once. -/
def headerWrites (ra : ReadAhead) (data : Bytes) (s : CallbackState) (offset : Nat) :
    List PayloadWrite :=
  let len := s.call.declaredLen
  let s := countHeader s len
  if s.call.maxResponseMessages > 0 ∧ s.call.responseMessageCount > s.call.maxResponseMessages then
    []
  else if len > s.call.maxReceiveMessageBytes then []
  else if len > zstrMaxLen then []
  else if s.call.responseHeaderBuf.getD 0 0 > 1 then []
  else if s.call.responseHeaderBuf.getD 0 0 = 1 then []
  else if readAheadLimitWouldExceed ra s.call len then []
  else
    let payload := List.replicate (min (data.length - offset) len) 0
    (if len = 0 then [⟨0, 1, payload.length, true⟩] else []) ++
      payloadWrites data
        { s.call with responsePayloadOffset := 0, responsePayload := some payload } offset

/-- The writes of `directRound`. -/
def roundWrites (ra : ReadAhead) (data : Bytes) (s : CallbackState) (offset : Nat) :
    List PayloadWrite :=
  if s.call.responseHeaderLen < 5 then
    let take := min (5 - s.call.responseHeaderLen) (data.length - offset)
    let s := { s with call := { s.call with
      responseHeaderBuf :=
        writeAt s.call.responseHeaderBuf s.call.responseHeaderLen ((data.drop offset).take take)
      responseHeaderLen := s.call.responseHeaderLen + take } }
    if s.call.responseHeaderLen < 5 then [] else headerWrites ra data s (offset + take)
  else payloadWrites data s.call offset

/-- The writes of `directLoop`. -/
def loopWrites (ra : ReadAhead) (data : Bytes) : Nat → CallbackState → Nat → List PayloadWrite
  | 0, _, _ => []
  | fuel + 1, s, offset =>
    if offset < data.length ∧ !decodingStopped s.call then
      roundWrites ra data s offset ++
        match directRound ra data s offset with
        | .next s' offset' => loopWrites ra data fuel s' offset'
        | .done _ _ => []
    else []

/-- The writes into payload strings that `grpc_protocol_process_response_data_direct` makes. -/
def chunkWrites (ra : ReadAhead) (s : CallbackState) (data : Bytes) : List PayloadWrite :=
  if s.call.grpcStatusSeen then []
  else if s.call.discardResponseBody then []
  else loopWrites ra data data.length s 0

/-! ## Rounds -/

/-- A round that ends at a message boundary, at an offset if the loop goes on. -/
def Round.Settles (offset : Nat) : Round → Prop
  | .next s' offset' => s'.call.AtBoundary ∧ offset' = offset
  | .done s' _ => s'.call.AtBoundary

/-- What a round from an offset leaves behind when the bytes `seen` came before the chunk. -/
def Round.Keeps (seen data : Bytes) (offset : Nat) : Round → Prop
  | .next s' offset' => offset < offset' ∧ offset' ≤ data.length ∧ s'.call.InFlight ∧
      s'.call.EndsIn (seen ++ data.take offset')
  | .done s' _ => s'.call.AtBoundary

/-- A round that settles keeps the end of the bytes. -/
theorem Round.Settles.keeps {first offset : Nat} {r : Round} (h : r.Settles offset) {data : Bytes}
    (hlt : first < offset) (hle : offset ≤ data.length) (seen : Bytes) :
    r.Keeps seen data first := by
  cases r with
  | next s' offset' =>
    obtain ⟨hboundary, rfl⟩ := h
    exact ⟨hlt, hle, hboundary.inFlight, hboundary.endsIn _⟩
  | done s' rv => exact h

/-- A finished message leaves the parser between two messages. -/
theorem endMessage_boundary {s : CallbackState} (h : s.call.responseHeaderBuf.length = 5) :
    (endMessage s).call.AtBoundary :=
  ⟨h, rfl, rfl, rfl, rfl⟩

/-- So does a message beyond the read-ahead limit. -/
theorem markReadAheadLimitExceeded_boundary {s : CallbackState}
    (hbuf : s.call.responseHeaderBuf.length = 5) (hpayload : s.call.responsePayload = none) :
    (markReadAheadLimitExceeded s).1.call.AtBoundary := by
  rw [markReadAheadLimitExceeded, submitRstStream_call]
  exact ⟨hbuf, rfl, hpayload, rfl, rfl⟩

/-- A queued payload leaves the parser where it is. -/
theorem enqueueResponsePayload_boundary {ra : ReadAhead} {s : CallbackState}
    (h : s.call.AtBoundary) (payload : Bytes) :
    (enqueueResponsePayload ra s payload).1.call.AtBoundary := by
  unfold enqueueResponsePayload
  split
  · exact markReadAheadLimitExceeded_boundary h.buffer h.payload
  · exact ⟨h.buffer, h.header, h.payload, h.length, h.offset⟩

/-- A round that finishes a message settles. -/
theorem finishMessage_settles {ra : ReadAhead} {s : CallbackState}
    (h : s.call.responseHeaderBuf.length = 5) (payload : Bytes) (offset : Nat) :
    (finishMessage ra s payload offset).Settles offset := by
  have hend := endMessage_boundary h
  have hpush : (enqueueResponsePayload ra (endMessage s) payload).1.call.AtBoundary :=
    enqueueResponsePayload_boundary hend payload
  unfold finishMessage
  simp only
  split
  · split
    · exact hpush
    · exact ⟨hpush, rfl⟩
  · exact ⟨hend, rfl⟩

/-- A round that rejects a message settles. -/
theorem rejectFrame_settles {s : CallbackState} (hbuf : s.call.responseHeaderBuf.length = 5)
    (hpayload : s.call.responsePayload = none) (e : RejectReason) (offset : Nat) :
    (rejectFrame s (mark e) offset).Settles offset := by
  obtain ⟨-, -, -, hb, -, hp, -⟩ := mark_frame e s.call
  have hreset : (resetMessage (discardBody (mark e s.call))).AtBoundary :=
    ⟨(congrArg List.length hb).trans hbuf, rfl, hp.trans hpayload, rfl, rfl⟩
  unfold rejectFrame
  simp only
  split
  · rw [Round.Settles, submitRstStream_call]
    exact hreset
  · rw [Round.Settles, submitRstStream_call]
    exact ⟨hreset, rfl⟩

/-- The header of the message in flight. -/
structure ValidHeader (call : GrpcCall) (len : Nat) : Prop where
  /-- The header buffer has its fixed size. -/
  buffer : call.responseHeaderBuf.length = 5
  /-- The header is complete. -/
  header : call.responseHeaderLen = 5
  /-- The message is not compressed. -/
  flag : call.responseHeaderBuf.getD 0 0 = 0
  /-- The length is the declared one. -/
  declared : len = call.declaredLen
  /-- The length is within the receive limit. -/
  limit : len ≤ call.maxReceiveMessageBytes

/-- The payload part of a round finishes the message or keeps all bytes of the chunk. -/
theorem payloadRound_keeps {ra : ReadAhead} {seen data : Bytes} {s : CallbackState}
    {first offset len : Nat} {got p : Bytes} (hvalid : ValidHeader s.call len)
    (hin : InPayload s.call len got p (data.length - offset)) (hoff : offset ≤ data.length)
    (hfirst : first < offset + (len - got.length)) (hdata : first < data.length)
    (hseen : ∃ before, seen ++ data.take offset = before ++ s.call.responseHeaderBuf ++ got) :
    (payloadRound ra data s offset).Keeps seen data first := by
  by_cases hfin : len ≤ got.length + (data.length - offset)
  · rw [payloadRound_finish hin hfin]
    refine (finishMessage_settles ?_ _ _).keeps hfirst (by omega) seen
    exact hvalid.buffer
  · rw [payloadRound_short hin hoff (by omega)]
    have hlen : (got ++ data.drop offset).length < len := by
      rw [List.length_append, List.length_drop]
      omega
    refine ⟨hdata, Nat.le_refl _, ⟨hvalid.buffer, hvalid.header.le, ?_, ?_, ?_⟩, ?_⟩
    · exact ⟨fun _ => hvalid.header, fun _ => rfl⟩
    · intro payload hp
      obtain rfl := Option.some.inj hp
      have hpl : s.call.responsePayloadLen = len := hin.payloadLen
      exact ⟨hvalid.header, hvalid.flag, hpl.trans hvalid.declared, hpl.le.trans hvalid.limit, rfl,
        hlen.trans_eq hpl.symm⟩
    · intro hnone
      cases hnone
    · obtain ⟨before, hbefore⟩ := hseen
      refine ⟨before, ?_⟩
      have hall : seen ++ data.take data.length =
          (seen ++ data.take offset) ++ data.drop offset := by
        rw [List.take_length, List.append_assoc, List.take_append_drop]
      have htake : s.call.responseHeaderBuf.take s.call.responseHeaderLen =
          s.call.responseHeaderBuf := List.take_of_length_le (by
        rw [hvalid.header, hvalid.buffer])
      simp only [Option.getD_some, hall, hbefore, htake, List.append_assoc]

/-- What an accepted header needs of the call behind it. -/
theorem headerRound_keeps {ra : ReadAhead} {seen data : Bytes} {s : CallbackState}
    {first offset : Nat} (hbuf : s.call.responseHeaderBuf.length = 5)
    (hheader : s.call.responseHeaderLen = 5) (hpayload : s.call.responsePayload = none)
    (hfirst : first < offset) (hoff : offset ≤ data.length)
    (hseen : ∃ before, seen ++ data.take offset = before ++ s.call.responseHeaderBuf) :
    (headerRound ra data s offset).Keeps seen data first := by
  have hreject (e : RejectReason) (len : Nat) :
      (rejectFrame (countHeader s len) (mark e) offset).Keeps seen data first :=
    (rejectFrame_settles (s := countHeader s len) hbuf hpayload e offset).keeps hfirst hoff seen
  unfold headerRound
  simp only
  split
  · exact hreject .tooManyMessages _
  split
  · exact hreject .tooLarge _
  next hlimit =>
  split
  · exact hreject .tooLarge _
  split
  · exact hreject .badFlag _
  next hflag =>
  split
  · exact hreject .compressed _
  next hcompressed =>
  split
  · exact markReadAheadLimitExceeded_boundary hbuf hpayload
  · have hzero : s.call.responseHeaderBuf.getD 0 0 = 0 := by
      rw [gt_iff_lt, UInt8.lt_iff_toNat_lt] at hflag
      rw [← UInt8.toNat_inj] at hcompressed ⊢
      simp only [UInt8.reduceToNat] at hflag hcompressed ⊢
      omega
    obtain ⟨before, hbefore⟩ := hseen
    refine @payloadRound_keeps ra seen data _ first offset s.call.declaredLen []
      (List.replicate (min (data.length - offset) s.call.declaredLen) 0) ?_ ?_ hoff (by omega)
      (by omega) ⟨before, ?_⟩
    · exact ⟨hbuf, hheader, hzero, rfl, Nat.not_lt.mp hlimit⟩
    · refine ⟨rfl, rfl, rfl, rfl, Nat.zero_le _, ?_⟩
      rw [List.length_replicate, List.length_nil]
      omega
    · rw [List.append_nil]
      exact hbefore

/-- Every round of the loop. -/
theorem directRound_keeps {ra : ReadAhead} {seen data : Bytes} {s : CallbackState} {offset : Nat}
    (h : s.call.InFlight) (hoff : offset < data.length)
    (hends : s.call.EndsIn (seen ++ data.take offset)) :
    (directRound ra data s offset).Keeps seen data offset := by
  obtain ⟨before, hbefore⟩ := hends
  unfold directRound
  split
  · next hshort =>
    have hnone : s.call.responsePayload = none := by
      rw [← Option.not_isSome_iff_eq_none, h.present]
      omega
    have hidle := h.idle hnone
    rw [hnone, Option.getD_none, List.append_nil] at hbefore
    simp only
    -- The bytes of the header that this chunk brings.
    generalize htake : min (5 - s.call.responseHeaderLen) (data.length - offset) = take
    have hlen : ((data.drop offset).take take).length = take := by
      rw [List.length_take, List.length_drop]
      omega
    have hin : s.call.responseHeaderLen + ((data.drop offset).take take).length ≤
        s.call.responseHeaderBuf.length := by
      rw [hlen, h.buffer]
      omega
    have hbuf : (writeAt s.call.responseHeaderBuf s.call.responseHeaderLen
        ((data.drop offset).take take)).length = 5 := by rw [length_writeAt hin, h.buffer]
    have hread : seen ++ data.take (offset + take) = before ++
        (writeAt s.call.responseHeaderBuf s.call.responseHeaderLen
          ((data.drop offset).take take)).take (s.call.responseHeaderLen + take) := by
      have hwrite := @take_writeAt s.call.responseHeaderBuf ((data.drop offset).take take)
        s.call.responseHeaderLen (by omega)
      rw [hlen] at hwrite
      rw [hwrite, ← List.append_assoc, ← hbefore, List.append_assoc, List.take_add]
    split
    · next hpart =>
      refine ⟨by omega, by omega, ⟨hbuf, ?_, ?_, ?_, fun _ => hidle⟩, before, ?_⟩
      · exact hpart.le
      · simp only [hnone]
        constructor
        · intro hsome
          cases hsome
        · omega
      · intro payload hp
        rw [hnone] at hp
        cases hp
      · simp only [hnone, Option.getD_none, List.append_nil]
        exact hread
    · next hfull =>
      have hfive : s.call.responseHeaderLen + take = 5 := by omega
      refine headerRound_keeps hbuf hfive hnone (by omega) (by omega) ⟨before, ?_⟩
      rw [hread, hfive, List.take_of_length_le hbuf.le]
  · next hfull =>
    have hheader : s.call.responseHeaderLen = 5 := by
      have := h.header
      omega
    obtain ⟨payload, hpayload⟩ := Option.isSome_iff_exists.mp (h.present.mpr hheader)
    have hun := h.unfinished payload hpayload
    refine payloadRound_keeps
      ⟨h.buffer, hheader, hun.flag, hun.declared, hun.limit⟩
      ⟨hpayload, rfl, hun.received.symm, List.take_length, ?_, ?_⟩ hoff.le ?_ hoff ⟨before, ?_⟩
    · rw [hun.received]
      exact hun.short.le
    · omega
    · have := hun.short
      rw [hun.received]
      omega
    · rw [hbefore, hheader, List.take_of_length_le h.buffer.le, hpayload, Option.getD_some]

/-- The parser reads no further byte. -/
def halted (call : GrpcCall) : Bool :=
  call.grpcStatusSeen || call.discardResponseBody || decodingStopped call

/-- What the loop leaves behind: all bytes of the chunk were read, or the parser has stopped. -/
theorem directLoop_keeps {ra : ReadAhead} {seen data : Bytes} (fuel : Nat) {s : CallbackState}
    {offset : Nat} (h : s.call.InFlight) (hends : s.call.EndsIn (seen ++ data.take offset))
    (hoff : offset ≤ data.length) (hfuel : data.length - offset ≤ fuel) :
    (directLoop ra data fuel s offset).1.call.InFlight ∧
      ((directLoop ra data fuel s offset).1.call.EndsIn (seen ++ data) ∨
        halted (directLoop ra data fuel s offset).1.call = true ∧
          ∃ n, (directLoop ra data fuel s offset).1.call.EndsIn (seen ++ data.take n)) := by
  induction fuel generalizing s offset with
  | zero =>
    rw [List.take_of_length_le (by omega)] at hends
    exact ⟨h, .inl hends⟩
  | succ fuel ih =>
    unfold directLoop
    split
    · next hgo =>
      have hround : (directRound ra data s offset).Keeps seen data offset :=
        directRound_keeps h hgo.1 hends
      cases hr : directRound ra data s offset with
      | done s' rv =>
        rw [hr] at hround
        exact ⟨hround.inFlight, .inl (hround.endsIn _)⟩
      | next s' offset' =>
        rw [hr] at hround
        obtain ⟨hlt, hle, hin, hends'⟩ := hround
        exact ih hin hends' hle (by omega)
    · next hstay =>
      by_cases hlt : offset < data.length
      · have hstop : decodingStopped s.call = true := by
          by_contra hnot
          exact hstay ⟨hlt, by simpa using hnot⟩
        refine ⟨h, .inr ⟨?_, offset, hends⟩⟩
        simp only [halted, hstop, Bool.or_true]
      · rw [List.take_of_length_le (by omega)] at hends
        exact ⟨h, .inl hends⟩

/-! ## Writes stay inside -/

/-- The payload of a round is written inside the string. -/
theorem payloadWrites_inside {data : Bytes} {call : GrpcCall} {offset len : Nat} {got p : Bytes}
    (hin : InPayload call len got p (data.length - offset)) :
    ∀ write ∈ payloadWrites data call offset, write.Inside := by
  have hroom := hin.room
  have hgot : got.length ≤ p.length := by
    have := congrArg List.length hin.received
    rw [List.length_take] at this
    omega
  intro write hmem
  simp only [payloadWrites, hin.payload, hin.payloadLen, hin.payloadOffset] at hmem
  generalize htake : min (len - got.length) (data.length - offset) = take at hmem hroom
  rcases List.mem_append.mp hmem with hcopy | hend
  · split at hcopy
    · rw [List.mem_singleton.mp hcopy, PayloadWrite.Inside]
      simp only [Bool.false_eq_true, if_false]
      split <;> omega
    · exact absurd hcopy List.not_mem_nil
  · split at hend
    · rw [List.mem_singleton.mp hend, PayloadWrite.Inside]
      simp only [if_true, and_true]
      split <;> omega
    · exact absurd hend List.not_mem_nil

/-- The header bytes of a round are written inside the buffer. -/
theorem headerWrites_inside (ra : ReadAhead) (data : Bytes) (s : CallbackState) (offset : Nat) :
    ∀ write ∈ headerWrites ra data s offset, write.Inside := by
  intro write hmem
  unfold headerWrites at hmem
  simp only at hmem
  -- The branches that reject the header write nothing.
  iterate 6
    split at hmem
    · exact absurd hmem List.not_mem_nil
  rcases List.mem_append.mp hmem with hempty | hrest
  · split at hempty
    · next hzero =>
      rw [List.mem_singleton.mp hempty, PayloadWrite.Inside, List.length_replicate, hzero]
      simp
    · exact absurd hempty List.not_mem_nil
  · refine @payloadWrites_inside data _ offset s.call.declaredLen []
      (List.replicate (min (data.length - offset) s.call.declaredLen) 0) ?_ write hrest
    refine ⟨rfl, rfl, rfl, rfl, Nat.zero_le _, ?_⟩
    rw [List.length_replicate, List.length_nil]
    omega

/-- A round writes inside its buffers. -/
theorem roundWrites_inside {ra : ReadAhead} {data : Bytes} {s : CallbackState} {offset : Nat}
    (h : s.call.InFlight) : ∀ write ∈ roundWrites ra data s offset, write.Inside := by
  intro write hmem
  unfold roundWrites at hmem
  split at hmem
  · simp only at hmem
    split at hmem
    · exact absurd hmem List.not_mem_nil
    · exact headerWrites_inside ra data _ _ write hmem
  · next hfull =>
    have hheader : s.call.responseHeaderLen = 5 := by
      have := h.header
      omega
    obtain ⟨payload, hpayload⟩ := Option.isSome_iff_exists.mp (h.present.mpr hheader)
    have hun := h.unfinished payload hpayload
    refine payloadWrites_inside ⟨hpayload, rfl, hun.received.symm, List.take_length, ?_, ?_⟩ write
      hmem
    · rw [hun.received]
      exact hun.short.le
    · omega

/-- The loop over a chunk writes inside its buffers. -/
theorem loopWrites_inside {ra : ReadAhead} {seen data : Bytes} (fuel : Nat) {s : CallbackState}
    {offset : Nat} (h : s.call.InFlight) (hends : s.call.EndsIn (seen ++ data.take offset)) :
    ∀ write ∈ loopWrites ra data fuel s offset, write.Inside := by
  induction fuel generalizing s offset with
  | zero =>
    intro write hmem
    exact absurd hmem List.not_mem_nil
  | succ fuel ih =>
    intro write hmem
    unfold loopWrites at hmem
    split at hmem
    · next hgo =>
      rcases List.mem_append.mp hmem with hround | hrest
      · exact roundWrites_inside h write hround
      · have hkeeps : (directRound ra data s offset).Keeps seen data offset :=
          directRound_keeps h hgo.1 hends
        cases hr : directRound ra data s offset with
        | done s' rv =>
          rw [hr] at hrest
          exact absurd hrest List.not_mem_nil
        | next s' offset' =>
          rw [hr] at hrest hkeeps
          obtain ⟨-, -, hin, hends'⟩ := hkeeps
          exact ih hin hends' write hrest
    · exact absurd hmem List.not_mem_nil

/-- A chunk is written inside the buffers. -/
theorem chunkWrites_inside {s : CallbackState} (h : s.call.InFlight) (ra : ReadAhead)
    (data : Bytes) : ∀ write ∈ chunkWrites ra s data, write.Inside := by
  intro write hmem
  unfold chunkWrites at hmem
  split at hmem
  · exact absurd hmem List.not_mem_nil
  split at hmem
  · exact absurd hmem List.not_mem_nil
  · have hends : s.call.EndsIn ((s.call.responseHeaderBuf.take s.call.responseHeaderLen ++
        s.call.responsePayload.getD []) ++ data.take 0) := by
      refine ⟨[], ?_⟩
      rw [List.take_zero, List.append_nil, List.nil_append]
    exact loopWrites_inside data.length h hends write hmem

/-- A stopped parser leaves its fields alone. -/
theorem processResponseDataDirect_halted {ra : ReadAhead} {s : CallbackState}
    (h : halted s.call = true) (data : Bytes) :
    (processResponseDataDirect ra s data).1.call.parser = s.call.parser ∧
      halted (processResponseDataDirect ra s data).1.call = true := by
  unfold processResponseDataDirect
  split
  · next hstatus =>
    rw [rejectDataAfterStatus, submitRstStream_call]
    refine ⟨rfl, ?_⟩
    simp only [halted, discardBody, hstatus, Bool.true_or]
  · next hstatus =>
    split
    · exact ⟨rfl, h⟩
    · next hdiscard =>
      have hstop : decodingStopped s.call = true := by
        simpa only [halted, Bool.not_eq_true _ ▸ hstatus, Bool.not_eq_true _ ▸ hdiscard,
          Bool.false_or] using h
      have hsame : directLoop ra data data.length s 0 = (s, 0) := by
        cases data.length with
        | zero => rfl
        | succ fuel =>
          unfold directLoop
          rw [if_neg]
          simp only [hstop, Bool.not_true, Bool.false_eq_true, and_false, not_false_iff]
      rw [hsame]
      exact ⟨rfl, h⟩

end CallbackState

/-! ## Inputs -/

namespace GrpcCall

open CallbackState

/-- Only body bytes reach the parser. -/
theorem apply_parserState (call : GrpcCall) {i : CallInput}
    (h : ∀ ra answers bytes, i ≠ .event ra answers (.data bytes)) :
    (call.apply i).parser = call.parser := by
  cases i with
  | event ra answers event =>
    cases event with
    | header cat name value =>
      exact field_of_eraseHeaders (call.apply_header_eraseHeaders ra answers cat name value)
        parser fun _ => rfl
    | headersEnd cat endStream =>
      exact field_of_eraseHeaders (call.apply_headersEnd_eraseHeaders ra answers cat endStream)
        parser fun _ => rfl
    | data bytes => exact absurd rfl (h ra answers bytes)
    | pushPromise =>
      simp only [apply, onEvent, onPushPromise, submitRstStream_call]
      rfl
    | rstStream | closed => rfl
  | connectionBroken errno detail =>
    simp only [apply]
    split <;> rfl
  | dequeue =>
    simp only [apply, dequeueResponsePayload]
    cases call.responseQueue <;> rfl
  | take =>
    simp only [apply, unaryTakeResponsePayload]
    cases call.responseQueue <;> rfl
  | refused | submitted | registered | unregistered | ownerCleared | timedOut | ioError
  | locallyCancelled | userCancelled | freeQueue | truncated | requestSent => rfl

/-- The three reasons to stop are never taken back. -/
structure StopsWith (call call' : GrpcCall) : Prop where
  /-- A grpc-status stays seen. -/
  status : call.grpcStatusSeen = true → call'.grpcStatusSeen = true
  /-- A discarded body stays discarded. -/
  discard : call.discardResponseBody = true → call'.discardResponseBody = true
  /-- A stopped decoder stays stopped. -/
  decoding : decodingStopped call = true → decodingStopped call' = true

/-- A halted call stays halted. -/
theorem StopsWith.halted {call call' : GrpcCall} (h : call.StopsWith call')
    (hhalted : halted call = true) : CallbackState.halted call' = true := by
  simp only [CallbackState.halted, Bool.or_eq_true] at hhalted ⊢
  exact hhalted.imp (Or.imp h.status h.discard) h.decoding

/-- What leaves the reasons to stop alone. -/
theorem StopsWith.of_same {call call' : GrpcCall}
    (hstatus : call'.grpcStatusSeen = call.grpcStatusSeen)
    (hdiscard : call'.discardResponseBody = call.discardResponseBody)
    (hdecoding : decodingStopped call' = decodingStopped call) : call.StopsWith call' :=
  ⟨hstatus.trans, hdiscard.trans, hdecoding.trans⟩

/-- A metadata field may discard the body, and does not take it up again. -/
theorem addResponseMetadataEntry_stopsWith (s : CallbackState) (name value : Bytes)
    (trailing : Bool) :
    s.call.StopsWith (s.addResponseMetadataEntry name value trailing).1.call := by
  have hdiscard : s.call.StopsWith (discardBody { s.call with metadataTooLarge := true }) :=
    ⟨id, fun _ => rfl, id⟩
  unfold CallbackState.addResponseMetadataEntry
  dsimp only
  split
  · exact .of_same rfl rfl rfl
  split
  · split
    · rw [submitRstStream_call]
      exact hdiscard
    · exact hdiscard
  · exact .of_same rfl rfl rfl

/-- A field does not take the body up again. -/
theorem headerField_stopsWith (cat : HeaderCategory) (name value : Bytes) (call : GrpcCall) :
    call.StopsWith (headerField cat name value call) := by
  unfold headerField
  dsimp only
  split
  · split <;> exact .of_same rfl rfl rfl
  split
  · exact .of_same rfl rfl rfl
  split
  · split
    · exact .of_same rfl rfl rfl
    · exact ⟨id, fun _ => rfl, id⟩
  split <;> exact .of_same rfl rfl rfl

/-- Nor does a status. -/
theorem headerGrpcStatus_stopsWith (cat : HeaderCategory) (value : Bytes) (call : GrpcCall) :
    call.StopsWith (headerGrpcStatus cat value call) := by
  have hseen : ∀ c : GrpcCall, (headerGrpcStatus cat value c).grpcStatusSeen = true := by
    intro c
    unfold headerGrpcStatus
    dsimp only
    split <;> split <;> rfl
  have hdiscard : (headerGrpcStatus cat value call).discardResponseBody =
      call.discardResponseBody := by
    unfold headerGrpcStatus
    dsimp only
    split <;> split <;> split <;> rfl
  have hdecoding : decodingStopped (headerGrpcStatus cat value call) = decodingStopped call := by
    unfold headerGrpcStatus
    dsimp only
    split <;> split <;> split <;> rfl
  exact ⟨fun _ => hseen call, hdiscard.trans, hdecoding.trans⟩

/-- Nor does the end of a header block. -/
theorem onHeadersFrame_stopsWith (cat : HeaderCategory) (endStream : Bool) (call : GrpcCall) :
    call.StopsWith (onHeadersFrame cat endStream call) := by
  unfold onHeadersFrame
  cases cat with
  | response =>
    dsimp only
    split
    · split
      · exact ⟨id, fun _ => rfl, id⟩
      · exact ⟨id, fun _ => rfl, id⟩
    · split
      · exact ⟨id, fun _ => rfl, id⟩
      · exact .of_same rfl rfl rfl
  | headers =>
    dsimp only
    split <;> exact .of_same rfl rfl rfl
  | other => exact .of_same rfl rfl rfl

/-- No input takes back a reason to stop. -/
theorem apply_stopsWith (call : GrpcCall) {i : CallInput}
    (h : ∀ ra answers bytes, i ≠ .event ra answers (.data bytes)) :
    call.StopsWith (call.apply i) := by
  cases i with
  | event ra answers event =>
    cases event with
    | header cat name value =>
      simp only [apply, onEvent, onHeader]
      split
      · exact headerGrpcStatus_stopsWith cat value call
      split
      · split <;> exact .of_same rfl rfl rfl
      · have hfield := headerField_stopsWith cat name value call
        have hadd := addResponseMetadataEntry_stopsWith
          ⟨headerField cat name value call, answers, []⟩ name value
          (decide (cat ≠ .response) || decide (call.grpcStatus ≥ 0) ||
            decide (name = HeaderName.grpcStatusDetailsBin))
        exact ⟨hadd.status ∘ hfield.status, hadd.discard ∘ hfield.discard,
          hadd.decoding ∘ hfield.decoding⟩
    | headersEnd cat endStream => exact onHeadersFrame_stopsWith cat endStream call
    | data bytes => exact absurd rfl (h ra answers bytes)
    | pushPromise =>
      simp only [apply, onEvent, onPushPromise, submitRstStream_call]
      refine ⟨id, fun _ => rfl, fun _ => ?_⟩
      simp only [decodingStopped, discardBody, Bool.or_true]
    | rstStream | closed => exact .of_same rfl rfl rfl
  | connectionBroken errno detail =>
    simp only [apply]
    split <;> exact .of_same rfl rfl rfl
  | dequeue =>
    simp only [apply, dequeueResponsePayload]
    cases call.responseQueue <;> exact .of_same rfl rfl rfl
  | take =>
    simp only [apply, unaryTakeResponsePayload]
    cases call.responseQueue <;> exact .of_same rfl rfl rfl
  | truncated =>
    refine ⟨id, id, fun _ => ?_⟩
    simp only [apply, decodingStopped, Bool.or_true]
  | refused | submitted | registered | unregistered | ownerCleared | timedOut | ioError
  | locallyCancelled | userCancelled | freeQueue | requestSent => exact .of_same rfl rfl rfl

/-- A call whose message in flight ends what it has been given, or that stopped before. -/
structure Follows (call : GrpcCall) (bytes : Bytes) : Prop where
  /-- The parser fields are in order. -/
  inFlight : call.InFlight
  /-- The bytes of the message in flight are the last ones, as long as the parser reads. -/
  ends : call.EndsIn bytes ∨
    halted call = true ∧ ∃ received, received <+: bytes ∧ call.EndsIn received

/-- A stopped parser. -/
theorem Follows.stop {call call' : GrpcCall} {bytes : Bytes} (h : call.Follows bytes)
    (hparser : call'.parser = call.parser) (hhalted : halted call' = true) (more : Bytes) :
    call'.Follows (bytes ++ more) := by
  refine ⟨h.inFlight.of_parserState hparser, .inr ⟨hhalted, ?_⟩⟩
  rcases h.ends with hends | ⟨-, received, hpre, hends⟩
  · exact ⟨bytes, List.prefix_append _ _, hends.of_parserState hparser⟩
  · exact ⟨received, hpre.trans (List.prefix_append _ _), hends.of_parserState hparser⟩

/-- A chunk moves the message in flight on, finishes it or stops the parser. -/
theorem Follows.data {call : GrpcCall} {bytes : Bytes} (h : call.Follows bytes)
    (hdirect : call.Direct) (ra : ReadAhead) (answers : List Int) (chunk : Bytes) :
    (call.apply (.event ra answers (.data chunk))).Follows (bytes ++ chunk) := by
  rcases call.apply_data hdirect ra answers chunk with ⟨hsame, rfl⟩ | ⟨hseen, hreject⟩ |
    ⟨hseen, hdata⟩
  · rw [hsame, List.append_nil]
    exact h
  · have hparser : (call.apply (.event ra answers (.data chunk))).parser = call.parser := by
      rw [hreject]
      rfl
    refine h.stop hparser ?_ chunk
    rw [hreject]
    simp only [halted, discardBody, hseen, Bool.true_or]
  · rw [hdata]
    by_cases hhalted : halted call = true
    · obtain ⟨hparser, hstill⟩ :=
        @processResponseDataDirect_halted ra ⟨call, answers, []⟩ hhalted chunk
      exact h.stop hparser hstill chunk
    · have hends := h.ends.resolve_right fun hstop => hhalted hstop.1
      have hdiscard : call.discardResponseBody = false := by
        by_contra hdis
        refine hhalted ?_
        simp only [halted, Bool.not_eq_false _ ▸ hdis, Bool.or_true, Bool.true_or]
      have hloop : (processResponseDataDirect ra ⟨call, answers, []⟩ chunk) =
          directLoop ra chunk chunk.length ⟨call, answers, []⟩ 0 := by
        simp only [processResponseDataDirect, hseen, hdiscard, Bool.false_eq_true, if_false]
      rw [hloop]
      have hstart : call.EndsIn (bytes ++ chunk.take 0) := by
        rw [List.take_zero, List.append_nil]
        exact hends
      obtain ⟨hin, hall | ⟨hstop, n, hpart⟩⟩ :=
        @directLoop_keeps ra bytes chunk chunk.length ⟨call, answers, []⟩ 0 h.inFlight hstart
          (Nat.zero_le _) (Nat.le_refl _)
      · exact ⟨hin, .inl hall⟩
      · refine ⟨hin, .inr ⟨hstop, _, ?_, hpart⟩⟩
        exact (List.prefix_append_right_inj bytes).mpr (List.take_prefix n chunk)

/-- An input keeps the parser at the end of the bytes so far. -/
theorem Follows.apply {call : GrpcCall} {bytes : Bytes} (h : call.Follows bytes)
    (hdirect : call.Direct) (i : CallInput) : (call.apply i).Follows (bytes ++ i.bytes) := by
  by_cases hdata : ∃ ra answers chunk, i = .event ra answers (.data chunk)
  · obtain ⟨ra, answers, chunk, rfl⟩ := hdata
    exact h.data hdirect ra answers chunk
  · have hother : ∀ ra answers chunk, i ≠ .event ra answers (.data chunk) := by
      intro ra answers chunk heq
      exact hdata ⟨ra, answers, chunk, heq⟩
    have hparser := call.apply_parserState hother
    by_cases hhalted : halted call = true
    · exact h.stop hparser ((call.apply_stopsWith hother).halted hhalted) i.bytes
    · have hbytes : i.bytes = [] := by
        cases i with
        | event ra answers event =>
          cases event with
          | data chunk => exact absurd rfl (hother ra answers chunk)
          | _ => rfl
        | _ => rfl
      have hends := h.ends.resolve_right fun hstop => hhalted hstop.1
      rw [hbytes, List.append_nil]
      exact ⟨h.inFlight.of_parserState hparser, .inl (hends.of_parserState hparser)⟩

/-- So does any number of inputs. -/
theorem Follows.applyAll {call : GrpcCall} {bytes : Bytes} (h : call.Follows bytes)
    (hdirect : call.Direct) (inputs : List CallInput) :
    (call.applyAll inputs).Follows (bytes ++ inputs.flatMap CallInput.bytes) := by
  induction inputs generalizing call bytes with
  | nil =>
    rw [List.flatMap_nil, List.append_nil]
    exact h
  | cons i inputs ih =>
    rw [List.flatMap_cons, ← List.append_assoc]
    exact ih (h.apply hdirect i) (hdirect.apply i)

/-- A call of the drivers starts between two messages. -/
theorem Started.atBoundary {start : GrpcCall} {k : ConnId} (h : start.Started k) :
    start.AtBoundary := by
  obtain ⟨req, retryAttempt, rfl | rfl⟩ := h
  · exact ⟨rfl, rfl, rfl, rfl, rfl⟩
  · exact ⟨rfl, rfl, rfl, rfl, rfl⟩

end GrpcCall

/-- Whatever a call of a driver has been given, in whatever chunks and with whatever reader: its
parser fields are in order, the payload bytes it holds are the last ones of the body bytes it has
read, directly behind their header, and a further chunk writes inside the payload string only. -/
theorem inFlightPayload {start : GrpcCall} {k : ConnId} (hstart : start.Started k)
    (inputs : List CallInput) :
    (start.applyAll inputs).InFlight ∧
      (∃ received, received <+: inputs.flatMap CallInput.bytes ∧
        (start.applyAll inputs).EndsIn received) ∧
      ∀ (ra : ReadAhead) (answers : List Int) (chunk : Bytes),
        ∀ write ∈ CallbackState.chunkWrites ra ⟨start.applyAll inputs, answers, []⟩ chunk,
          write.Inside := by
  have hfirst : start.Follows [] := ⟨hstart.atBoundary.inFlight, .inl (hstart.atBoundary.endsIn [])⟩
  have hfollows := hfirst.applyAll hstart.direct inputs
  rw [List.nil_append] at hfollows
  refine ⟨hfollows.inFlight, ?_, fun ra answers chunk =>
    CallbackState.chunkWrites_inside hfollows.inFlight ra chunk⟩
  rcases hfollows.ends with hends | ⟨-, received, hpre, hends⟩
  · exact ⟨_, List.prefix_rfl, hends⟩
  · exact ⟨received, hpre, hends⟩

/-- A message of two bytes in a first chunk, and behind it four bytes of one that declares
`2 ^ 32 - 1`, under a reader without a receive limit. -/
theorem inFlightPayload_declaredFar :
    ((CallRequest.startCall { key := [], maxReceiveMessageLength := -1 } 0 0).applyAll
      [.event ⟨false, 32, 8388608⟩ [] (.data [0, 0, 0, 0, 2, 7]),
        .event ⟨false, 32, 8388608⟩ [] (.data [8, 0, 255, 255, 255, 255, 1, 2]),
        .event ⟨false, 32, 8388608⟩ [] (.data [3, 4])]).responsePayload = some [1, 2, 3, 4] ∧
    ((CallRequest.startCall { key := [], maxReceiveMessageLength := -1 } 0 0).applyAll
      [.event ⟨false, 32, 8388608⟩ [] (.data [0, 0, 0, 0, 2, 7]),
        .event ⟨false, 32, 8388608⟩ [] (.data [8, 0, 255, 255, 255, 255, 1, 2]),
        .event ⟨false, 32, 8388608⟩ [] (.data [3, 4])]).InFlight :=
  ⟨by decide +kernel,
    (inFlightPayload ⟨{ key := [], maxReceiveMessageLength := -1 }, 0, .inr rfl⟩ _).1⟩

end GrpcLite
