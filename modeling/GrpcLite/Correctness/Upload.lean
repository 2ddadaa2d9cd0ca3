import GrpcLite.Correctness.ChunkIndependence
import GrpcLite.Exchange.Upload

/-!
# The request is sent exactly once

Whatever the frame-length limits of the library, the DATA frames of a request
carry its message header and its bytes once and in order, the end-of-data flag is
on the last frame alone, and the parser of the response direction decodes the
payloads back to the one request.
-/

namespace GrpcLite

open Framing

namespace GrpcCall

/-- Header and request, as the frames should carry them. -/
def requestBytes (call : GrpcCall) : Bytes := call.grpcHeader ++ call.request

@[simp] theorem requestBytes_advanceRequest (call : GrpcCall) (n : Nat) :
    (call.advanceRequest n).requestBytes = call.requestBytes := rfl

@[simp] theorem requestOffset_advanceRequest (call : GrpcCall) (n : Nat) :
    (call.advanceRequest n).requestOffset = call.requestOffset + n := rfl

theorem advanceRequest_add (call : GrpcCall) (m n : Nat) :
    (call.advanceRequest m).advanceRequest n = call.advanceRequest (m + n) := by
  simp only [advanceRequest, Nat.add_assoc]

theorem remainingRequestBytes_eq (call : GrpcCall) :
    call.remainingRequestBytes = call.requestBytes.length - call.requestOffset := by
  simp only [remainingRequestBytes, requestBytes, List.length_append]

/-- The message header on the wire is the framing of the request. -/
theorem requestBytes_setMessageHeader (call : GrpcCall) :
    (call.setMessageHeader call.request.length).requestBytes = encode [call.request] := by
  rw [encode, List.flatMap_singleton]
  rfl

/-- While bytes remain, a chunk is a nonempty part of them that starts at the offset. -/
theorem requestChunk_spec (call : GrpcCall) {length : Nat} (hpos : 0 < length)
    (hmore : call.requestOffset < call.requestBytes.length) :
    ∃ chunk, call.requestChunk length = some chunk ∧ 0 < chunk.length ∧ chunk.length ≤ length ∧
      chunk = (call.requestBytes.drop call.requestOffset).take chunk.length := by
  have hprefix (bs cs : Bytes) : bs.take length = ((bs ++ cs).take (bs.take length).length) := by
    rw [List.length_take, List.take_append_of_le_length (Nat.min_le_right _ _)]
    rcases Nat.le_total length bs.length with h | h
    · rw [Nat.min_eq_left h]
    · rw [Nat.min_eq_right h, List.take_of_length_le h, List.take_length]
  unfold requestChunk
  split
  · next hheader =>
    refine ⟨_, rfl, ?_, List.length_take_le _ _, ?_⟩
    · rw [List.length_take, List.length_drop]
      omega
    · rw [requestBytes, List.drop_append_of_le_length (Nat.le_of_lt hheader)]
      exact hprefix _ _
  · next hheader =>
    have hlen : call.requestBytes.length = call.grpcHeader.length + call.request.length :=
      List.length_append
    rw [if_neg (by omega)]
    refine ⟨_, rfl, ?_, List.length_take_le _ _, ?_⟩
    · rw [List.length_take, List.length_drop]
      omega
    · have hdrop : call.grpcHeader.drop call.requestOffset = [] :=
        List.drop_eq_nil_of_le (Nat.le_of_not_lt hheader)
      have htake := hprefix (call.request.drop (call.requestOffset - call.grpcHeader.length)) []
      rw [List.append_nil] at htake
      rw [requestBytes, List.drop_append, hdrop, List.nil_append]
      exact htake

/-- A frame within the remaining bytes takes the next bytes and no error. -/
theorem sendDataChunks_spec {fuel : Nat} (call : GrpcCall) {length : Nat} (hfuel : length ≤ fuel)
    (hle : call.requestOffset + length ≤ call.requestBytes.length) :
    ∃ chunks, sendDataChunks fuel call length = some (chunks, call.advanceRequest length) ∧
      chunks.flatten = (call.requestBytes.drop call.requestOffset).take length := by
  induction fuel generalizing call length with
  | zero =>
    obtain rfl := Nat.le_zero.mp hfuel
    exact ⟨[], rfl, rfl⟩
  | succ fuel ih =>
    cases length with
    | zero => exact ⟨[], rfl, rfl⟩
    | succ length =>
      obtain ⟨chunk, hchunk, hpos, hshort, heq⟩ :=
        call.requestChunk_spec (Nat.succ_pos length) (by omega)
      obtain ⟨chunks, hrest, hflat⟩ := ih (call.advanceRequest chunk.length)
        (show length + 1 - chunk.length ≤ fuel by omega)
        (by rw [requestOffset_advanceRequest, requestBytes_advanceRequest]; omega)
      refine ⟨chunk :: chunks, ?_, ?_⟩
      · simp only [sendDataChunks, hchunk, Option.bind_eq_bind, Option.bind_some, hrest,
          advanceRequest_add, Nat.add_sub_cancel' hshort]
        rfl
      · have hsplit : length + 1 = chunk.length + (length + 1 - chunk.length) := by omega
        rw [List.flatten_cons, hflat, requestOffset_advanceRequest, requestBytes_advanceRequest,
          hsplit, List.take_add, ← heq, List.drop_drop, ← hsplit]

/-- A loop that ends has written as many bytes as it was asked for. -/
theorem length_sendDataChunks {fuel : Nat} {call call' : GrpcCall} {length : Nat}
    {chunks : List Bytes} (h : sendDataChunks fuel call length = some (chunks, call')) :
    chunks.flatten.length = length := by
  induction fuel generalizing call call' length chunks with
  | zero =>
    cases length with
    | zero =>
      obtain ⟨rfl, -⟩ := Prod.mk.inj (Option.some.inj h)
      rfl
    | succ length => exact absurd h (Option.some_ne_none _).symm
  | succ fuel ih =>
    cases length with
    | zero =>
      obtain ⟨rfl, -⟩ := Prod.mk.inj (Option.some.inj h)
      rfl
    | succ length =>
      obtain ⟨chunk, hchunk, h⟩ := Option.bind_eq_some_iff.mp h
      obtain ⟨⟨rest, call₁⟩, hrest, h⟩ := Option.bind_eq_some_iff.mp h
      obtain ⟨rfl, -⟩ := Prod.mk.inj (Option.some.inj h)
      have hshort : chunk.length ≤ length + 1 := by
        unfold requestChunk at hchunk
        split at hchunk
        · exact Option.some.inj hchunk ▸ List.length_take_le _ _
        · split at hchunk
          · exact absurd hchunk (Option.some_ne_none _).symm
          · exact Option.some.inj hchunk ▸ List.length_take_le _ _
      rw [List.flatten_cons, List.length_append, ih hrest, Nat.add_sub_cancel' hshort]

/-- One frame: the bytes up to the limit, with the flag exactly when none remain. -/
theorem sendDataFrame_spec (call : GrpcCall) (limit : Nat)
    (hle : call.requestOffset ≤ call.requestBytes.length) :
    call.sendDataFrame limit = some
      (⟨(call.requestBytes.drop call.requestOffset).take limit,
        decide (call.requestBytes.length ≤ call.requestOffset + limit)⟩,
        call.advanceRequest (min (call.requestBytes.length - call.requestOffset) limit)) := by
  have hread : call.dataSourceReadCallback limit =
      (min (call.requestBytes.length - call.requestOffset) limit,
        decide (call.requestBytes.length ≤ call.requestOffset + limit)) := by
    simp only [dataSourceReadCallback, remainingRequestBytes_eq, Prod.mk.injEq, decide_eq_decide]
    split <;> omega
  obtain ⟨chunks, hchunks, hflat⟩ := call.sendDataChunks_spec
    (Nat.le_refl (min (call.requestBytes.length - call.requestOffset) limit)) (by omega)
  have htake : (call.requestBytes.drop call.requestOffset).take
      (min (call.requestBytes.length - call.requestOffset) limit) =
        (call.requestBytes.drop call.requestOffset).take limit := by
    rw [← List.length_drop, Nat.min_comm, ← List.take_take, List.take_length]
  simp only [sendDataFrame, hread, hchunks, hflat, htake, Option.bind_eq_bind, Option.bind_some]
  rfl

end GrpcCall

/-- The frames carry the bytes in order, and the end-of-data flag is on the last frame and on
no earlier one. -/
structure Carries (frames : List DataFrame) (bytes : Bytes) : Prop where
  /-- The payloads are the bytes. -/
  payload : (frames.map DataFrame.payload).flatten = bytes
  /-- The flags of the frames. -/
  eof : ∃ pre last, frames = pre ++ [last] ∧ last.eof = true ∧ ∀ frame ∈ pre, frame.eof = false

namespace GrpcCall

/-- Under positive limits every read is served; the frames carry the bytes up to the sum of the
limits, and they are complete as soon as that sum reaches the remaining bytes. -/
theorem upload_spec (call : GrpcCall) (limits : List Nat) (hpos : ∀ limit ∈ limits, 0 < limit)
    (hmore : call.requestOffset < call.requestBytes.length) :
    ∃ frames call', call.upload limits = some (frames, call') ∧
      (call.requestOffset + limits.sum < call.requestBytes.length →
        frames.length = limits.length ∧ call' = call.advanceRequest limits.sum) ∧
      (call.requestBytes.length ≤ call.requestOffset + limits.sum →
        Carries frames (call.requestBytes.drop call.requestOffset)) := by
  induction limits generalizing call with
  | nil =>
    refine ⟨[], call, rfl, fun _ => ⟨rfl, rfl⟩, fun h => ?_⟩
    simp only [List.sum_nil] at h
    omega
  | cons limit limits ih =>
    have hlimit := hpos limit List.mem_cons_self
    simp only [upload, call.sendDataFrame_spec limit (Nat.le_of_lt hmore), Option.bind_eq_bind,
      Option.bind_some, decide_eq_true_eq, List.sum_cons]
    by_cases hlast : call.requestBytes.length ≤ call.requestOffset + limit
    · rw [if_pos hlast]
      refine ⟨_, _, rfl, fun h => absurd h (by omega), fun _ => ⟨?_, [], _, rfl, ?_, ?_⟩⟩
      · rw [List.map_singleton, List.flatten_singleton]
        exact List.take_of_length_le (by rw [List.length_drop]; omega)
      · exact decide_eq_true hlast
      · exact fun _ h => absurd h List.not_mem_nil
    · rw [if_neg hlast]
      have hmin : min (call.requestBytes.length - call.requestOffset) limit = limit := by omega
      rw [hmin]
      obtain ⟨frames, call', hrest, hshort, hfull⟩ := ih (call.advanceRequest limit)
        (fun l hl => hpos l (List.mem_cons_of_mem _ hl))
        (by rw [requestOffset_advanceRequest, requestBytes_advanceRequest]; omega)
      rw [requestOffset_advanceRequest, requestBytes_advanceRequest] at hshort hfull
      rw [hrest]
      refine ⟨_, _, rfl, fun h => ?_, fun h => ?_⟩
      · obtain ⟨hlen, rfl⟩ := hshort (by omega)
        exact ⟨by rw [List.length_cons, List.length_cons, hlen], advanceRequest_add ..⟩
      · obtain ⟨hpayload, pre, last, rfl, heof, hpre⟩ := hfull (by omega)
        refine ⟨?_, _ :: pre, last, rfl, heof, ?_⟩
        · rw [List.map_cons, List.flatten_cons, hpayload, ← List.drop_drop]
          exact List.take_append_drop _ _
        · intro frame hframe
          rcases List.mem_cons.mp hframe with rfl | hframe
          · exact decide_eq_false hlast
          · exact hpre frame hframe

/-- Positive limits add up to any bound. -/
private theorem exists_sum_range_ge {limits : Nat → Nat} (hpos : ∀ i, 0 < limits i) (bound : Nat) :
    bound ≤ ((List.range bound).map limits).sum := by
  induction bound with
  | zero => exact Nat.zero_le _
  | succ n ih =>
    have := hpos n
    rw [List.range_succ, List.map_append, List.sum_append, List.map_singleton, List.sum_singleton]
    omega

/-- Limits behind the end-of-data flag are not asked for. -/
theorem upload_append (call : GrpcCall) {limits more : List Nat} {frames : List DataFrame}
    {call' : GrpcCall} (h : call.upload limits = some (frames, call'))
    (heof : ∃ frame ∈ frames, frame.eof = true) :
    call.upload (limits ++ more) = some (frames, call') := by
  induction limits generalizing call frames with
  | nil =>
    obtain ⟨rfl, -⟩ := Prod.mk.inj (Option.some.inj h)
    obtain ⟨frame, hmem, -⟩ := heof
    exact absurd hmem List.not_mem_nil
  | cons limit limits ih =>
    simp only [upload, List.cons_append, Option.bind_eq_bind] at h ⊢
    obtain ⟨⟨frame, call₁⟩, hframe, h⟩ := Option.bind_eq_some_iff.mp h
    rw [hframe, Option.bind_some]
    dsimp only at h ⊢
    split at h
    · next hlast =>
      rw [if_pos hlast]
      exact h
    · next hlast =>
      obtain ⟨⟨frames₁, call₂⟩, hrest, h⟩ := Option.bind_eq_some_iff.mp h
      obtain ⟨rfl, rfl⟩ := Prod.mk.inj (Option.some.inj h)
      obtain ⟨frame', hmem, heof'⟩ := heof
      rw [if_neg hlast]
      rcases List.mem_cons.mp hmem with rfl | hmem
      · exact absurd heof' hlast
      · rw [ih call₁ hrest ⟨frame', hmem, heof'⟩]
        rfl

end GrpcCall

/-- A fresh call decodes the framing of one message within its limit to that message. -/
theorem CallbackState.feedChunks_encode_singleton (ra : ReadAhead) (s : CallbackState)
    (chunks : List Bytes) (m : Bytes) (hra : ra.foreignReader = false) (h : s.call.FreshBody)
    (hlen : m.length < 2 ^ 32) (hlimit : m.length ≤ s.call.maxReceiveMessageBytes)
    (hchunks : chunks.flatten = encode [m]) :
    (s.feedChunks ra chunks).call.responseQueue = [m] := by
  have hdec := feedChunks_decodesTo ra s chunks hra h
  have hone : FramePrefix s.call.maxResponseMessages s.call.maxReceiveMessageBytes
      chunks.flatten [m] := by
    refine ⟨hchunks ▸ List.prefix_refl _, ?_, fun hpos => hpos⟩
    intro m' hm'
    obtain rfl := List.mem_singleton.mp hm'
    exact ⟨hlen, hlimit⟩
  obtain ⟨rest, hrest⟩ := hdec.longest [m] hone
  have henc := hdec.accepted.encodes.length_le
  rw [hchunks, ← hrest, encode_append, List.length_append] at henc
  have hnil : rest = [] := by
    cases rest with
    | nil => rfl
    | cons m' rest =>
      have hframe : (encode (m' :: rest)).length ≥ 5 := by
        simp only [encode, encodeMessage, be32Bytes, List.flatMap_cons, List.cons_append,
          List.length_cons, List.length_append]
        omega
      omega
  rw [← hrest, hnil, List.append_nil]

namespace GrpcCall

/-- For every request with a 32-bit length and every sequence of positive frame-length limits,
no read or send of a DATA frame fails, the frames sent up to the end-of-data flag carry the
message header and the request, and a fresh call whose limit admits the request decodes their
payloads, in any chunks, to exactly the request. -/
theorem upload_carries_request (call : GrpcCall) (limits : Nat → Nat)
    (hoffset : call.requestOffset = 0) (hlen : call.request.length ≤ 2 ^ 32 - 1)
    (hpos : ∀ i, 0 < limits i) :
    (∀ n, ((call.setMessageHeader call.request.length).upload
      ((List.range n).map limits)).isSome = true) ∧
    ∃ n frames call', (∀ m, n ≤ m → (call.setMessageHeader call.request.length).upload
        ((List.range m).map limits) = some (frames, call')) ∧
      Carries frames (encode [call.request]) ∧
      ∀ (ra : ReadAhead) (s : CallbackState) (chunks : List Bytes), ra.foreignReader = false →
        s.call.FreshBody → call.request.length ≤ s.call.maxReceiveMessageBytes →
        chunks.flatten = (frames.map DataFrame.payload).flatten →
        (s.feedChunks ra chunks).call.responseQueue = [call.request] := by
  have hbytes := call.requestBytes_setMessageHeader
  have hstart : (call.setMessageHeader call.request.length).requestOffset = 0 := hoffset
  generalize call.setMessageHeader call.request.length = start at hbytes hstart ⊢
  have hmore : start.requestOffset < start.requestBytes.length := by
    rw [hstart, hbytes]
    simp only [encode, encodeMessage, be32Bytes, List.flatMap_cons, List.cons_append,
      List.length_cons]
    omega
  have hlist (n : Nat) : ∀ limit ∈ (List.range n).map limits, 0 < limit := by
    intro limit h
    obtain ⟨i, -, rfl⟩ := List.mem_map.mp h
    exact hpos i
  refine ⟨fun n => ?_, ?_⟩
  · obtain ⟨frames, call', hup, -, -⟩ := start.upload_spec _ (hlist n) hmore
    rw [hup]
    rfl
  · obtain ⟨frames, call', hup, -, hfull⟩ :=
      start.upload_spec _ (hlist start.requestBytes.length) hmore
    have hcarries := hfull (by
      rw [hstart, Nat.zero_add]
      exact exists_sum_range_ge hpos _)
    rw [hstart, List.drop_zero, hbytes] at hcarries
    refine ⟨start.requestBytes.length, frames, call', fun m hm => ?_, hcarries, ?_⟩
    · obtain ⟨pre, last, rfl, heof, -⟩ := hcarries.eof
      obtain ⟨d, rfl⟩ := Nat.exists_eq_add_of_le hm
      rw [List.range_add, List.map_append]
      exact start.upload_append hup ⟨last, List.mem_append_right _ (List.mem_singleton_self _), heof⟩
    · intro ra s chunks hra hfresh hlimit hchunks
      exact CallbackState.feedChunks_encode_singleton ra s chunks call.request hra hfresh (by omega)
        hlimit (hchunks.trans hcarries.payload)

/-- A request of three bytes under frames of at most four bytes. -/
theorem upload_carries_three_bytes : ∃ n frames call',
    (setMessageHeader { request := [1, 2, 3] } 3).upload ((List.range n).map fun _ => 4) =
      some (frames, call') ∧ Carries frames [0, 0, 0, 0, 3, 1, 2, 3] := by
  obtain ⟨-, n, frames, call', hup, hcarries, -⟩ :=
    upload_carries_request { request := [1, 2, 3] } (fun _ => 4) rfl (by decide) fun _ => by decide
  exact ⟨n, frames, call', hup n (Nat.le_refl n), hcarries⟩

end GrpcCall

end GrpcLite
