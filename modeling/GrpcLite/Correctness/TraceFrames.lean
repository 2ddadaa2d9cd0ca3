import GrpcLite.Correctness.Coalescing
import GrpcLite.Trace.Records

/-!
# The trace of what is sent

A chunk that the send callback passes on is a preface, whole frames and a rest, in
one way only. It is traced frame by frame: one record for each, in their order, and
one for a rest. A DATA frame goes out through a callback of its own, which traces its
header. Together they account for the bytes that a session hands to the writer.
-/

namespace GrpcLite

namespace Trace

/-! ## Frames -/

/-- A frame with the payload that its header announces. -/
def Whole (frame : Bytes) : Prop := 9 ≤ frame.length ∧ frame.length = frameLen frame + 9

/-- A whole frame comes first. -/
def StartsWhole (data : Bytes) : Prop := 9 ≤ data.length ∧ frameLen data + 9 ≤ data.length

instance : DecidablePred Whole := fun _ => inferInstanceAs (Decidable (_ ∧ _))

instance : DecidablePred StartsWhole := fun _ => inferInstanceAs (Decidable (_ ∧ _))

theorem byteAt_append {frame : Bytes} {i : Nat} (h : i < frame.length) (data : Bytes) :
    byteAt (frame ++ data) i = byteAt frame i := by
  simp only [byteAt, List.getD_eq_getElem?_getD, List.getElem?_append_left h]

theorem byteAt_take {data : Bytes} {i n : Nat} (h : i < n) :
    byteAt (data.take n) i = byteAt data i := by
  simp only [byteAt, List.getD_eq_getElem?_getD, List.getElem?_take_of_lt h]

/-- The length of a frame stands in its first nine bytes. -/
theorem frameLen_append {frame : Bytes} (h : 9 ≤ frame.length) (data : Bytes) :
    frameLen (frame ++ data) = frameLen frame := by
  simp only [frameLen, byteAt_append (show 0 < frame.length by omega),
    byteAt_append (show 1 < frame.length by omega), byteAt_append (show 2 < frame.length by omega)]

theorem frameLen_take {data : Bytes} {n : Nat} (h : 9 ≤ n) :
    frameLen (data.take n) = frameLen data := by
  simp only [frameLen, byteAt_take (show 0 < n by omega), byteAt_take (show 1 < n by omega),
    byteAt_take (show 2 < n by omega)]

/-- Text that opens with a whole frame. -/
theorem Whole.starts {frame : Bytes} (h : Whole frame) (data : Bytes) :
    StartsWhole (frame ++ data) := by
  obtain ⟨hheader, hlength⟩ := h
  refine ⟨?_, ?_⟩
  · rw [List.length_append]
    omega
  · rw [frameLen_append hheader, List.length_append]
    omega

/-- Every byte string is a run of whole frames and a rest. -/
theorem exists_frames (data : Bytes) : ∃ (frames : List Bytes) (rest : Bytes),
    frames.flatten ++ rest = data ∧ (∀ frame ∈ frames, Whole frame) ∧ ¬StartsWhole rest := by
  induction hn : data.length using Nat.strongRecOn generalizing data with
  | ind n ih =>
    by_cases hstarts : StartsWhole data
    · obtain ⟨hheader, hlength⟩ := hstarts
      have hframe : Whole (data.take (frameLen data + 9)) := by
        refine ⟨?_, ?_⟩
        · rw [List.length_take]
          omega
        · rw [frameLen_take (Nat.le_add_left 9 _), List.length_take, Nat.min_eq_left hlength]
      obtain ⟨frames, rest, hdata, hwhole, hrest⟩ :=
        ih (data.drop (frameLen data + 9)).length (by rw [List.length_drop]; omega) _ rfl
      refine ⟨data.take (frameLen data + 9) :: frames, rest, ?_,
        List.forall_mem_cons.mpr ⟨hframe, hwhole⟩, hrest⟩
      rw [List.flatten_cons, List.append_assoc, hdata, List.take_append_drop]
    · exact ⟨[], data, rfl, fun frame h => absurd h List.not_mem_nil, hstarts⟩

/-- The frames and the rest are determined. -/
theorem frames_unique {frames frames' : List Bytes} {rest rest' : Bytes}
    (hwhole : ∀ frame ∈ frames, Whole frame) (hwhole' : ∀ frame ∈ frames', Whole frame)
    (hrest : ¬StartsWhole rest) (hrest' : ¬StartsWhole rest')
    (h : frames.flatten ++ rest = frames'.flatten ++ rest') : frames = frames' ∧ rest = rest' := by
  induction frames generalizing frames' with
  | nil =>
    cases frames' with
    | nil => exact ⟨rfl, h⟩
    | cons frame' frames' =>
      rw [List.flatten_nil, List.nil_append, List.flatten_cons, List.append_assoc] at h
      exact absurd (h ▸ (hwhole' frame' List.mem_cons_self).starts _) hrest
  | cons frame frames ih =>
    have hframe := hwhole frame List.mem_cons_self
    cases frames' with
    | nil =>
      rw [List.flatten_nil, List.nil_append, List.flatten_cons, List.append_assoc] at h
      exact absurd (h ▸ hframe.starts _) hrest'
    | cons frame' frames' =>
      have hframe' := hwhole' frame' List.mem_cons_self
      rw [List.flatten_cons, List.flatten_cons, List.append_assoc, List.append_assoc] at h
      have hlen := congrArg frameLen h
      rw [frameLen_append hframe.1, frameLen_append hframe'.1] at hlen
      obtain ⟨rfl, htail⟩ := List.append_inj h (by rw [hframe.2, hframe'.2, hlen])
      obtain ⟨rfl, rfl⟩ := ih (fun f hf => hwhole f (List.mem_cons_of_mem _ hf))
        (fun f hf => hwhole' f (List.mem_cons_of_mem _ hf)) htail
      exact ⟨rfl, rfl⟩

/-! ## Chunks -/

/-- A chunk that is sent: a preface, whole frames, and a rest that holds none. -/
@[ext] structure WireChunk where
  /-- The connection preface comes first. -/
  preface : Bool
  /-- The frames. -/
  frames : List Bytes
  /-- What is left behind them. -/
  rest : Bytes
  /-- Every frame is whole. -/
  whole : ∀ frame ∈ frames, Whole frame
  /-- The rest does not start with a whole frame. -/
  unfinished : ¬StartsWhole rest
  /-- Without a preface none comes first. -/
  noPreface : preface = false → ¬TraceLog.prefaceBytes <+: frames.flatten ++ rest

namespace WireChunk

/-- The preface of a chunk. -/
def prefacePart (chunk : WireChunk) : Bytes := if chunk.preface then TraceLog.prefaceBytes else []

/-- The bytes of a chunk. -/
def bytes (chunk : WireChunk) : Bytes :=
  chunk.prefacePart ++ (chunk.frames.flatten ++ chunk.rest)

/-- A chunk starts with a preface as it says. -/
theorem preface_iff (chunk : WireChunk) :
    TraceLog.prefaceBytes <+: chunk.bytes ↔ chunk.preface = true := by
  cases h : chunk.preface with
  | true =>
    simp only [bytes, prefacePart, h, if_true, iff_true]
    exact List.prefix_append _ _
  | false =>
    simp only [bytes, prefacePart, h, Bool.false_eq_true, if_false, List.nil_append, iff_false]
    exact chunk.noPreface h

/-- Every byte string is the bytes of one chunk. -/
theorem existsUnique (data : Bytes) : ∃! chunk : WireChunk, chunk.bytes = data := by
  have hexists : ∃ chunk : WireChunk, chunk.bytes = data := by
    by_cases hpreface : TraceLog.prefaceBytes <+: data
    · obtain ⟨tail, rfl⟩ := hpreface
      obtain ⟨frames, rest, rfl, hwhole, hrest⟩ := exists_frames tail
      exact ⟨⟨true, frames, rest, hwhole, hrest, fun h => absurd h (by decide)⟩, rfl⟩
    · obtain ⟨frames, rest, rfl, hwhole, hrest⟩ := exists_frames data
      exact ⟨⟨false, frames, rest, hwhole, hrest, fun _ => hpreface⟩, rfl⟩
  obtain ⟨chunk, rfl⟩ := hexists
  refine ⟨chunk, rfl, fun chunk' h => ?_⟩
  have hpreface : chunk'.preface = chunk.preface := by
    rw [Bool.eq_iff_iff, ← chunk'.preface_iff, ← chunk.preface_iff, h]
  rw [bytes, bytes, prefacePart, prefacePart, hpreface] at h
  obtain ⟨hframes, hrest⟩ := frames_unique chunk'.whole chunk.whole chunk'.unfinished
    chunk.unfinished (List.append_cancel_left h)
  exact WireChunk.ext hpreface hframes hrest

/-- What a chunk without its preface adds to the file. -/
def traceRest (chunk : WireChunk) (env : TraceEnv) (connection : TracedConnection)
    (log : TraceLog) : TraceLog :=
  (chunk.frames.foldl (fun log frame => log.outboundFrameRecord env connection frame)
    log).chunkUnparsed env chunk.bytes (chunk.prefacePart ++ chunk.frames.flatten).length

/-- The records of a chunk: the events with their fields. -/
def records (chunk : WireChunk) (env : TraceEnv) (connection : TracedConnection) :
    List (TraceValue × TraceLine) :=
  (if chunk.preface then [(.word .connectionPreface, [(.chunkLen, .unsigned 24)])] else []) ++
    (chunk.frames.map fun frame => (.word .frameOut, outboundFields env connection frame)) ++
    if chunk.rest = [] then []
    else
      [(.word .chunkUnparsed,
        [(.chunkLen, .unsigned chunk.bytes.length),
          (.offset, .unsigned (chunk.bytes.length - chunk.rest.length)),
          (.remainingLen, .unsigned chunk.rest.length)])]

end WireChunk

/-! ## Sends -/

/-- What one callback of the library has sent, all its writes having succeeded. -/
inductive WireSend
  /-- The bytes that `send_callback` was given. -/
  | chunk (parts : WireChunk)
  /-- A DATA frame that `h2_send_data_callback` wrote as its header and its payload. -/
  | data (header payload : Bytes) (hheader : header.length = 9)
    (hpayload : frameLen header = payload.length)

namespace WireSend

/-- The bytes that were handed to the writer. -/
def bytes : WireSend → Bytes
  | .chunk parts => parts.bytes
  | .data header payload _ _ => header ++ payload

/-- The call of a trace function. -/
def traceCall (connection : TracedConnection) : WireSend → TraceCall
  | .chunk parts => .outboundFrame connection parts.bytes
  | .data header _ _ _ => .outboundFrameRecord connection header

/-- The records: of a DATA frame its header only. -/
def records (env : TraceEnv) (connection : TracedConnection) :
    WireSend → List (TraceValue × TraceLine)
  | .chunk parts => parts.records env connection
  | .data header _ _ _ => [(.word .frameOut, outboundFields env connection header)]

end WireSend

end Trace

/-- Records with the readings of the clock from a number on. -/
def TraceEnv.stamp (env : TraceEnv) : Nat → List (TraceValue × TraceLine) → List TraceLine
  | _, [] => []
  | reading, (event, fields) :: records =>
    env.line (env.monotonicUs reading) event fields :: env.stamp (reading + 1) records

/-- The stamps of both parts. -/
theorem TraceEnv.stamp_append (env : TraceEnv) (reading : Nat)
    (records records' : List (TraceValue × TraceLine)) : env.stamp reading (records ++ records') =
      env.stamp reading records ++ env.stamp (reading + records.length) records' := by
  induction records generalizing reading with
  | nil => rfl
  | cons record records ih =>
    rw [List.cons_append, stamp, ih, List.length_cons, Nat.add_assoc, Nat.add_comm 1]
    rfl

namespace TraceLog

open Trace

variable {env : TraceEnv} {connection : TracedConnection} {log : TraceLog}

/-! ## The loop over the frames -/

/-- The loop takes the whole frames in their order and stops at the rest. -/
theorem outboundFrames_flatten {frames : List Bytes} {rest : Bytes}
    (hwhole : ∀ frame ∈ frames, Whole frame) (hrest : ¬StartsWhole rest) (before : Bytes)
    {rounds : Nat} (hrounds : frames.length ≤ rounds) :
    outboundFrames env connection (before ++ (frames.flatten ++ rest)) rounds before.length log =
      (frames.foldl (fun log frame => log.outboundFrameRecord env connection frame) log,
        (before ++ frames.flatten).length) := by
  induction frames generalizing before rounds log with
  | nil =>
    cases rounds with
    | zero => rw [outboundFrames, List.flatten_nil, List.append_nil, List.foldl_nil]
    | succ rounds =>
      rw [outboundFrames, List.flatten_nil, List.nil_append, List.append_nil, List.foldl_nil,
        List.drop_left, List.length_append]
      split
      · rw [if_pos]
        by_contra hle
        exact hrest ⟨by omega, by omega⟩
      · rfl
  | cons frame frames ih =>
    obtain ⟨rounds, rfl⟩ := Nat.exists_eq_add_of_le' hrounds
    have hframe := hwhole frame List.mem_cons_self
    have hlen : frameLen (frame ++ (frames.flatten ++ rest)) + 9 = frame.length := by
      rw [frameLen_append hframe.1, hframe.2]
    have hnext := @ih (log.outboundFrameRecord env connection frame)
      (fun f hf => hwhole f (List.mem_cons_of_mem _ hf)) (before ++ frame)
      (rounds + frames.length) (Nat.le_add_left frames.length rounds)
    rw [List.length_cons, ← Nat.add_assoc, outboundFrames, List.flatten_cons, List.append_assoc,
      List.drop_left, hlen, List.take_left, List.foldl_cons]
    have hheader := hframe.1
    rw [if_pos (by simp only [List.length_append]; omega),
      if_neg (by simp only [List.length_append]; omega)]
    have hlength : (before ++ frame).length = before.length + frame.length := List.length_append
    rw [List.append_assoc, hlength] at hnext
    rw [hnext, List.append_assoc]

/-- There are not more whole frames than bytes. -/
theorem length_le_flatten {frames : List Bytes} (h : ∀ frame ∈ frames, Whole frame) :
    frames.length ≤ frames.flatten.length := by
  induction frames with
  | nil => exact Nat.le_refl _
  | cons frame frames ih =>
    have hframe := (h frame List.mem_cons_self).1
    have hrest := ih fun f hf => h f (List.mem_cons_of_mem _ hf)
    rw [List.flatten_cons, List.length_append, List.length_cons]
    omega

/-- The walk behind the preface takes the frames of the chunk and leaves its rest. -/
theorem outboundRest_bytes (chunk : WireChunk) :
    log.outboundRest env connection chunk.bytes chunk.prefacePart.length =
      chunk.traceRest env connection log := by
  have hrounds : chunk.frames.length ≤ chunk.bytes.length := by
    have := length_le_flatten chunk.whole
    simp only [WireChunk.bytes, List.length_append]
    omega
  have hloop : outboundFrames env connection chunk.bytes chunk.bytes.length
      chunk.prefacePart.length log = _ :=
    outboundFrames_flatten chunk.whole chunk.unfinished chunk.prefacePart hrounds
  rw [outboundRest, hloop, WireChunk.traceRest]

/-- A chunk is traced by its parts. -/
theorem outboundFrame_bytes (chunk : WireChunk) (hpath : env.filePath ≠ none) :
    log.outboundFrame env connection chunk.bytes =
      if chunk.preface = true then
        if (log.openAndLock env).1 then
          chunk.traceRest env connection
            ((log.openAndLock env).2.record env (.word .connectionPreface)
              [(.chunkLen, .unsigned 24)])
        else (log.openAndLock env).2
      else chunk.traceRest env connection log := by
  have hpreface : (24 ≤ chunk.bytes.length ∧ chunk.bytes.take 24 = prefaceBytes) ↔
      chunk.preface = true := by
    have hlength : prefaceBytes.length = 24 := by decide
    rw [← chunk.preface_iff, List.prefix_iff_eq_take, hlength]
    refine ⟨fun h => h.2.symm, fun h => ⟨?_, h.symm⟩⟩
    have := congrArg List.length h
    rw [hlength, List.length_take] at this
    omega
  rw [outboundFrame, if_neg hpath]
  by_cases h : chunk.preface = true
  · have hpart : chunk.prefacePart.length = 24 := by
      rw [WireChunk.prefacePart, if_pos h]
      decide
    rw [if_pos h, if_pos (hpreface.mpr h), ← hpart, outboundRest_bytes]
  · have hpart : chunk.prefacePart.length = 0 := by
      rw [WireChunk.prefacePart, if_neg h]
      rfl
    rw [if_neg h, if_neg (hpreface.not.mpr h), ← hpart, outboundRest_bytes]

/-! ## One record for each frame -/

/-- The second log is the first with some records behind it, each with a reading of its own. -/
structure Appends (env : TraceEnv) (log : TraceLog) (records : List (TraceValue × TraceLine))
    (log' : TraceLog) : Prop where
  /-- The records. -/
  lines : log'.lines = log.lines ++ env.stamp log.readings records
  /-- The readings. -/
  readings : log'.readings = log.readings + records.length

namespace Appends

variable {log' log'' : TraceLog} {records records' : List (TraceValue × TraceLine)}

/-- Nothing is appended. -/
theorem refl (log : TraceLog) : Appends env log [] log := ⟨(List.append_nil _).symm, rfl⟩

/-- Records that are appended one after the other. -/
theorem trans (h : Appends env log records log') (h' : Appends env log' records' log'') :
    Appends env log (records ++ records') log'' := by
  refine ⟨?_, ?_⟩
  · rw [h'.lines, h.lines, h.readings, env.stamp_append, List.append_assoc]
  · rw [h'.readings, h.readings, List.length_append, Nat.add_assoc]

/-- One record is appended. -/
theorem record (event : TraceValue) (fields : TraceLine) :
    Appends env log [(event, fields)] (log.record env event fields) := ⟨rfl, rfl⟩

/-- A file that opens is written to. -/
theorem withFile {write : TraceLog → TraceLog} (hpath : env.filePath ≠ none)
    (hopens : ∀ n, env.fopen n = true) (h : ∀ log, Appends env log records (write log)) :
    Appends env log records (log.withFile env write) := by
  have hopened := h { log with opened := log.opened + 1 }
  rw [TraceLog.withFile, openAndLock, if_neg hpath, if_pos (hopens _)]
  exact ⟨hopened.lines, hopened.readings⟩

end Appends

section Opens

variable (hpath : env.filePath ≠ none) (hopens : ∀ n, env.fopen n = true)
include hpath hopens

/-- A frame that has a header appends its record. -/
theorem outboundFrameRecord_appends {frame : Bytes} (h : 9 ≤ frame.length) :
    Appends env log [(.word .frameOut, outboundFields env connection frame)]
      (log.outboundFrameRecord env connection frame) := by
  rw [outboundFrameRecord, if_neg hpath, if_neg (Nat.not_lt.mpr h)]
  exact .withFile hpath hopens fun log => .record _ _

/-- Whole frames append one record each, in their order. -/
theorem outboundFrameRecords_appends {frames : List Bytes} (h : ∀ frame ∈ frames, Whole frame) :
    Appends env log
      (frames.map fun frame => (.word .frameOut, outboundFields env connection frame))
      (frames.foldl (fun log frame => log.outboundFrameRecord env connection frame) log) := by
  induction frames generalizing log with
  | nil => exact .refl log
  | cons frame frames ih =>
    have hframe := (h frame List.mem_cons_self).1
    exact (outboundFrameRecord_appends hpath hopens hframe).trans
      (ih fun f hf => h f (List.mem_cons_of_mem _ hf))

/-- A chunk appends the records of its preface, its frames and its rest. -/
theorem outboundFrame_appends (chunk : WireChunk) :
    Appends env log (chunk.records env connection)
      (log.outboundFrame env connection chunk.bytes) := by
  have hlength : chunk.bytes.length =
      (chunk.prefacePart ++ chunk.frames.flatten).length + chunk.rest.length := by
    simp only [WireChunk.bytes, List.length_append, Nat.add_assoc]
  have hrest (log : TraceLog) : Appends env log
      (if chunk.rest = [] then []
        else
          [(.word .chunkUnparsed,
            [(.chunkLen, .unsigned chunk.bytes.length),
              (.offset, .unsigned (chunk.bytes.length - chunk.rest.length)),
              (.remainingLen, .unsigned chunk.rest.length)])])
      (log.chunkUnparsed env chunk.bytes (chunk.prefacePart ++ chunk.frames.flatten).length) := by
    unfold chunkUnparsed
    by_cases hnil : chunk.rest = []
    · rw [if_pos hnil, if_neg (by rw [hlength, hnil, List.length_nil]; omega)]
      exact .refl log
    · have hpos := List.length_pos_iff.mpr hnil
      rw [if_neg hnil, if_pos (by omega), Nat.sub_eq_of_eq_add hlength,
        Nat.sub_eq_of_eq_add (hlength.trans (Nat.add_comm _ _))]
      exact .withFile hpath hopens fun log => .record _ _
  have hframes (log : TraceLog) := (@outboundFrameRecords_appends env connection log hpath hopens
    chunk.frames chunk.whole).trans (hrest _)
  rw [outboundFrame_bytes chunk hpath, WireChunk.records]
  by_cases hpreface : chunk.preface = true
  · have hopen : (log.openAndLock env).1 = true := by
      rw [openAndLock, if_neg hpath]
      exact hopens _
    have hsame : Appends env log [] (log.openAndLock env).2 := by
      rw [openAndLock, if_neg hpath]
      exact ⟨(List.append_nil _).symm, rfl⟩
    rw [if_pos hpreface, if_pos hopen, if_pos hpreface, List.append_assoc]
    exact (hsame.trans (.record _ _)).trans (hframes _)
  · rw [if_neg hpreface, if_neg hpreface, List.nil_append]
    exact hframes log

/-- A send appends its records. -/
theorem send_appends (send : WireSend) :
    Appends env log (send.records env connection)
      (log.apply env (send.traceCall connection)) := by
  cases send with
  | chunk chunk => exact outboundFrame_appends hpath hopens chunk
  | data header payload hheader hpayload =>
    exact outboundFrameRecord_appends hpath hopens (le_of_eq hheader.symm)

/-- Any number of sends append their records in order. -/
theorem runSends_appends (sends : List (TracedConnection × WireSend)) :
    Appends env log (sends.flatMap fun send => send.2.records env send.1)
      (log.run env (sends.map fun send => send.2.traceCall send.1)) := by
  induction sends generalizing log with
  | nil => exact .refl log
  | cons send sends ih => exact (send_appends hpath hopens send.2).trans ih

end Opens

end TraceLog

/-! ## The sends of a session -/

/-- The library hands the callback of a DATA frame nine bytes of header, which announce the length
that the read callback decided. -/
def SendOp.Framed (k : ConnId) (w : World) : SendOp → Prop
  | .data streamId limit framehd padlen => ∀ c, (w.conns k).requestSource streamId = some c →
    padlen = 0 → framehd.length = 9 ∧
      Trace.frameLen framehd = ((w.calls c).call.dataSourceReadCallback limit).1
  | _ => True

namespace Proc

open Trace Writer

/-- The library frames all the DATA that it sends. -/
def Framed (k : ConnId) : List SendOp → World → Prop
  | [], _ => True
  | op :: rest, w => op.Framed k w ∧ ∀ w', onSendOp k op w = some (true, w') → Framed k rest w'

/-- The bytes of sends. -/
def sentBytes (sends : List (TracedConnection × WireSend)) : Bytes :=
  sends.flatMap fun send => send.2.bytes

/-- The trace calls of sends. -/
def sentCalls (sends : List (TracedConnection × WireSend)) : List TraceCall :=
  sends.map fun send => send.2.traceCall send.1

/-- A callback that succeeds hands the bytes of the sends that it traces to the writer. -/
theorem onSendOp_traced {k : ConnId} {op : SendOp} {ok : Bool} {w w' : World}
    (h : onSendOp k op w = some (ok, w')) (hon : (w.conns k).writeCoalescing = true)
    (hframed : op.Framed k w) (connection : TracedConnection) :
    ∃ chunks, Takes chunks ok (w.conns k).writer (w'.conns k).writer ∧
      (ok = true → ∃ sends, op.traceCalls k w connection = sentCalls sends ∧
        chunks.flatten = sentBytes sends) := by
  cases op with
  | frame bytes =>
    obtain ⟨chunk, rfl, -⟩ := WireChunk.existsUnique bytes
    refine ⟨[chunk.bytes], (sendFrame_takes h hon).1, fun _ =>
      ⟨[(connection, .chunk chunk)], rfl, ?_⟩⟩
    rw [sentBytes, List.flatMap_singleton, List.flatten_singleton]
    rfl
  | data streamId limit framehd padlen =>
    obtain ⟨chunks, htakes, hsent⟩ := sendData_takes h hon
    refine ⟨chunks, htakes, fun hok => ?_⟩
    rcases hsent hok with ⟨hnone, rfl⟩ | ⟨c, payload, hsource, hpad, hlength, hflat⟩
    · exact ⟨[], if_pos hnone, rfl⟩
    · obtain ⟨hheader, hannounced⟩ := hframed c hsource hpad
      refine ⟨[(connection, .data framehd payload hheader (hannounced.trans hlength.symm))],
        if_neg ?_, ?_⟩
      · rw [hsource, hpad]
        exact fun hnot => hnot.elim (Option.some_ne_none c) (Nat.lt_irrefl 0)
      · rw [hflat, sentBytes, List.flatMap_singleton]
        rfl
  | close streamId errorCode =>
    obtain ⟨rv, w₁, hevent, h⟩ := Exec.bind_some.mp h
    obtain ⟨rfl, rfl⟩ := Exec.pure_some.mp h
    have hw : (w₁.conns k).writer = (w.conns k).writer :=
      onStreamEvent_silent _ _ _ _ _ _ hevent
    rw [hw]
    exact ⟨[], .refl _ _, fun _ => ⟨[], rfl, rfl⟩⟩

/-- The callbacks of a session hand the bytes of the sends that they trace to the writer, and
behind them only what a callback that failed had written. -/
theorem onSendOps_traced {k : ConnId} (traced : World → TracedConnection) {rv rv' : Int}
    (ops : List SendOp) {w w' : World} (h : onSendOps k rv ops w = some (rv', w'))
    (hon : (w.conns k).writeCoalescing = true) (hframed : Framed k ops w) :
    ∃ sends cut, sendTrace k traced ops w = sentCalls sends ∧
      (w'.conns k).handed.flatten = (w.conns k).handed.flatten ++ sentBytes sends ++ cut ∧
      (rv' = 0 → cut = []) := by
  induction ops generalizing w with
  | nil =>
    obtain ⟨-, rfl⟩ := Exec.pure_some.mp h
    exact ⟨[], [], rfl, by simp [sentBytes], fun _ => rfl⟩
  | cons op rest ih =>
    obtain ⟨ok, w₁, hop, h⟩ := Exec.bind_some.mp h
    obtain ⟨chunks, htakes, hsent⟩ := onSendOp_traced hop hon hframed.1 (traced w₁)
    have hhanded : (w₁.conns k).handed = (w.conns k).handed ++ chunks := htakes.handed
    cases ok with
    | false =>
      obtain ⟨rfl, rfl⟩ := Exec.pure_some.mp h
      refine ⟨[], chunks.flatten, ?_, ?_, fun h0 => absurd h0 (by decide)⟩
      · rw [sendTrace, hop]
        rfl
      · rw [hhanded, List.flatten_append, sentBytes, List.flatMap_nil, List.append_nil]
    | true =>
      obtain ⟨sends, htrace, hflat⟩ := hsent rfl
      obtain ⟨sends', cut, htrace', hflat', hcut⟩ :=
        ih h (htakes.setup.1.trans hon) (hframed.2 w₁ hop)
      refine ⟨sends ++ sends', cut, ?_, ?_, hcut⟩
      · rw [sendTrace, hop]
        simp only [htrace, htrace', sentCalls, List.map_append]
      · rw [hflat', hhanded, List.flatten_append, hflat]
        simp only [sentBytes, List.flatMap_append, List.append_assoc]

end Proc

namespace TraceLog

open Trace

end TraceLog

namespace Trace

/-- A process with a file that opens. -/
def openEnv : TraceEnv where
  filePath := some (ascii "/tmp/trace".toList)
  wireBytes := false
  pid := 1
  fopen := fun _ => true
  monotonicUs := fun reading => reading
  sha256 := fun _ => []

/-- A connection without streams. -/
def idleConnection : TracedConnection where
  streamUserData := fun _ => none
  currentIoCall := none
  fd := 3
  dead := false

/-- The preface and an empty SETTINGS frame. -/
def greeting : WireChunk where
  preface := true
  frames := [[0, 0, 0, 4, 0, 0, 0, 0, 0]]
  rest := []
  whole := by decide
  unfinished := by decide
  noPreface := by decide

/-- A HEADERS frame with a header block of two bytes, and the start of another frame. -/
def headersChunk (b : UInt8) : WireChunk where
  preface := false
  frames := [[0, 0, 2, 1, 4, 0, 0, 0, 1, 130, b]]
  rest := [0, 0]
  whole := List.forall_mem_singleton.mpr ⟨by simp, by simp [frameLen, byteAt, be32]⟩
  unfinished := by decide
  noPreface := by
    rintro - ⟨t, ht⟩
    exact absurd (List.cons.inj ht).1 (by decide)

end Trace

namespace TraceLog

open Trace

/-- A greeting, a request and a DATA frame of two bytes. -/
private def greetingSends : List (TracedConnection × WireSend) := [
  (idleConnection, .chunk greeting), (idleConnection, .chunk (headersChunk 4)),
  (idleConnection, .data [0, 0, 2, 0, 1, 0, 0, 0, 1] [7, 8] rfl rfl)]

/-- A session that sends an empty message in one DATA frame. -/
private def sendingWorld : World where
  conns := fun _ => {
    writeBufferCap := 64, writeCoalescing := true, streams := [{ streamId := 1, source := 0 }] }
  calls := fun _ => { call := { grpcHeader := [0, 0, 0, 0, 0] }, live := true }
  env := {}

@[inherit_doc sendingWorld]
private def sendingOps : List SendOp := [.data 1 16384 [0, 0, 5, 0, 1, 0, 0, 0, 1] 0]

end TraceLog

end GrpcLite
