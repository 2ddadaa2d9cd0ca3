import GrpcLite.Correctness.TraceFrames
import Mathlib.Data.List.Forall2

/-!
# What the trace does not show

Of the payloads of frames only those of a few types are printed, and of a sensitive
header only the length and the hash of its value. Nothing else of them reaches the
file, over any run of the trace functions, whether wire bytes are traced or not.
-/

namespace GrpcLite

namespace Trace

/-- The types of frames with a payload that is printed. -/
def Shown (env : TraceEnv) (type : Nat) : Prop :=
  type = 3 ∨ type = 4 ∨ type = 8 ∨ env.wireBytes = true ∧ (type = 6 ∨ type = 7)

/-- Two frames with the same header. The payloads are the same where they are printed. -/
structure SameFrame (env : TraceEnv) (frame frame' : Bytes) : Prop where
  /-- The headers. -/
  header : frame.take 9 = frame'.take 9
  /-- The lengths. -/
  length : frame.length = frame'.length
  /-- A payload that is printed. -/
  shown : Shown env (frameType frame) → frame = frame'

/-- Two headers with the same name. The values are the same where they are printed; of sensitive
ones the length and the hash are. -/
structure SameHeader (env : TraceEnv) (header header' : Header) : Prop where
  /-- The names. -/
  name : header.name = header'.name
  /-- The lengths. -/
  length : header.value.length = header'.value.length
  /-- The values. -/
  value : headerValueIsSensitive header.name = false → header.value = header'.value
  /-- The hashes. -/
  hash : env.sha256 header.value = env.sha256 header'.value

theorem SameFrame.byteAt {env : TraceEnv} {frame frame' : Bytes} (h : SameFrame env frame frame')
    {i : Nat} (hi : i < 9) : byteAt frame i = byteAt frame' i := by
  rw [← byteAt_take hi, h.header, byteAt_take hi]

theorem SameFrame.outboundFields_eq {env : TraceEnv} {frame frame' : Bytes}
    (h : SameFrame env frame frame') (connection : TracedConnection) :
    outboundFields env connection frame = outboundFields env connection frame' := by
  by_cases hshown : Shown env (frameType frame)
  · rw [h.shown hshown]
  · have hlen : frameLen frame = frameLen frame' := by
      simp only [frameLen, h.byteAt (show 0 < 9 by decide), h.byteAt (show 1 < 9 by decide),
        h.byteAt (show 2 < 9 by decide)]
    have htype : frameType frame = frameType frame' :=
      congrArg UInt8.toNat (h.byteAt (show 3 < 9 by decide))
    have hflags : frameFlags frame = frameFlags frame' :=
      congrArg UInt8.toNat (h.byteAt (show 4 < 9 by decide))
    have hstream : frameStreamId frame = frameStreamId frame' := by
      simp only [frameStreamId, h.byteAt (show 5 < 9 by decide), h.byteAt (show 6 < 9 by decide),
        h.byteAt (show 7 < 9 by decide), h.byteAt (show 8 < 9 by decide)]
    have hpayload (data : Bytes) (hdata : frameType data = frameType frame) :
        outboundPayload data = [] := by
      simp only [Shown, not_or] at hshown
      simp only [outboundPayload, hdata, hshown.1, hshown.2.1, hshown.2.2.1, false_and, if_false]
    have hwire : outboundWireBytes env frame = outboundWireBytes env frame' := by
      have hno (data : Bytes) : ¬(env.wireBytes = true ∧ (frameType frame = 4 ∨
          frameType frame = 8 ∨ frameType frame = 6 ∨ frameType frame = 7) ∧
          9 + frameLen data ≤ data.length) := by
        rintro ⟨hbytes, hkind, -⟩
        rcases hkind with hkind | hkind | hkind
        · exact hshown (.inr (.inl hkind))
        · exact hshown (.inr (.inr (.inl hkind)))
        · exact hshown (.inr (.inr (.inr ⟨hbytes, hkind⟩)))
      rw [outboundWireBytes, outboundWireBytes, ← htype, if_neg (hno frame), if_neg (hno frame'),
        hlen]
    rw [outboundFields, outboundFields, hlen, htype, hflags, hstream, h.length, hwire,
      hpayload frame rfl, hpayload frame' htype.symm]

theorem SameHeader.headerFields_eq {env : TraceEnv} {header header' : Header}
    (h : SameHeader env header header') (streamId : Int) (path : Bytes) (index : Nat) :
    headerFields env streamId path index header = headerFields env streamId path index header' := by
  have hvalue : headerValue env header = headerValue env header' := by
    rw [headerValue, headerValue, ← h.name]
    split
    · rw [h.hash]
    · next hplain => rw [h.value (Bool.not_eq_true _ ▸ hplain)]
  rw [headerFields, headerFields, h.length, hvalue, h.name]

end Trace

namespace TraceCall

open Trace

/-- Two calls of a trace function that differ only in what is not printed. -/
inductive Alike (env : TraceEnv) : TraceCall → TraceCall → Prop
  /-- The same call. -/
  | refl (call : TraceCall) : Alike env call call
  /-- Two chunks with the same parts. -/
  | outboundFrame (connection : TracedConnection) {chunk chunk' : WireChunk}
    (hpreface : chunk.preface = chunk'.preface)
    (hframes : List.Forall₂ (SameFrame env) chunk.frames chunk'.frames)
    (hrest : chunk.rest.length = chunk'.rest.length) :
    Alike env (.outboundFrame connection chunk.bytes) (.outboundFrame connection chunk'.bytes)
  /-- Two frames. -/
  | outboundFrameRecord (connection : TracedConnection) {frame frame' : Bytes}
    (h : SameFrame env frame frame') :
    Alike env (.outboundFrameRecord connection frame) (.outboundFrameRecord connection frame')
  /-- The headers of two requests. -/
  | requestHeaders (call : TracedCall) {headers headers' : List Header}
    (h : List.Forall₂ (SameHeader env) headers headers') :
    Alike env (.requestHeaders call headers) (.requestHeaders call headers')

end TraceCall

namespace TraceLog

open Trace

variable {env : TraceEnv} {connection : TracedConnection} {log : TraceLog}

theorem outboundFrameRecord_same {frame frame' : Bytes} (h : SameFrame env frame frame') :
    log.outboundFrameRecord env connection frame =
      log.outboundFrameRecord env connection frame' := by
  rw [outboundFrameRecord, outboundFrameRecord, h.length, h.outboundFields_eq]

theorem outboundFrameRecords_same {frames frames' : List Bytes}
    (h : List.Forall₂ (SameFrame env) frames frames') :
    frames.foldl (fun log frame => log.outboundFrameRecord env connection frame) log =
      frames'.foldl (fun log frame => log.outboundFrameRecord env connection frame) log := by
  induction h generalizing log with
  | nil => rfl
  | cons hframe _ ih =>
    rw [List.foldl_cons, List.foldl_cons, outboundFrameRecord_same hframe]
    exact ih

theorem flatten_same {frames frames' : List Bytes}
    (h : List.Forall₂ (SameFrame env) frames frames') :
    frames.flatten.length = frames'.flatten.length := by
  induction h with
  | nil => rfl
  | cons hframe _ ih =>
    rw [List.flatten_cons, List.flatten_cons, List.length_append, List.length_append,
      hframe.length, ih]

theorem headerRecords_same {headers headers' : List Header}
    (h : List.Forall₂ (SameHeader env) headers headers') (streamId : Int) (path : Bytes)
    (index : Nat) : headerRecords env streamId path index headers log =
      headerRecords env streamId path index headers' log := by
  induction h generalizing log index with
  | nil => rfl
  | cons hheader _ ih =>
    rw [headerRecords, headerRecords, hheader.headerFields_eq]
    exact ih _

/-- Calls that differ only in what is not printed have the same effect. -/
theorem apply_alike {call call' : TraceCall} (h : call.Alike env call') :
    log.apply env call = log.apply env call' := by
  cases h with
  | refl => rfl
  | outboundFrame connection hpreface hframes hrest =>
    next chunk chunk' =>
    by_cases hpath : env.filePath = none
    · change log.outboundFrame env connection _ = log.outboundFrame env connection _
      rw [outboundFrame, outboundFrame, if_pos hpath, if_pos hpath]
    · have hpart : chunk.prefacePart = chunk'.prefacePart := by
        rw [WireChunk.prefacePart, WireChunk.prefacePart, hpreface]
      have htrace (log : TraceLog) :
          chunk.traceRest env connection log = chunk'.traceRest env connection log := by
        have hflatten := flatten_same hframes
        rw [WireChunk.traceRest, WireChunk.traceRest, outboundFrameRecords_same hframes]
        simp only [chunkUnparsed, WireChunk.bytes, hpart, List.length_append, hflatten, hrest]
      change log.outboundFrame env connection _ = log.outboundFrame env connection _
      rw [outboundFrame_bytes chunk hpath, outboundFrame_bytes chunk' hpath, hpreface, htrace,
        htrace]
  | outboundFrameRecord connection hframe => exact outboundFrameRecord_same hframe
  | requestHeaders call hheaders =>
    change log.requestHeaders env call _ = log.requestHeaders env call _
    rw [requestHeaders, requestHeaders]
    cases call.methodPath with
    | none => rfl
    | some path =>
      simp only [withFile, headerRecords_same hheaders]

/-- What is not printed does not reach the file: two runs whose calls differ only in the payloads
of frames that carry user data or header blocks and in the values of sensitive headers, with the
same lengths and hashes, write the same file. -/
theorem run_alike {calls calls' : List TraceCall}
    (h : List.Forall₂ (TraceCall.Alike env) calls calls') :
    (log.run env calls).file = (log.run env calls').file := by
  induction h generalizing log with
  | nil => rfl
  | cons hcall _ ih =>
    rw [run, run, List.foldl_cons, List.foldl_cons, apply_alike hcall]
    exact ih

/-- Two header blocks of the same length leave the same trace. -/
theorem run_alike_headers :
    (TraceLog.run openEnv {} [.outboundFrame idleConnection (headersChunk 4).bytes]).file =
      (TraceLog.run openEnv {} [.outboundFrame idleConnection (headersChunk 5).bytes]).file := by
  have hframe : SameFrame openEnv [0, 0, 2, 1, 4, 0, 0, 0, 1, 130, 4]
      [0, 0, 2, 1, 4, 0, 0, 0, 1, 130, 5] :=
    ⟨rfl, rfl, fun h => absurd h (by unfold Shown; decide)⟩
  exact run_alike (.cons (.outboundFrame _ rfl (.cons hframe .nil) rfl) .nil)

end TraceLog

end GrpcLite
