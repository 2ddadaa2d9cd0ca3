import GrpcLite.Correctness.Upload
import GrpcLite.Refinement.Timing
import GrpcLite.Transport.Session

/-!
# The coalescing writer is the direct writer

A flush of pending frames gives the library's chunks to a buffer, to the socket,
or to both, depending on their sizes. Whatever the route and the partial writes, a
successful flush puts exactly the chunks on the wire in order, a failed one puts a
prefix of them there and kills the connection, and the buffer stays within its
capacity.
-/

namespace GrpcLite

/-- The part of a connection that the writer works on. -/
structure Writer where
  /-- Writes are coalesced. -/
  coalescing : Bool
  /-- Capacity of the buffer. -/
  cap : Nat
  /-- Largest length of the buffer so far. -/
  peak : Nat
  /-- Bytes not yet written. -/
  buffer : Bytes
  /-- Chunks given to the writer. -/
  handed : List Bytes
  /-- Bytes given to the socket or to TLS. -/
  wire : Bytes
  deriving DecidableEq, Repr

/-- The writer of a connection. -/
def H2Connection.writer (conn : H2Connection) : Writer where
  coalescing := conn.writeCoalescing
  cap := conn.writeBufferCap
  peak := conn.writeBufferPeak
  buffer := conn.writeBuffer
  handed := conn.handed
  wire := conn.wire

namespace Writer

/-- Bytes go to the wire, all of them on success and a prefix of them otherwise. -/
structure Puts (data : Bytes) (ok : Bool) (a b : Writer) : Prop where
  /-- Nothing but the wire changes. -/
  same : b = { a with wire := b.wire }
  /-- The wire grows by a prefix of the bytes. -/
  sent : ∃ p, p <+: data ∧ b.wire = a.wire ++ p ∧ (ok = true → p = data)

/-- Chunks are given to the writer. -/
structure Takes (chunks : List Bytes) (ok : Bool) (a b : Writer) : Prop where
  /-- The setup of the writer stays. -/
  setup : b.coalescing = a.coalescing ∧ b.cap = a.cap
  /-- The chunks are recorded. -/
  handed : b.handed = a.handed ++ chunks
  /-- The wire grows. -/
  grows : a.wire <+: b.wire
  /-- The wire holds a prefix of what was waiting and of the chunks. -/
  cut : b.wire <+: a.wire ++ a.buffer ++ chunks.flatten
  /-- On success nothing is lost: what is not on the wire waits in the buffer. -/
  kept : ok = true → b.wire ++ b.buffer = a.wire ++ a.buffer ++ chunks.flatten
  /-- The buffer never held more than its capacity. -/
  room : b.peak ≤ max a.peak a.cap

namespace Takes

variable {chunks chunks' : List Bytes} {ok : Bool} {a b c : Writer}

/-- Nothing is handed over. -/
theorem refl (a : Writer) (ok : Bool) : Takes [] ok a a where
  setup := ⟨rfl, rfl⟩
  handed := (List.append_nil _).symm
  grows := List.prefix_refl _
  cut := by
    rw [List.flatten_nil, List.append_nil]
    exact List.prefix_append _ _
  kept _ := by rw [List.flatten_nil, List.append_nil]
  room := Nat.le_max_left _ _

/-- Chunks behind chunks that were taken. -/
theorem trans (h : Takes chunks true a b) (h' : Takes chunks' ok b c) :
    Takes (chunks ++ chunks') ok a c := by
  have hkept := h.kept rfl
  have hroom := h.room
  have hroom' := h'.room
  refine ⟨⟨h'.setup.1.trans h.setup.1, h'.setup.2.trans h.setup.2⟩, ?_, h.grows.trans h'.grows,
    ?_, fun hok => ?_, ?_⟩
  · rw [h'.handed, h.handed, List.append_assoc]
  · have hcut := h'.cut
    rwa [hkept, List.append_assoc, ← List.flatten_append] at hcut
  · rw [h'.kept hok, hkept, List.append_assoc, ← List.flatten_append]
  · rw [h.setup.2] at hroom'
    omega

end Takes

end Writer

namespace Port

open Writer

/-! ## Writes to the wire -/

/-- The writer is not touched. -/
def Idle (p p' : Port) : Prop := p'.conn.writer = p.conn.writer

instance : Std.Refl Idle := ⟨fun _ => rfl⟩

instance : IsTrans Port Idle := ⟨fun _ _ _ h h' => h'.trans h⟩

/-- What the environment does leaves the writer alone. -/
theorem onEnv_idle {α : Type} (m : Exec Env α) : Exec.Within Idle (onEnv m) := by
  intro p a p' hm
  obtain ⟨env', -, rfl⟩ := Exec.zoom_some.mp hm
  rfl

/-- A change of the connection outside its writer. -/
theorem setConn_idle {f : H2Connection → H2Connection}
    (h : ∀ conn, (f conn).writer = conn.writer) : Exec.Within Idle (setConn f) :=
  .modify fun p => h p.conn

/-- The detail of a failure is no part of the writer. -/
theorem noteFailure_idle (detail : ErrorDetail) : Exec.Within Idle (noteFailure detail) :=
  .bind .get fun _ => setConn_idle fun _ => rfl

/-- A wait leaves the writer alone. -/
theorem waitReady_idle (events deadline : Nat) (pollFailed : Nat → ErrorDetail) :
    Exec.Within Idle (waitReady events deadline pollFailed) := by
  refine .bind (onEnv_idle _) fun _ => .ite (.pure _) (.bind .get fun _ => .ite ?_ ?_)
  · exact .bind (noteFailure_idle _) fun _ => .pure _
  · exact .bind (noteFailure_idle _) fun _ => .pure _

/-- The mark of a timeout is no part of the writer. -/
theorem markWriteTimedOut_idle : Exec.Within Idle (setConn H2Connection.markWriteTimedOut) := by
  refine setConn_idle fun conn => ?_
  unfold H2Connection.markWriteTimedOut
  split <;> rfl

/-- A computation that only fails writes nothing. -/
theorem fails_idle {m : Exec Port Unit} (h : Exec.Within Idle m) :
    Exec.Within Idle (m >>= fun _ => (pure (-1) : Exec Port Int)) :=
  .bind h fun _ => .pure _

/-- What a write of the socket or of TLS reports is what it put on the wire. -/
def Reports (data : Bytes) (m : Exec Port Int) : Prop := ∀ p rv p', m p = some (rv, p') →
  p'.conn.writer = { p.conn.writer with wire := p.conn.wire ++ data.take rv.toNat } ∧
    rv ≤ data.length

/-- A send that fails puts nothing on the wire. -/
theorem reports_of_idle {data : Bytes} {m : Exec Port Int} (h : Exec.Within Idle m)
    (hneg : ∀ p rv p', m p = some (rv, p') → rv = -1) : Reports data m := by
  intro p rv p' hm
  obtain rfl := hneg p rv p' hm
  refine ⟨(h p _ p' hm).trans ?_, by omega⟩
  simp only [Int.reduceNeg, Int.reduceToNat, List.take_zero, List.append_nil]
  rfl

/-- A failure of a write. -/
theorem reports_fail {data : Bytes} {m : Exec Port Unit} (h : Exec.Within Idle m) :
    Reports data (m >>= fun _ => (pure (-1) : Exec Port Int)) := by
  refine reports_of_idle (fails_idle h) fun p rv p' hm => ?_
  obtain ⟨_, p₁, -, hm⟩ := Exec.bind_some.mp hm
  exact (Exec.pure_some.mp hm).1.symm

/-- A failure without any write. -/
theorem reports_pure_neg {data : Bytes} : Reports data (pure (-1) : Exec Port Int) :=
  reports_of_idle (.pure _) fun _ _ _ hm => (Exec.pure_some.mp hm).1.symm

/-- Steps in front of a write. -/
theorem Reports.after {data : Bytes} {α : Type} {m : Exec Port α} {f : α → Exec Port Int}
    (hm : Exec.Within Idle m) (hf : ∀ a, Reports data (f a)) : Reports data (m >>= f) := by
  intro p rv p' h
  obtain ⟨a, p₁, h₁, h₂⟩ := Exec.bind_some.mp h
  obtain ⟨hw, hle⟩ := hf a p₁ rv p' h₂
  have hsame : p₁.conn.writer = p.conn.writer := hm p a p₁ h₁
  have hwire : p₁.conn.wire = p.conn.wire := congrArg Writer.wire hsame
  rw [hsame, hwire] at hw
  exact ⟨hw, hle⟩

/-- Bytes are put on the wire and reported. -/
theorem reports_putOnWire {data : Bytes} {written : Int} (hle : written ≤ data.length) :
    Reports data (putOnWire data written >>= fun _ => (pure written : Exec Port Int)) := by
  intro p rv p' h
  obtain ⟨_, p₁, hput, h⟩ := Exec.bind_some.mp h
  obtain ⟨rfl, rfl⟩ := Exec.pure_some.mp h
  obtain rfl := Exec.modify_some.mp hput
  exact ⟨rfl, hle⟩

/-- An answer of the environment in front of a write. -/
theorem Reports.ask {data : Bytes} {α : Type} {select : Answer → Option α} {f : α → Exec Port Int}
    (hf : ∀ answer a, select answer = some a → Reports data (f a)) :
    Reports data (onEnv (Env.ask select) >>= f) := by
  intro p rv p' h
  obtain ⟨a, p₁, hask, h⟩ := Exec.bind_some.mp h
  obtain ⟨env', hrun, rfl⟩ := Exec.zoom_some.mp hask
  obtain ⟨answer, rest, -, hsel, -⟩ := Env.ask_some hrun
  exact hf answer a hsel ⟨env', p.conn⟩ rv p' h

/-- A write to TLS reports what it put on the wire. -/
theorem sslWriteLoop_reports (data : Bytes) (deadline fuel : Nat) :
    Reports data (sslWriteLoop data deadline fuel) := by
  induction fuel with
  | zero => exact fun _ _ _ h => (Exec.block_some.mp h).elim
  | succ fuel ih =>
    refine .ask fun answer ⟨written, sslError, errno⟩ hsel => ?_
    have hle : written ≤ data.length := by
      cases answer with
      | sslWrite rv sslError' errno' =>
        simp only [Option.ite_none_right_eq_some, Option.some.injEq, Prod.mk.injEq] at hsel
        obtain ⟨hle, rfl, -⟩ := hsel
        exact hle
      | _ => cases hsel
    refine .after (onEnv_idle _) fun _ => ?_
    by_cases hpos : written > 0
    · simp only [hpos, if_true]
      exact reports_putOnWire hle
    · simp only [hpos, if_false]
      refine .after (setConn_idle fun _ => rfl) fun _ => ?_
      cases sslEvents sslError with
      | some events =>
        refine .after (waitReady_idle _ _ _) fun wait => ?_
        cases wait with
        | again => exact ih
        | timedOut => exact reports_fail markWriteTimedOut_idle
        | failed => exact reports_pure_neg
      | none => exact .after (onEnv_idle _) fun _ => reports_fail (noteFailure_idle _)

/-- A write to the socket reports what it put on the wire. -/
theorem sendLoop_reports (data : Bytes) (deadline fuel : Nat) :
    Reports data (sendLoop data deadline fuel) := by
  induction fuel with
  | zero => exact fun _ _ _ h => (Exec.block_some.mp h).elim
  | succ fuel ih =>
    refine .ask fun answer ⟨written, errno⟩ hsel => ?_
    have hle : written ≤ data.length := by
      cases answer with
      | send rv errno' =>
        simp only [Option.ite_none_right_eq_some, Option.some.injEq, Prod.mk.injEq] at hsel
        obtain ⟨hle, rfl, -⟩ := hsel
        exact hle
      | _ => cases hsel
    by_cases hnn : written ≥ 0
    · simp only [hnn, if_true]
      exact reports_putOnWire hle
    · simp only [hnn, if_false]
      refine .after (onEnv_idle _) fun _ => ?_
      by_cases hagain : errno = Errno.eagain
      · simp only [hagain, if_true]
        refine .after (waitReady_idle _ _ _) fun wait => ?_
        cases wait with
        | again => exact ih
        | timedOut => exact reports_fail markWriteTimedOut_idle
        | failed => exact reports_pure_neg
      · simp only [hagain, if_false]
        exact reports_fail (noteFailure_idle _)

/-- A send reports what it put on the wire, whichever way it goes. -/
theorem h2ConnectionSend_reports (data : Bytes) (deadline : Nat) :
    Reports data (h2ConnectionSend data deadline) := by
  refine .after (onEnv_idle _) fun remaining => ?_
  by_cases hlate : remaining < 0
  · simp only [hlate, if_true]
    exact .after (onEnv_idle _) fun _ => .after markWriteTimedOut_idle fun _ =>
      reports_fail (noteFailure_idle _)
  · simp only [hlate, if_false]
    refine .after .get fun p => ?_
    by_cases hssl : p.conn.ssl = true
    · simp only [hssl, if_true]
      by_cases hlong : data.length > intMax
      · simp only [hlong, if_true]
        exact .after (onEnv_idle _) fun _ => reports_fail (noteFailure_idle _)
      · simp only [hlong, if_false]
        exact sslWriteLoop_reports _ _ _
    · simp only [hssl]
      exact sendLoop_reports _ _ _

/-- `h2_connection_write_all` puts all bytes on the wire or fails behind a prefix. -/
theorem writeAllLoop_puts (deadline fuel : Nat) (data : Bytes) {p p' : Port} {ok : Bool}
    (h : writeAllLoop deadline fuel data p = some (ok, p')) :
    Puts data ok p.conn.writer p'.conn.writer := by
  induction fuel generalizing data p with
  | zero =>
    cases data with
    | nil =>
      obtain ⟨rfl, rfl⟩ := Exec.pure_some.mp h
      exact ⟨rfl, [], List.prefix_refl _, (List.append_nil _).symm, fun _ => rfl⟩
    | cons b bs => exact (Exec.block_some.mp h).elim
  | succ fuel ih =>
    cases data with
    | nil =>
      obtain ⟨rfl, rfl⟩ := Exec.pure_some.mp h
      exact ⟨rfl, [], List.prefix_refl _, (List.append_nil _).symm, fun _ => rfl⟩
    | cons b bs =>
      obtain ⟨written, p₁, hsend, h⟩ := Exec.bind_some.mp h
      obtain ⟨hw, hle⟩ := h2ConnectionSend_reports _ _ _ _ _ hsend
      have hwire : p₁.conn.writer.wire = p.conn.wire ++ (b :: bs).take written.toNat :=
        congrArg Writer.wire hw
      split at h
      · obtain ⟨rfl, rfl⟩ := Exec.pure_some.mp h
        exact ⟨by rw [hw], _, List.take_prefix _ _, hwire, nofun⟩
      · obtain ⟨hsame, q, hq, hwire', hall⟩ := ih _ h
        refine ⟨?_, (b :: bs).take written.toNat ++ q, ?_, ?_, fun hok => ?_⟩
        · rw [hsame, hw]
        · conv_rhs => rw [← List.take_append_drop written.toNat (b :: bs)]
          exact (List.prefix_append_right_inj _).mpr hq
        · rw [hwire', hwire, List.append_assoc]
          rfl
        · rw [hall hok, List.take_append_drop]

/-! ## The buffer -/

/-- `h2_connection_flush_write_buffer`: the waiting bytes go to the wire; a success empties the
buffer. -/
theorem flushWriteBuffer_takes {deadline : Nat} {p p' : Port} {ok : Bool}
    (h : flushWriteBuffer deadline p = some (ok, p')) :
    Takes [] ok p.conn.writer p'.conn.writer ∧ (ok = true → p'.conn.writeBuffer = []) ∧
      p'.conn.writeBufferPeak = p.conn.writeBufferPeak := by
  rw [flushWriteBuffer, Exec.get_bind_run] at h
  split at h
  · next hempty =>
    obtain ⟨rfl, rfl⟩ := Exec.pure_some.mp h
    exact ⟨.refl _ _, fun _ => List.length_eq_zero_iff.mp hempty, rfl⟩
  · obtain ⟨ok', p₁, hwrite, h⟩ := Exec.bind_some.mp h
    obtain ⟨hsame, q, hq, hwire, hall⟩ := writeAllLoop_puts _ _ _ hwrite
    have hpeak : p₁.conn.writeBufferPeak = p.conn.writeBufferPeak := congrArg Writer.peak hsame
    have hputs : ∀ b : Bytes, (ok' = true → b = []) →
        Takes [] ok' p.conn.writer { p₁.conn.writer with buffer := b } := by
      intro b hb
      refine ⟨⟨?_, ?_⟩, ?_, ?_, ?_, fun hok => ?_, ?_⟩
      · rw [hsame]
      · rw [hsame]
      · rw [hsame]
        exact (List.append_nil _).symm
      · exact hwire ▸ List.prefix_append _ _
      · rw [List.flatten_nil, List.append_nil, hwire]
        exact (List.prefix_append_right_inj _).mpr hq
      · rw [hb hok, hwire, hall hok, List.append_nil, List.flatten_nil, List.append_nil]
        rfl
      · rw [hsame]
        exact Nat.le_max_left _ _
    cases ok' with
    | false =>
      obtain ⟨rfl, rfl⟩ := Exec.pure_some.mp h
      exact ⟨hputs _ nofun, nofun, hpeak⟩
    | true =>
      obtain ⟨_, p₂, hset, h⟩ := Exec.bind_some.mp h
      obtain ⟨rfl, rfl⟩ := Exec.pure_some.mp h
      obtain rfl := Exec.modify_some.mp hset
      exact ⟨hputs [] fun _ => rfl, fun _ => rfl, hpeak⟩

/-- The flush in front of a chunk that does not fit makes room for it. -/
theorem makeRoom_takes {length deadline : Nat} {p p' : Port} {ok : Bool}
    (h : makeRoom length deadline p = some (ok, p')) (hle : length ≤ p.conn.writeBufferCap) :
    Takes [] ok p.conn.writer p'.conn.writer ∧
      p'.conn.writeBufferPeak = p.conn.writeBufferPeak ∧
      (ok = true → p'.conn.writeBuffer.length + length ≤ p'.conn.writeBufferCap) := by
  rw [makeRoom, Exec.get_bind_run] at h
  split at h
  · obtain ⟨htakes, hempty, hpeak⟩ := flushWriteBuffer_takes h
    refine ⟨htakes, hpeak, fun hok => ?_⟩
    have hcap : p'.conn.writeBufferCap = p.conn.writeBufferCap := htakes.setup.2
    rw [hempty hok, List.length_nil, Nat.zero_add, hcap]
    exact hle
  · next hfits =>
    obtain ⟨rfl, rfl⟩ := Exec.pure_some.mp h
    exact ⟨.refl _ _, rfl, fun _ => Nat.le_of_not_lt hfits⟩

/-- `h2_connection_buffer_or_write` with coalescing: whichever route the chunk takes, it follows
what was given before it. -/
theorem bufferOrWrite_takes {data : Bytes} {deadline : Nat} {p p' : Port} {ok : Bool}
    {before : List Bytes} (h : bufferOrWrite data deadline p = some (ok, p'))
    (hon : p.conn.writeCoalescing = true) (hhanded : p.conn.handed = before ++ [data]) :
    Takes [data] ok { p.conn.writer with handed := before } p'.conn.writer := by
  rw [bufferOrWrite, Exec.get_bind_run] at h
  simp only [hon, Bool.not_true, Bool.false_eq_true, if_false] at h
  -- A step that keeps the record of the chunk is the taking of the chunk.
  have hrecord {b : Writer} (hsetup : b.coalescing = true ∧ b.cap = p.conn.writeBufferCap)
      (hh : b.handed = p.conn.handed) (hgrows : p.conn.wire <+: b.wire)
      (hcut : b.wire <+: p.conn.wire ++ p.conn.writeBuffer ++ data)
      (hkept : ok = true → b.wire ++ b.buffer = p.conn.wire ++ p.conn.writeBuffer ++ data)
      (hroom : b.peak ≤ max p.conn.writeBufferPeak p.conn.writeBufferCap) :
      Takes [data] ok { p.conn.writer with handed := before } b := by
    refine ⟨⟨hsetup.1.trans hon.symm, hsetup.2⟩, hh.trans hhanded, hgrows, ?_, ?_, hroom⟩
    · rw [List.flatten_singleton]
      exact hcut
    · rw [List.flatten_singleton]
      exact hkept
  split at h
  · obtain ⟨ok₁, p₁, hflush, h⟩ := Exec.bind_some.mp h
    obtain ⟨htakes, hempty, -⟩ := flushWriteBuffer_takes hflush
    have hcut₁ : p₁.conn.wire <+: p.conn.wire ++ p.conn.writeBuffer := by
      have := htakes.cut
      rwa [List.flatten_nil, List.append_nil] at this
    have hhanded₁ : p₁.conn.handed = p.conn.handed := htakes.handed.trans (List.append_nil _)
    cases ok₁ with
    | false =>
      obtain ⟨rfl, rfl⟩ := Exec.pure_some.mp h
      exact hrecord ⟨htakes.setup.1.trans hon, htakes.setup.2⟩ hhanded₁ htakes.grows
        (hcut₁.trans (List.prefix_append _ _)) nofun htakes.room
    | true =>
      have hwire₁ : p₁.conn.wire = p.conn.wire ++ p.conn.writeBuffer := by
        have hkept : p₁.conn.wire ++ p₁.conn.writeBuffer =
          p.conn.wire ++ p.conn.writeBuffer ++ [].flatten := htakes.kept rfl
        rwa [hempty rfl, List.flatten_nil, List.append_nil, List.append_nil] at hkept
      obtain ⟨hsame, q, hq, hwire, hall⟩ := writeAllLoop_puts _ _ _ h
      have hw : p'.conn.writer.wire = p.conn.wire ++ p.conn.writeBuffer ++ q := by
        rw [hwire, ← hwire₁]
        rfl
      have hbuf : p'.conn.writer.buffer = [] := by
        rw [hsame]
        exact hempty rfl
      have hpeak : p'.conn.writer.peak = p₁.conn.writer.peak := by rw [hsame]
      refine hrecord ⟨?_, ?_⟩ ?_ ?_ ?_ (fun hok => ?_) (hpeak ▸ htakes.room)
      · rw [hsame]
        exact htakes.setup.1.trans hon
      · rw [hsame]
        exact htakes.setup.2
      · rw [hsame]
        exact hhanded₁
      · rw [hw, List.append_assoc]
        exact List.prefix_append _ _
      · rw [hw]
        exact (List.prefix_append_right_inj _).mpr hq
      · rw [hw, hbuf, hall hok, List.append_nil]
  · next hshort =>
    obtain ⟨ok₁, p₁, hmake, h⟩ := Exec.bind_some.mp h
    obtain ⟨htakes, hpeak, hfits⟩ := makeRoom_takes hmake (Nat.le_of_not_lt hshort)
    have hcut₁ : p₁.conn.wire <+: p.conn.wire ++ p.conn.writeBuffer := by
      have := htakes.cut
      rwa [List.flatten_nil, List.append_nil] at this
    have hhanded₁ : p₁.conn.handed = p.conn.handed := htakes.handed.trans (List.append_nil _)
    cases ok₁ with
    | false =>
      obtain ⟨rfl, rfl⟩ := Exec.pure_some.mp h
      exact hrecord ⟨htakes.setup.1.trans hon, htakes.setup.2⟩ hhanded₁ htakes.grows
        (hcut₁.trans (List.prefix_append _ _)) nofun htakes.room
    | true =>
      obtain ⟨_, p₂, hset, h⟩ := Exec.bind_some.mp h
      obtain ⟨rfl, rfl⟩ := Exec.pure_some.mp h
      obtain rfl := Exec.modify_some.mp hset
      refine hrecord ⟨htakes.setup.1.trans hon, htakes.setup.2⟩ hhanded₁ htakes.grows
        (hcut₁.trans (List.prefix_append _ _)) (fun _ => ?_) ?_
      · have hkept : p₁.conn.wire ++ p₁.conn.writeBuffer =
          p.conn.wire ++ p.conn.writeBuffer ++ [].flatten := htakes.kept rfl
        rw [List.flatten_nil, List.append_nil] at hkept
        change p₁.conn.wire ++ (p₁.conn.writeBuffer ++ data) = _
        rw [← List.append_assoc, hkept]
      · have hcap : p₁.conn.writeBufferCap = p.conn.writeBufferCap := htakes.setup.2
        have hle := hfits rfl
        change max p₁.conn.writeBufferPeak (p₁.conn.writeBuffer.length + data.length) ≤ _
        omega

/-- `send_callback` gives its chunk to the writer. -/
theorem sendCallback_takes {data : Bytes} {p p' : Port} {ok : Bool}
    (h : sendCallback data p = some (ok, p')) (hon : p.conn.writeCoalescing = true) :
    Takes [data] ok p.conn.writer p'.conn.writer := by
  obtain ⟨_, p₁, hset, h⟩ := Exec.bind_some.mp h
  obtain rfl := Exec.modify_some.mp hset
  rw [Exec.get_bind_run] at h
  have hhanded : p.conn.handed ++ [data] = p.conn.handed ++ [data] := rfl
  have htakes := bufferOrWrite_takes h hon hhanded
  exact htakes

end Port

namespace Proc

open Writer

/-! ## Callbacks that write nothing -/

/-- The writer of a connection is not touched. -/
def Silent (k : ConnId) (w w' : World) : Prop := (w'.conns k).writer = (w.conns k).writer

instance {k : ConnId} : Std.Refl (Silent k) := ⟨fun _ => rfl⟩

instance {k : ConnId} : IsTrans World (Silent k) := ⟨fun _ _ _ h h' => h'.trans h⟩

/-- A change of connections outside their writers. -/
theorem setConn_silent {k : ConnId} (k' : ConnId) {f : H2Connection → H2Connection}
    (h : ∀ conn, (f conn).writer = conn.writer) : Exec.Within (Silent k) (setConn k' f) := by
  refine .modify fun w => ?_
  change (Function.update w.conns k' (f (w.conns k')) k).writer = _
  by_cases hk : k = k'
  · subst hk
    rw [Function.update_self]
    exact h _
  · rw [Function.update_of_ne hk]

/-- A note of what the library has to send. -/
theorem noteOutbound_silent {k : ConnId} (k' : ConnId) (outbound : Bool) :
    Exec.Within (Silent k) (noteOutbound k' outbound) :=
  setConn_silent _ fun _ => rfl

/-- An input to a call. -/
theorem input_silent {k : ConnId} (c : CallId) (i : CallInput) :
    Exec.Within (Silent k) (input c i) :=
  .modify fun _ => rfl

/-- A record in the log. -/
theorem log_silent {k : ConnId} (k' : ConnId) (kind : IoKind) :
    Exec.Within (Silent k) (log k' kind) :=
  .modify fun _ => rfl

/-- The library forgets a stream. -/
theorem clearUserData_silent {k : ConnId} (k' : ConnId) (streamId : Int) :
    Exec.Within (Silent k) (clearUserData k' streamId) :=
  .bind (log_silent _ _) fun _ => setConn_silent _ fun _ => rfl

/-- A call leaves the list of its connection. -/
theorem unregisterGrpcCallStream_silent {k : ConnId} (c : CallId) :
    Exec.Within (Silent k) (unregisterGrpcCallStream c) := by
  refine .bind (.bind .get fun _ => .pure _) fun call => ?_
  cases call.connection with
  | none => exact .pure _
  | some k' =>
    refine .ite (.pure _) (.bind (.bind .get fun _ => .pure _) fun conn => ?_)
    refine .bind (.when fun _ => clearUserData_silent _ _) fun _ => ?_
    exact .bind (setConn_silent _ fun _ => rfl) fun _ => input_silent _ _

/-- Resets that a callback asks for. -/
theorem noteRsts_silent {k : ConnId} (k' : ConnId) (streamId : Int) (rsts : List (Nat × Int)) :
    Exec.Within (Silent k) (noteRsts k' streamId rsts) := by
  induction rsts with
  | nil => exact .pure _
  | cons rst rest ih =>
    refine .bind (.bind (log_silent _ _) fun _ => .bind (.modify fun _ => rfl) fun _ => ?_)
      fun _ => ih
    exact .ite (setConn_silent _ fun _ => rfl) (.ite (setConn_silent _ fun _ => rfl) (.pure _))

/-- A callback of a stream hands nothing to the writer. -/
theorem onStreamEvent_silent {k : ConnId} (k' : ConnId) (streamId : Int) (event : StreamEvent) :
    Exec.Within (Silent k) (onStreamEvent k' streamId event) := by
  refine .bind (setConn_silent _ fun _ => rfl) fun _ => .bind ?_ fun rv =>
    .bind (.when fun _ => setConn_silent _ fun _ => rfl) fun _ => .pure _
  refine .bind .get fun w => ?_
  cases (w.conns k').userData streamId with
  | none => exact .pure _
  | some c =>
    refine .ite (.pure _) (.bind .get fun w' => .bind (input_silent _ _) fun _ => ?_)
    refine .bind (noteRsts_silent _ _ _) fun _ => ?_
    exact .bind (.when fun _ => unregisterGrpcCallStream_silent _) fun _ => .pure _

/-! ## Callbacks that write -/

/-- A frame is handed to the writer. -/
theorem sendFrame_takes {k : ConnId} {bytes : Bytes} {ok : Bool} {w w' : World}
    (h : sendFrame k bytes w = some (ok, w')) (hon : (w.conns k).writeCoalescing = true) :
    Takes [bytes] ok (w.conns k).writer (w'.conns k).writer ∧ w'.calls = w.calls := by
  obtain ⟨_, w₁, hlog, h⟩ := Exec.bind_some.mp h
  obtain rfl := Exec.modify_some.mp hlog
  obtain ⟨p', hsend, rfl⟩ := Exec.zoom_some.mp h
  have htakes := Port.sendCallback_takes hsend hon
  refine ⟨?_, rfl⟩
  change Takes [bytes] ok (w.conns k).writer (Function.update w.conns k p'.conn k).writer
  rw [Function.update_self]
  exact htakes

/-- The write loop of a DATA frame writes the chunks of the request; if all writes succeed, it is
the loop of `GrpcCall.sendDataChunks`. -/
theorem sendDataLoop_takes {k : ConnId} {c : CallId} (fuel : Nat) {length : Nat} {ok : Bool}
    {w w' : World} (h : sendDataLoop k c fuel length w = some (ok, w'))
    (hon : (w.conns k).writeCoalescing = true) :
    ∃ chunks, Takes chunks ok (w.conns k).writer (w'.conns k).writer ∧
      (ok = true → GrpcCall.sendDataChunks fuel (w.calls c).call length =
        some (chunks, (w'.calls c).call)) := by
  induction fuel generalizing w length with
  | zero =>
    cases length with
    | zero =>
      obtain ⟨rfl, rfl⟩ := Exec.pure_some.mp h
      exact ⟨[], .refl _ _, fun _ => rfl⟩
    | succ length =>
      obtain ⟨rfl, rfl⟩ := Exec.pure_some.mp h
      exact ⟨[], .refl _ _, nofun⟩
  | succ fuel ih =>
    cases length with
    | zero =>
      obtain ⟨rfl, rfl⟩ := Exec.pure_some.mp h
      exact ⟨[], .refl _ _, fun _ => rfl⟩
    | succ length =>
      obtain ⟨call, w₁, hcall, h⟩ := Exec.bind_some.mp h
      rw [Proc.call, Exec.get_bind_run] at hcall
      obtain ⟨rfl, rfl⟩ := Exec.pure_some.mp hcall
      cases hchunk : (w.calls c).call.requestChunk (length + 1) with
      | none =>
        simp only [hchunk] at h
        obtain ⟨rfl, rfl⟩ := Exec.pure_some.mp h
        exact ⟨[], .refl _ _, nofun⟩
      | some chunk =>
        simp only [hchunk] at h
        obtain ⟨sent, w₂, hsend, h⟩ := Exec.bind_some.mp h
        obtain ⟨htakes, hcalls⟩ := sendFrame_takes hsend hon
        cases sent with
        | false =>
          obtain ⟨rfl, rfl⟩ := Exec.pure_some.mp h
          exact ⟨[chunk], htakes, nofun⟩
        | true =>
          obtain ⟨_, w₃, hin, h⟩ := Exec.bind_some.mp h
          obtain rfl := Exec.modify_some.mp hin
          obtain ⟨chunks, htakes', heq⟩ := ih h (htakes.setup.1.trans hon)
          refine ⟨chunk :: chunks, htakes.trans htakes', fun hok => ?_⟩
          have hadvance : ((w₂.input c (.requestSent chunk.length)).calls c).call =
              (w.calls c).call.advanceRequest chunk.length := by
            change (Function.update w₂.calls c ((w₂.calls c).input _) c).call = _
            rw [Function.update_self, hcalls]
            rfl
          have hrest := heq hok
          rw [hadvance] at hrest
          simp only [GrpcCall.sendDataChunks, hchunk, Option.bind_eq_bind, Option.bind_some, hrest]
          rfl

/-- A DATA frame is written as its header and a payload of the length that the read callback decided,
and nothing is written for a frame that is not sent. -/
theorem sendData_takes {k : ConnId} {streamId : Int} {limit : Nat} {framehd : Bytes}
    {padlen : Nat} {ok : Bool} {w w' : World}
    (h : sendData k streamId limit framehd padlen w = some (ok, w'))
    (hon : (w.conns k).writeCoalescing = true) :
    ∃ chunks, Takes chunks ok (w.conns k).writer (w'.conns k).writer ∧
      (ok = true → ((w.conns k).requestSource streamId = none ∨ 0 < padlen) ∧ chunks = [] ∨
        ∃ c payload, (w.conns k).requestSource streamId = some c ∧ padlen = 0 ∧
          payload.length = ((w.calls c).call.dataSourceReadCallback limit).1 ∧
          chunks.flatten = framehd ++ payload) := by
  rw [sendData, Exec.get_bind_run] at h
  cases hsource : (w.conns k).requestSource streamId with
  | none =>
    rw [hsource] at h
    obtain ⟨-, rfl⟩ := Exec.pure_some.mp h
    exact ⟨[], .refl _ _, fun _ => .inl ⟨.inl rfl, rfl⟩⟩
  | some c =>
    simp only [hsource] at h
    obtain ⟨_, w₁, hread, h⟩ := Exec.bind_some.mp h
    obtain rfl := Exec.modify_some.mp hread
    split at h
    · next hpad =>
      obtain ⟨_, w₂, hreset, h⟩ := Exec.bind_some.mp h
      obtain ⟨-, rfl⟩ := Exec.pure_some.mp h
      have hsame := setConn_silent (k := k) k
        (f := fun conn => conn.mapStream streamId fun entry => { entry with reset := true })
        (fun _ => rfl) _ _ _ hreset
      have hw : (w₂.conns k).writer = (w.conns k).writer := hsame
      rw [hw]
      exact ⟨[], .refl _ _, fun _ => .inl ⟨.inr hpad, rfl⟩⟩
    · next hpad =>
      obtain ⟨sent, w₂, hsend, h⟩ := Exec.bind_some.mp h
      obtain ⟨htakes, hcalls⟩ := sendFrame_takes hsend hon
      cases sent with
      | false =>
        obtain ⟨rfl, rfl⟩ := Exec.pure_some.mp h
        exact ⟨[framehd], htakes, fun hok => absurd hok Bool.false_ne_true⟩
      | true =>
        obtain ⟨chunks, htakes', hloop⟩ := sendDataLoop_takes _ h (htakes.setup.1.trans hon)
        refine ⟨[framehd] ++ chunks, htakes.trans htakes', fun hok => .inr
          ⟨c, chunks.flatten, rfl, Nat.le_zero.mp (Nat.not_lt.mp hpad), ?_, ?_⟩⟩
        · exact GrpcCall.length_sendDataChunks (hloop hok)
        · rw [List.singleton_append, List.flatten_cons]

/-- The callbacks of a send hand their chunks to the writer, all of them if the send succeeds. -/
theorem onSendOps_takes {k : ConnId} {rv rv' : Int} (ops : List SendOp) {w w' : World}
    (h : onSendOps k rv ops w = some (rv', w')) (hon : (w.conns k).writeCoalescing = true) :
    ∃ chunks ok, Takes chunks ok (w.conns k).writer (w'.conns k).writer ∧
      (rv' = 0 → ok = true) := by
  induction ops generalizing w with
  | nil =>
    obtain ⟨-, rfl⟩ := Exec.pure_some.mp h
    exact ⟨[], true, .refl _ _, fun _ => rfl⟩
  | cons op rest ih =>
    obtain ⟨ok, w₁, hop, h⟩ := Exec.bind_some.mp h
    obtain ⟨chunks, htakes⟩ : ∃ chunks, Takes chunks ok (w.conns k).writer (w₁.conns k).writer := by
      cases op with
      | frame bytes => exact ⟨[bytes], (sendFrame_takes hop hon).1⟩
      | data streamId limit framehd padlen =>
        obtain ⟨chunks, htakes, -⟩ := sendData_takes hop hon
        exact ⟨chunks, htakes⟩
      | close streamId errorCode =>
        obtain ⟨rv₁, w₂, hevent, hop⟩ := Exec.bind_some.mp hop
        obtain ⟨-, rfl⟩ := Exec.pure_some.mp hop
        have hw : (w₂.conns k).writer = (w.conns k).writer :=
          onStreamEvent_silent _ _ _ _ _ _ hevent
        rw [hw]
        exact ⟨[], .refl _ _⟩
    cases ok with
    | false =>
      obtain ⟨rfl, rfl⟩ := Exec.pure_some.mp h
      exact ⟨chunks, false, htakes, fun h0 => absurd h0 (by decide)⟩
    | true =>
      obtain ⟨chunks', ok', htakes', hok⟩ := ih h (htakes.setup.1.trans hon)
      exact ⟨chunks ++ chunks', ok', htakes.trans htakes', hok⟩

/-- The library call and the final flush: on success everything is on the wire. -/
theorem sendAndFlush_takes {k : ConnId} {rv : Int} {w w' : World}
    (h : sendAndFlush k w = some (rv, w')) (hon : (w.conns k).writeCoalescing = true) :
    ∃ chunks ok, Takes chunks ok (w.conns k).writer (w'.conns k).writer ∧
      (rv = 0 → ok = true ∧ (w'.conns k).writeBuffer = []) := by
  obtain ⟨rv₁, w₁, hsend, h⟩ := Exec.bind_some.mp h
  obtain ⟨_, w₂, hlog, hsend⟩ := Exec.bind_some.mp hsend
  obtain rfl := Exec.modify_some.mp hlog
  obtain ⟨conn, w₂, hconn, hsend⟩ := Exec.bind_some.mp hsend
  rw [Proc.conn, Exec.get_bind_run] at hconn
  obtain ⟨rfl, rfl⟩ := Exec.pure_some.mp hconn
  obtain ⟨⟨ops, rv₀⟩, w₃, hask, hsend⟩ := Exec.bind_some.mp hsend
  obtain ⟨env', -, rfl⟩ := Exec.zoom_some.mp hask
  obtain ⟨rv₂, w₄, hops, hsend⟩ := Exec.bind_some.mp hsend
  obtain ⟨chunks, ok, htakes, hok⟩ := onSendOps_takes ops hops hon
  obtain ⟨_, v, hnote, hsend⟩ := Exec.bind_some.mp hsend
  obtain ⟨rfl, hv⟩ := Exec.pure_some.mp hsend
  subst v
  have hsilent : (w₁.conns k).writer = (w₄.conns k).writer :=
    Exec.Within.when (fun _ => noteOutbound_silent k false) _ _ _ hnote
  rw [← hsilent] at htakes
  split at h
  · next hzero =>
    obtain rfl := hok hzero
    obtain ⟨_, w₄, hlog', h⟩ := Exec.bind_some.mp h
    obtain rfl := Exec.modify_some.mp hlog'
    obtain ⟨conn, w₅, hconn, h⟩ := Exec.bind_some.mp h
    rw [Proc.conn, Exec.get_bind_run] at hconn
    obtain ⟨rfl, rfl⟩ := Exec.pure_some.mp hconn
    obtain ⟨flushed, w₆, hflush, h⟩ := Exec.bind_some.mp h
    obtain ⟨p', hport, rfl⟩ := Exec.zoom_some.mp hflush
    obtain ⟨htakes', hempty, -⟩ := Port.flushWriteBuffer_takes hport
    have hall := htakes.trans htakes'
    rw [List.append_nil] at hall
    have hself : Function.update w₁.conns k p'.conn k = p'.conn := Function.update_self ..
    cases flushed with
    | false =>
      obtain ⟨rfl, rfl⟩ := Exec.pure_some.mp h
      refine ⟨chunks, false, ?_, fun h0 => absurd h0 (by decide)⟩
      change Takes chunks false _ (Function.update w₁.conns k p'.conn k).writer
      rw [hself]
      exact hall
    | true =>
      obtain ⟨rfl, rfl⟩ := Exec.pure_some.mp h
      refine ⟨chunks, true, ?_, fun _ => ⟨rfl, ?_⟩⟩
      · change Takes chunks true _ (Function.update w₁.conns k p'.conn k).writer
        rw [hself]
        exact hall
      · change (Function.update w₁.conns k p'.conn k).writeBuffer = []
        rw [hself]
        exact hempty rfl
  · next hne =>
    obtain ⟨rfl, rfl⟩ := Exec.pure_some.mp h
    exact ⟨chunks, ok, htakes, fun h0 => absurd h0 hne⟩

/-- What one flush of pending frames does to the wire of its connection. -/
structure Flushed (k : ConnId) (rv : Int) (w w' : World) : Prop where
  /-- On success the chunks given to the writer are on the wire, in order and all of them, and
  the buffer is empty. -/
  exact : rv = 0 → ∃ chunks, (w'.conns k).handed = (w.conns k).handed ++ chunks ∧
    (w'.conns k).wire = (w.conns k).wire ++ chunks.flatten ∧ (w'.conns k).writeBuffer = []
  /-- On failure a prefix of them is on the wire and the connection is dead. -/
  cut : rv ≠ 0 → (w'.conns k).dead = true ∧ ∃ chunks sent,
    (w'.conns k).handed = (w.conns k).handed ++ chunks ∧ sent <+: chunks.flatten ∧
      (w'.conns k).wire = (w.conns k).wire ++ sent
  /-- Behind a failure no flush changes anything any more. -/
  final : rv ≠ 0 → ∀ oc fallback, sendPendingH2FramesWithDeadline k oc fallback w' =
    some (Nghttp2.errInvalidArgument, w')
  /-- The buffer never held more than its capacity. -/
  room : (w'.conns k).writeBufferPeak ≤
    max (w.conns k).writeBufferPeak (w.conns k).writeBufferCap

/-- A dead connection is not driven any more. -/
theorem sendPendingH2FramesWithDeadline_dead {k : ConnId} {oc : Option CallId} {fallback : Nat}
    {w : World} (h : (w.conns k).dead = true) :
    sendPendingH2FramesWithDeadline k oc fallback w = some (Nghttp2.errInvalidArgument, w) := by
  rw [sendPendingH2FramesWithDeadline, Exec.get_bind_run, if_pos h]
  rfl

/-- A failed send is noted in its call. -/
theorem noteSendFailure_conns {k : ConnId} {oc : Option CallId} {w w' : World} {u : Unit}
    (h : noteSendFailure k oc w = some (u, w')) : w'.conns = w.conns := by
  cases oc with
  | none =>
    obtain ⟨-, rfl⟩ := Exec.pure_some.mp h
    rfl
  | some c =>
    obtain ⟨conn, w₁, hconn, h⟩ := Exec.bind_some.mp h
    rw [Proc.conn, Exec.get_bind_run] at hconn
    obtain ⟨rfl, rfl⟩ := Exec.pure_some.mp hconn
    obtain ⟨_, w₂, hwhen, h⟩ := Exec.bind_some.mp h
    obtain rfl := Exec.modify_some.mp h
    obtain ⟨-, hmark⟩ | ⟨-, rfl⟩ := Exec.when_some.mp hwhen
    · rw [markTimedOut, Exec.get_bind_run] at hmark
      obtain rfl := Exec.modify_some.mp hmark
      rfl
    · rfl

/-- Whatever the capacity, the lengths of the chunks and the results of the writes, a flush of
pending frames puts the chunks on the wire exactly or kills the connection behind a prefix of
them, within the capacity of the buffer. -/
theorem sendPendingH2FramesWithDeadline_flushed {k : ConnId} {oc : Option CallId} {fallback : Nat}
    {rv : Int} {w w' : World}
    (h : sendPendingH2FramesWithDeadline k oc fallback w = some (rv, w')) :
    Flushed k rv w w' := by
  by_cases hdead : (w.conns k).dead = true
  · rw [sendPendingH2FramesWithDeadline_dead hdead] at h
    obtain ⟨rfl, rfl⟩ := Prod.mk.inj (Option.some.inj h)
    refine ⟨fun h0 => absurd h0 (by decide), fun _ => ⟨hdead, [], [], ?_⟩,
      fun _ _ _ => sendPendingH2FramesWithDeadline_dead hdead, Nat.le_max_left _ _⟩
    exact ⟨(List.append_nil _).symm, List.prefix_refl _, (List.append_nil _).symm⟩
  rw [sendPendingH2FramesWithDeadline, Exec.get_bind_run, if_neg hdead] at h
  obtain ⟨_, w₁, harm, h⟩ := Exec.bind_some.mp h
  obtain ⟨rv', w₂, hsend, h⟩ := Exec.bind_some.mp h
  obtain ⟨_, w₃, hwhen, h⟩ := Exec.bind_some.mp h
  obtain ⟨_, w₄, hend, h⟩ := Exec.bind_some.mp h
  obtain ⟨rfl, rfl⟩ := Exec.pure_some.mp h
  have harmed : (w₁.conns k).writer =
      { (w.conns k).writer with coalescing := true, buffer := [] } := by
    rw [Exec.modify_some.mp harm]
    change (Function.update w.conns k _ k).writer = _
    rw [Function.update_self]
    rfl
  obtain ⟨chunks, ok, htakes, hok⟩ := sendAndFlush_takes hsend (congrArg Writer.coalescing harmed)
  rw [harmed] at htakes
  -- The end of the function touches the record and the wire no more.
  have hreset : (w₄.conns k).writer =
      { (w₃.conns k).writer with coalescing := false, buffer := [] } ∧
        (w₄.conns k).dead = (w₃.conns k).dead := by
    rw [Exec.modify_some.mp hend]
    change (Function.update w₃.conns k _ k).writer = _ ∧ (Function.update w₃.conns k _ k).dead = _
    rw [Function.update_self]
    exact ⟨rfl, rfl⟩
  have hnoted : (w₃.conns k).writer = (w₂.conns k).writer ∧
      (rv' ≠ 0 → (w₃.conns k).dead = true) := by
    obtain ⟨hne, hfail⟩ | ⟨hzero, rfl⟩ := Exec.when_some.mp hwhen
    · obtain ⟨_, w₅, hdie, hnote⟩ := Exec.bind_some.mp hfail
      obtain rfl := Exec.modify_some.mp hdie
      rw [noteSendFailure_conns hnote]
      change (Function.update w₂.conns k _ k).writer = _ ∧
        (rv' ≠ 0 → (Function.update w₂.conns k _ k).dead = true)
      rw [Function.update_self]
      exact ⟨rfl, fun _ => rfl⟩
    · exact ⟨rfl, fun hne => absurd hne hzero⟩
  have hwriter : (w₄.conns k).writer =
      { (w₂.conns k).writer with coalescing := false, buffer := [] } := by
    rw [hreset.1, hnoted.1]
  have hhanded : (w₄.conns k).handed = (w.conns k).handed ++ chunks :=
    (congrArg Writer.handed hwriter).trans htakes.handed
  have hwire : (w₄.conns k).wire = (w₂.conns k).wire := congrArg Writer.wire hwriter
  refine ⟨fun h0 => ⟨chunks, hhanded, ?_, congrArg Writer.buffer hwriter⟩, fun hne => ⟨?_, ?_⟩,
    fun hne oc' fallback' => sendPendingH2FramesWithDeadline_dead ?_, ?_⟩
  · obtain ⟨hok', hempty⟩ := hok h0
    have hkept : (w₂.conns k).wire ++ (w₂.conns k).writeBuffer =
      (w.conns k).wire ++ [] ++ chunks.flatten := htakes.kept hok'
    rw [hempty, List.append_nil, List.append_nil] at hkept
    exact hwire.trans hkept
  · exact hreset.2.trans (hnoted.2 hne)
  · obtain ⟨sent, hsent⟩ := htakes.grows
    have hsent' : (w.conns k).wire ++ sent = (w₂.conns k).wire := hsent
    have hcut : (w₂.conns k).wire <+: (w.conns k).wire ++ [] ++ chunks.flatten := htakes.cut
    rw [← hsent', List.append_nil] at hcut
    exact ⟨chunks, sent, hhanded, (List.prefix_append_right_inj _).mp hcut, hwire.trans hsent'.symm⟩
  · exact hreset.2.trans (hnoted.2 hne)
  · have hpeak : (w₄.conns k).writeBufferPeak = (w₂.conns k).writeBufferPeak :=
      congrArg Writer.peak hwriter
    rw [hpeak]
    exact htakes.room

/-- A buffer of two bytes, and a socket that takes the middle chunk in two parts. -/
private def smallBuffer : World where
  conns := fun _ => { writeBufferCap := 2, outbound := true }
  env := { script := [.sessionSend [.frame [1], .frame [2, 3, 4], .frame [5]] 0,
    .send 1 0, .send 2 0, .send 1 0, .send 1 0] }

/-- The middle chunk does not fit, so it follows a flush and goes to the socket directly. -/
theorem flushed_smallBuffer : ∃ w', sendPendingH2FramesWithDeadline 0 none 0 smallBuffer =
    some (0, w') ∧ (w'.conns 0).wire = [1, 2, 3, 4, 5] ∧ Flushed 0 0 smallBuffer w' := by
  have hrun : (sendPendingH2FramesWithDeadline 0 none 0 smallBuffer).map
      (fun r => (r.1, (r.2.conns 0).wire)) = some (0, [1, 2, 3, 4, 5]) := by decide +kernel
  obtain ⟨⟨rv, w'⟩, h, heq⟩ := Option.map_eq_some_iff.mp hrun
  obtain ⟨rfl, hwire⟩ := Prod.mk.inj heq
  exact ⟨w', h, hwire, sendPendingH2FramesWithDeadline_flushed h⟩

end Proc

end GrpcLite
