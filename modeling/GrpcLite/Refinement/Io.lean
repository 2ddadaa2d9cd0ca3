import GrpcLite.Refinement.Timing
import GrpcLite.Refinement.View

/-!
# Input and output keep the ledger

Reading and writing change neither what the ledger keeps of a connection nor its
deadlines. The flag of a write past its deadline is honest, and so is the error
number of a read that ran into the deadline of its call.
-/

namespace GrpcLite

/-- A connection whose write flag is raised only behind an expired deadline. -/
def H2Connection.Honest (conn : H2Connection) (env : Env) : Prop :=
  conn.currentWriteTimedOut = true →
    0 < conn.currentWriteDeadlineAbsUs ∧ env.Elapsed conn.currentWriteDeadlineAbsUs

/-- Time that passes keeps a note of an expired write. -/
theorem H2Connection.Honest.grows {conn : H2Connection} {env env' : Env} (h : conn.Honest env)
    (hg : env.Grows env') : conn.Honest env' :=
  fun hflag => ⟨(h hflag).1, (h hflag).2.grows hg⟩

namespace Port

/-- The effect of input and output on a connection. -/
structure Keeps (p p' : Port) : Prop where
  /-- Time passes. -/
  env : p.env.Grows p'.env
  /-- The ledger sees no change. -/
  view : p'.conn.view = p.conn.view
  /-- The deadlines stay. -/
  deadlines : p'.conn.currentWriteDeadlineAbsUs = p.conn.currentWriteDeadlineAbsUs ∧
    p'.conn.setupDeadlineAbsUs = p.conn.setupDeadlineAbsUs
  /-- The write flag stays honest. -/
  honest : p.conn.Honest p.env → p'.conn.Honest p'.env

instance : Std.Refl Keeps := ⟨fun p => ⟨Std.Refl.refl p.env, rfl, ⟨rfl, rfl⟩, id⟩⟩

instance : IsTrans Port Keeps := ⟨fun _ _ _ h h' => ⟨trans_of Env.Grows h.env h'.env,
  h'.view.trans h.view, ⟨h'.deadlines.1.trans h.deadlines.1, h'.deadlines.2.trans h.deadlines.2⟩,
  h'.honest ∘ h.honest⟩⟩

/-- The deadline of a write stays. -/
theorem Keeps.writeDeadline {p p' : Port} (h : Keeps p p') :
    p'.conn.writeDeadline = p.conn.writeDeadline := by
  simp only [H2Connection.writeDeadline, h.deadlines.1, h.deadlines.2]

/-- The effect of a write that uses the deadline of the connection. -/
def Writes (deadline : Nat) (p p' : Port) : Prop := p.conn.writeDeadline = deadline → Keeps p p'

instance {deadline : Nat} : Std.Refl (Writes deadline) := ⟨fun p _ => Std.Refl.refl p⟩

instance {deadline : Nat} : IsTrans Port (Writes deadline) := ⟨fun _ _ _ h h' hd =>
  trans_of Keeps (h hd) (h' ((h hd).writeDeadline.trans hd))⟩

/-- What keeps the deadline is a write. -/
theorem writes_of_keeps {α : Type} {m : Exec Port α} (deadline : Nat)
    (h : Exec.Within Keeps m) : Exec.Within (Writes deadline) m :=
  fun p a p' hm _ => h p a p' hm

/-! ## Reading -/

/-- What the environment does takes time at most. -/
theorem onEnv_keeps {α : Type} {m : Exec Env α} (h : Exec.Within Env.Grows m) :
    Exec.Within Keeps (onEnv m) := by
  intro p a p' hm
  obtain ⟨env', hrun, rfl⟩ := Exec.zoom_some.mp hm
  have hg := h _ _ _ hrun
  exact ⟨hg, rfl, ⟨rfl, rfl⟩, fun hh => hh.grows hg⟩

/-- A change of fields that neither the ledger nor the deadlines depend on. -/
theorem setConn_keeps {f : H2Connection → H2Connection} (hview : ∀ conn, (f conn).view = conn.view)
    (hdeadlines : ∀ conn, (f conn).currentWriteDeadlineAbsUs = conn.currentWriteDeadlineAbsUs ∧
      (f conn).setupDeadlineAbsUs = conn.setupDeadlineAbsUs)
    (hflag : ∀ conn, (f conn).currentWriteTimedOut = conn.currentWriteTimedOut) :
    Exec.Within Keeps (setConn f) := by
  refine .modify fun p => ⟨Std.Refl.refl p.env, hview p.conn, hdeadlines p.conn, fun h hf => ?_⟩
  rw [(hdeadlines p.conn).1]
  exact h ((hflag p.conn).symm.trans hf)

/-- The detail of a failure is noted. -/
theorem noteFailure_keeps (detail : ErrorDetail) : Exec.Within Keeps (noteFailure detail) :=
  .bind .get fun _ => setConn_keeps (fun _ => rfl) (fun _ => ⟨rfl, rfl⟩) fun _ => rfl

/-- A wait takes time. -/
theorem waitReady_keeps (events deadline : Nat) (pollFailed : Nat → ErrorDetail) :
    Exec.Within Keeps (waitReady events deadline pollFailed) := by
  refine .bind (onEnv_keeps (Env.waitInTime_grows events deadline)) fun _ => .ite (.pure _) ?_
  refine .bind .get fun _ => .ite ?_ ?_
  · exact .bind (noteFailure_keeps _) fun _ => .pure _
  · exact .bind (noteFailure_keeps _) fun _ => .pure _

/-- The last error of TLS is noted. -/
theorem lastSslError_keeps (sslError : Nat) :
    Exec.Within Keeps (setConn fun conn => { conn with lastSslError := sslError }) :=
  setConn_keeps (fun _ => rfl) (fun _ => ⟨rfl, rfl⟩) fun _ => rfl

/-- A read from TLS takes time. -/
theorem sslReadLoop_keeps (length deadline fuel : Nat) :
    Exec.Within Keeps (sslReadLoop length deadline fuel) := by
  induction fuel with
  | zero => exact .block
  | succ fuel ih =>
    refine .bind (onEnv_keeps (Env.ask_grows _)) fun r => ?_
    refine .bind (onEnv_keeps (Env.setErrno_grows _)) fun _ => .ite (.pure _) ?_
    refine .bind (lastSslError_keeps _) fun _ => ?_
    split
    · refine .bind (waitReady_keeps _ _ _) fun wait => ?_
      cases wait with
      | again => exact ih
      | timedOut | failed => exact .pure _
    · refine .bind (onEnv_keeps (Env.setErrno_grows _)) fun _ => ?_
      exact .bind (noteFailure_keeps _) fun _ => .pure _

/-- A read from the socket takes time. -/
theorem recvLoop_keeps (length deadline fuel : Nat) :
    Exec.Within Keeps (recvLoop length deadline fuel) := by
  induction fuel with
  | zero => exact .block
  | succ fuel ih =>
    refine .bind (onEnv_keeps (Env.ask_grows _)) fun r => .ite (.pure _) ?_
    refine .bind (onEnv_keeps (Env.setErrno_grows _)) fun _ => .ite ?_ ?_
    · refine .bind (waitReady_keeps _ _ _) fun wait => ?_
      cases wait with
      | again => exact ih
      | timedOut | failed => exact .pure _
    · exact .bind (noteFailure_keeps _) fun _ => .pure _

/-- A read takes time, whichever way it goes. -/
theorem connectionRecv_keeps (length deadline : Nat) :
    Exec.Within Keeps (connectionRecv length deadline) := by
  refine .bind (onEnv_keeps (Env.remainingTimeoutUsForDeadline_grows deadline)) fun _ => .ite ?_ ?_
  · refine .bind (onEnv_keeps (Env.setErrno_grows _)) fun _ => ?_
    exact .bind (noteFailure_keeps _) fun _ => .pure _
  · exact .bind .get fun _ => .ite (sslReadLoop_keeps _ _ _) (recvLoop_keeps _ _ _)

/-! ## Writing -/

/-- Raising the write flag behind an expired deadline. -/
theorem markWriteTimedOut_keeps {p : Port}
    (h : 0 < p.conn.writeDeadline → p.env.Elapsed p.conn.writeDeadline) :
    Keeps p { p with conn := p.conn.markWriteTimedOut } := by
  by_cases hpos : p.conn.currentWriteDeadlineAbsUs > 0
  · have hmark : p.conn.markWriteTimedOut = { p.conn with currentWriteTimedOut := true } :=
      if_pos hpos
    have hd : p.conn.writeDeadline = p.conn.currentWriteDeadlineAbsUs := if_pos hpos
    rw [hmark]
    rw [hd] at h
    exact ⟨Std.Refl.refl p.env, rfl, ⟨rfl, rfl⟩, fun _ _ => ⟨hpos, h hpos⟩⟩
  · have hmark : p.conn.markWriteTimedOut = { p.conn with setupTimedOut := true } := if_neg hpos
    rw [hmark]
    exact ⟨Std.Refl.refl p.env, rfl, ⟨rfl, rfl⟩, id⟩

/-- A failed wait that counts as an expired deadline. -/
theorem waitReady_timedOut {events deadline : Nat} {pollFailed : Nat → ErrorDetail} {p p' : Port}
    (h : waitReady events deadline pollFailed p = some (.timedOut, p')) (hpos : 0 < deadline) :
    p'.env.Elapsed deadline := by
  obtain ⟨ready, p₁, hwait, h⟩ := Exec.bind_some.mp h
  obtain ⟨env₁, hrun, rfl⟩ := Exec.zoom_some.mp hwait
  cases ready with
  | true => exact absurd (Exec.pure_some.mp h).1 (by simp)
  | false =>
    obtain ⟨q, p₂, hg, h⟩ := Exec.bind_some.mp h
    obtain ⟨rfl, rfl⟩ := Exec.get_some.mp hg
    simp only at h
    split at h
    · obtain ⟨_, p₃, -, h⟩ := Exec.bind_some.mp h
      exact absurd (Exec.pure_some.mp h).1 (by simp)
    · next herrno =>
      obtain ⟨_, p₃, hnote, h⟩ := Exec.bind_some.mp h
      obtain ⟨-, rfl⟩ := Exec.pure_some.mp h
      have helapsed := Env.waitInTime_expired hrun (.inr (not_not.mp herrno)) hpos
      exact helapsed.grows (noteFailure_keeps _ _ _ _ hnote).env

/-- The wait of a write and the flag it raises. -/
theorem waitWrite_writes (events deadline : Nat) (pollFailed : Nat → ErrorDetail)
    {m : Exec Port Int} (hm : Exec.Within (Writes deadline) m) :
    Exec.Within (Writes deadline) (do
      match ← waitReady events deadline pollFailed with
      | .again => m
      | .timedOut =>
        setConn H2Connection.markWriteTimedOut
        return -1
      | .failed => return -1) := by
  intro p rv p' h hd
  obtain ⟨wait, p₁, hwait, h⟩ := Exec.bind_some.mp h
  have hkeeps := waitReady_keeps _ _ _ _ _ _ hwait
  have hd₁ := hkeeps.writeDeadline.trans hd
  refine trans_of Keeps hkeeps ?_
  cases wait with
  | again => exact hm _ _ _ h hd₁
  | timedOut =>
    obtain ⟨_, p₂, hset, h⟩ := Exec.bind_some.mp h
    obtain ⟨-, rfl⟩ := Exec.pure_some.mp h
    rw [Exec.modify_some.mp hset]
    refine markWriteTimedOut_keeps fun hpos => ?_
    rw [hd₁] at hpos ⊢
    exact waitReady_timedOut hwait hpos
  | failed =>
    obtain ⟨-, rfl⟩ := Exec.pure_some.mp h
    exact Std.Refl.refl p₁

/-- Bytes are put on the wire. -/
theorem putOnWire_keeps (data : Bytes) (written : Int) : Exec.Within Keeps (putOnWire data written) :=
  setConn_keeps (fun _ => rfl) (fun _ => ⟨rfl, rfl⟩) fun _ => rfl

/-- A write to TLS notes a timeout only when its deadline has passed. -/
theorem sslWriteLoop_writes (data : Bytes) (deadline fuel : Nat) :
    Exec.Within (Writes deadline) (sslWriteLoop data deadline fuel) := by
  induction fuel with
  | zero => exact .block
  | succ fuel ih =>
    refine .bind (writes_of_keeps _ (onEnv_keeps (Env.ask_grows _))) fun r => ?_
    refine .bind (writes_of_keeps _ (onEnv_keeps (Env.setErrno_grows _))) fun _ => .ite ?_ ?_
    · exact .bind (writes_of_keeps _ (putOnWire_keeps _ _)) fun _ => .pure _
    · refine .bind (writes_of_keeps _ (lastSslError_keeps _)) fun _ => ?_
      split
      · exact waitWrite_writes _ _ _ ih
      · refine .bind (writes_of_keeps _ (onEnv_keeps (Env.setErrno_grows _))) fun _ => ?_
        exact .bind (writes_of_keeps _ (noteFailure_keeps _)) fun _ => .pure _

/-- So does a write to the socket. -/
theorem sendLoop_writes (data : Bytes) (deadline fuel : Nat) :
    Exec.Within (Writes deadline) (sendLoop data deadline fuel) := by
  induction fuel with
  | zero => exact .block
  | succ fuel ih =>
    refine .bind (writes_of_keeps _ (onEnv_keeps (Env.ask_grows _))) fun r => .ite ?_ ?_
    · exact .bind (writes_of_keeps _ (putOnWire_keeps _ _)) fun _ => .pure _
    · refine .bind (writes_of_keeps _ (onEnv_keeps (Env.setErrno_grows _))) fun _ => .ite ?_ ?_
      · exact waitWrite_writes _ _ _ ih
      · exact .bind (writes_of_keeps _ (noteFailure_keeps _)) fun _ => .pure _

/-- A write that starts behind its deadline. -/
theorem expiredSend_writes (deadline : Nat) {p p' : Port} {remaining : Int} {rv : Int}
    (hrem : onEnv (Env.remainingTimeoutUsForDeadline deadline) p = some (remaining, p'))
    (hneg : remaining < 0) {p'' : Port} (h : (do
      onEnv (Env.setErrno Errno.etimedout)
      setConn H2Connection.markWriteTimedOut
      noteFailure .deadlineExceeded
      return -1 : Exec Port Int) p' = some (rv, p'')) : Writes deadline p' p'' := by
  intro hd
  obtain ⟨env₁, hrun, rfl⟩ := Exec.zoom_some.mp hrem
  obtain ⟨_, p₁, herrno, h⟩ := Exec.bind_some.mp h
  obtain ⟨env₂, hset, rfl⟩ := Exec.zoom_some.mp herrno
  obtain rfl := Env.setErrno_some.mp hset
  obtain ⟨_, p₂, hflag, h⟩ := Exec.bind_some.mp h
  obtain rfl := Exec.modify_some.mp hflag
  obtain ⟨_, p₃, hnote, h⟩ := Exec.bind_some.mp h
  obtain ⟨-, rfl⟩ := Exec.pure_some.mp h
  have hnow := (Env.remainingTimeoutUsForDeadline_neg hrun hneg).2
  have hmark : Keeps ⟨{ env₁ with errno := Errno.etimedout }, p.conn⟩
      ⟨{ env₁ with errno := Errno.etimedout }, p.conn.markWriteTimedOut⟩ :=
    markWriteTimedOut_keeps fun _ => .inl (hd.trans_le hnow)
  have herrno : Keeps ⟨env₁, p.conn⟩ ⟨{ env₁ with errno := Errno.etimedout }, p.conn⟩ :=
    ⟨⟨Nat.le_refl _, List.prefix_rfl⟩, rfl, ⟨rfl, rfl⟩,
      fun hh => hh.grows ⟨Nat.le_refl _, List.prefix_rfl⟩⟩
  exact trans_of Keeps (trans_of Keeps herrno hmark) (noteFailure_keeps _ _ _ _ hnote)

/-- So does a send, whichever way it goes. -/
theorem h2ConnectionSend_writes (data : Bytes) (deadline : Nat) :
    Exec.Within (Writes deadline) (h2ConnectionSend data deadline) := by
  intro p rv p' h
  obtain ⟨remaining, p₁, hrem, h⟩ := Exec.bind_some.mp h
  have hkeeps := writes_of_keeps deadline
    (onEnv_keeps (Env.remainingTimeoutUsForDeadline_grows deadline)) _ _ _ hrem
  refine trans_of (Writes deadline) hkeeps ?_
  split at h
  · exact expiredSend_writes deadline hrem ‹_› h
  · have hrest : Exec.Within (Writes deadline) (do
        let p ← get
        if p.conn.ssl then
          if data.length > intMax then
            onEnv (Env.setErrno Errno.emsgsize)
            noteFailure .sslWriteTooLong
            return -1
          sslWriteLoop data deadline (p.env.script.length + 1)
        else sendLoop data deadline (p.env.script.length + 1)) := by
      refine .bind .get fun _ => .ite (.ite ?_ (sslWriteLoop_writes _ _ _)) (sendLoop_writes _ _ _)
      refine .bind (writes_of_keeps _ (onEnv_keeps (Env.setErrno_grows _))) fun _ => ?_
      exact .bind (writes_of_keeps _ (noteFailure_keeps _)) fun _ => .pure _
    exact hrest _ _ _ h

/-- So does the loop that writes all bytes. -/
theorem writeAllLoop_writes (deadline fuel : Nat) (data : Bytes) :
    Exec.Within (Writes deadline) (writeAllLoop deadline fuel data) := by
  induction fuel generalizing data with
  | zero =>
    cases data with
    | nil => exact .pure _
    | cons b bs => exact .block
  | succ fuel ih =>
    cases data with
    | nil => exact .pure _
    | cons b bs =>
      exact .bind (h2ConnectionSend_writes _ _) fun _ => .ite (.pure _) (ih _)

/-- So does a flush of the write buffer. -/
theorem flushWriteBuffer_writes (deadline : Nat) :
    Exec.Within (Writes deadline) (flushWriteBuffer deadline) := by
  refine .bind .get fun _ => .ite (.pure _) ?_
  refine .bind (writeAllLoop_writes _ _ _) fun _ => .ite (.pure _) ?_
  refine .bind (writes_of_keeps _ ?_) fun _ => .pure _
  exact setConn_keeps (fun _ => rfl) (fun _ => ⟨rfl, rfl⟩) fun _ => rfl

/-- So does making room in it. -/
theorem makeRoom_writes (length deadline : Nat) :
    Exec.Within (Writes deadline) (makeRoom length deadline) :=
  .bind .get fun _ => .ite (flushWriteBuffer_writes deadline) (.pure _)

/-- So does a frame that is buffered or written. -/
theorem bufferOrWrite_writes (data : Bytes) (deadline : Nat) :
    Exec.Within (Writes deadline) (bufferOrWrite data deadline) := by
  refine .bind .get fun _ => .ite (writeAllLoop_writes _ _ _) (.ite ?_ ?_)
  · exact .bind (flushWriteBuffer_writes deadline) fun _ =>
      .ite (.pure _) (writeAllLoop_writes _ _ _)
  · refine .bind (makeRoom_writes _ _) fun _ => .ite (.pure _) ?_
    refine .bind (writes_of_keeps _ ?_) fun _ => .pure _
    exact setConn_keeps (fun _ => rfl) (fun _ => ⟨rfl, rfl⟩) fun _ => rfl

/-- A send callback works under the deadline of its connection. -/
theorem sendCallback_keeps (data : Bytes) : Exec.Within Keeps (sendCallback data) := by
  refine .bind (setConn_keeps (fun _ => rfl) (fun _ => ⟨rfl, rfl⟩) fun _ => rfl) fun _ => ?_
  intro p a p' h
  obtain ⟨q, p₁, hg, h⟩ := Exec.bind_some.mp h
  obtain ⟨rfl, rfl⟩ := Exec.get_some.mp hg
  exact bufferOrWrite_writes _ _ _ _ _ h rfl

/-! ## The error number of a failed read -/

/-- A failed wait leaves an error number that looks like an expired deadline only behind one. -/
theorem waitReady_expired {events deadline : Nat} {pollFailed : Nat → ErrorDetail} {wait : Wait}
    {p p' : Port} (h : waitReady events deadline pollFailed p = some (wait, p'))
    (hwait : wait ≠ .again)
    (herrno : p'.env.errno = Errno.eagain ∨ p'.env.errno = Errno.etimedout)
    (hpos : 0 < deadline) : p'.env.Elapsed deadline := by
  obtain ⟨ready, p₁, hready, h⟩ := Exec.bind_some.mp h
  obtain ⟨env₁, hrun, rfl⟩ := Exec.zoom_some.mp hready
  cases ready with
  | true => exact absurd (Exec.pure_some.mp h).1.symm hwait
  | false =>
    have hnote {detail : ErrorDetail} {w : Wait}
        (h : (noteFailure detail >>= fun _ => pure w : Exec Port Wait) ⟨env₁, p.conn⟩ =
          some (wait, p')) : p'.env.Elapsed deadline := by
      obtain ⟨_, p₂, hset, h⟩ := Exec.bind_some.mp h
      obtain ⟨-, rfl⟩ := Exec.pure_some.mp h
      obtain ⟨q, p₃, hg, hset⟩ := Exec.bind_some.mp hset
      obtain ⟨rfl, rfl⟩ := Exec.get_some.mp hg
      obtain rfl := Exec.modify_some.mp hset
      exact Env.waitInTime_expired hrun herrno hpos
    obtain ⟨q, p₂, hg, h⟩ := Exec.bind_some.mp h
    obtain ⟨rfl, rfl⟩ := Exec.get_some.mp hg
    simp only at h
    split at h
    · exact hnote h
    · exact hnote h

/-- The error number of a failure stays the one that was set. -/
theorem noteFailure_errno {detail : ErrorDetail} {rv : Int} {p p' : Port}
    (h : (noteFailure detail >>= fun _ => pure (-1) : Exec Port Int) p = some (rv, p')) :
    p'.env = p.env := by
  obtain ⟨_, p₁, hset, h⟩ := Exec.bind_some.mp h
  obtain ⟨-, rfl⟩ := Exec.pure_some.mp h
  obtain ⟨q, p₂, hg, hset⟩ := Exec.bind_some.mp hset
  obtain ⟨rfl, rfl⟩ := Exec.get_some.mp hg
  obtain rfl := Exec.modify_some.mp hset
  rfl

/-- A read from TLS that gives up under a deadline has reached it. -/
theorem sslReadLoop_expired {length deadline fuel : Nat} {rv : Int} {p p' : Port}
    (h : sslReadLoop length deadline fuel p = some (rv, p')) (hneg : rv < 0)
    (herrno : p'.env.errno = Errno.eagain ∨ p'.env.errno = Errno.etimedout)
    (hpos : 0 < deadline) : p'.env.Elapsed deadline := by
  induction fuel generalizing p with
  | zero => exact (Exec.block_some.mp h).elim
  | succ fuel ih =>
    obtain ⟨⟨nread, sslError, errno⟩, p₁, -, h⟩ := Exec.bind_some.mp h
    obtain ⟨_, p₂, -, h⟩ := Exec.bind_some.mp h
    split at h
    · obtain ⟨rfl, -⟩ := Exec.pure_some.mp h
      omega
    · obtain ⟨_, p₃, -, h⟩ := Exec.bind_some.mp h
      cases hevents : sslEvents sslError with
      | some events =>
        simp only [hevents] at h
        obtain ⟨wait, p₄, hwait, h⟩ := Exec.bind_some.mp h
        cases wait with
        | again => exact ih h
        | timedOut | failed =>
          obtain ⟨-, rfl⟩ := Exec.pure_some.mp h
          exact waitReady_expired hwait (by simp) herrno hpos
      | none =>
        simp only [hevents] at h
        obtain ⟨_, p₄, hset, h⟩ := Exec.bind_some.mp h
        obtain ⟨env₄, hrun', rfl⟩ := Exec.zoom_some.mp hset
        obtain rfl := Env.setErrno_some.mp hrun'
        rw [noteFailure_errno h] at herrno
        exact absurd herrno (by simp [Errno.econnreset, Errno.eagain, Errno.etimedout])

/-- So has a read from the socket. -/
theorem recvLoop_expired {length deadline fuel : Nat} {rv : Int} {p p' : Port}
    (h : recvLoop length deadline fuel p = some (rv, p')) (hneg : rv < 0)
    (herrno : p'.env.errno = Errno.eagain ∨ p'.env.errno = Errno.etimedout)
    (hpos : 0 < deadline) : p'.env.Elapsed deadline := by
  induction fuel generalizing p with
  | zero => exact (Exec.block_some.mp h).elim
  | succ fuel ih =>
    obtain ⟨⟨nread, errno⟩, p₁, hask, h⟩ := Exec.bind_some.mp h
    obtain ⟨env₁, hrun, rfl⟩ := Exec.zoom_some.mp hask
    simp only at h
    split at h
    · obtain ⟨rfl, -⟩ := Exec.pure_some.mp h
      omega
    · next hnn =>
      obtain ⟨_, p₂, hset, h⟩ := Exec.bind_some.mp h
      obtain ⟨env₂, hrun', rfl⟩ := Exec.zoom_some.mp hset
      obtain rfl := Env.setErrno_some.mp hrun'
      split at h
      · obtain ⟨wait, p₄, hwait, h⟩ := Exec.bind_some.mp h
        cases wait with
        | again => exact ih h
        | timedOut | failed =>
          obtain ⟨-, rfl⟩ := Exec.pure_some.mp h
          exact waitReady_expired hwait (by simp) herrno hpos
      · next hagain =>
        obtain ⟨answer, rest, -, hsel, rfl⟩ := Env.ask_some hrun
        have henv := noteFailure_errno h
        rw [henv] at herrno ⊢
        have het : errno = Errno.etimedout := herrno.resolve_left hagain
        cases answer with
        | recv rv₀ errno₀ =>
          simp only [Option.ite_none_right_eq_some, Option.some.injEq, Prod.mk.injEq] at hsel
          obtain ⟨-, rfl, rfl⟩ := hsel
          refine .inr ⟨.recv rv₀ errno₀, List.mem_append_right _ (List.mem_singleton_self _), ?_⟩
          have hlt : rv₀ < 0 := by omega
          simp [Answer.spurious, hlt, het]
        | _ => cases hsel

/-- A read that failed with an error number of an expired deadline has reached it. -/
theorem connectionRecv_expired {length deadline : Nat} {rv : Int} {p p' : Port}
    (h : connectionRecv length deadline p = some (rv, p')) (hneg : rv < 0)
    (herrno : p'.env.errno = Errno.eagain ∨ p'.env.errno = Errno.etimedout)
    (hpos : 0 < deadline) : p'.env.Elapsed deadline := by
  obtain ⟨remaining, p₁, hrem, h⟩ := Exec.bind_some.mp h
  obtain ⟨env₁, hrun, rfl⟩ := Exec.zoom_some.mp hrem
  split at h
  · obtain ⟨_, p₂, hset, h⟩ := Exec.bind_some.mp h
    obtain ⟨env₂, hrun', rfl⟩ := Exec.zoom_some.mp hset
    obtain rfl := Env.setErrno_some.mp hrun'
    rw [noteFailure_errno h]
    exact .inl (Env.remainingTimeoutUsForDeadline_neg hrun ‹_›).2
  · obtain ⟨q, p₂, hg, h⟩ := Exec.bind_some.mp h
    obtain ⟨rfl, rfl⟩ := Exec.get_some.mp hg
    split at h
    · exact sslReadLoop_expired h hneg herrno hpos
    · exact recvLoop_expired h hneg herrno hpos

end Port

end GrpcLite
