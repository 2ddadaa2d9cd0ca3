import GrpcLite.Refinement.Session
import GrpcLite.Transport.PreflightDrain

/-!
# A bounded and decisive drain

Whatever the socket, TLS and the library answer, the drain makes a bounded number of
reads within its budget of bytes and gives what it read to the library before it
reads on. It ends with a connection that can be reused behind the read boundary, or
with one that is dead or draining.
-/

namespace GrpcLite

namespace DrainOp

/-- The operation is a read. -/
def isRead : DrainOp → Bool
  | .feed _ => false
  | _ => true

/-- Bytes read. -/
def readLength : DrainOp → Nat
  | .read _ got => got.length
  | _ => 0

/-- One round of the loop: a read of at least one byte and not more than asked for, and the same
bytes given to the library. -/
inductive Round : List DrainOp → Prop
  | mk (length : Nat) (got : Bytes) (hpos : got ≠ []) (hle : got.length ≤ length) :
    Round [.read length got, .feed got]

/-- The reads behind the last round: none, or one that returned nothing. -/
inductive Last : List DrainOp → Prop
  | none : Last []
  | wouldBlock (length : Nat) : Last [.wouldBlock length]
  | readFailed (length : Nat) : Last [.readFailed length]

end DrainOp

namespace DrainState

open DrainOp

variable {σ : Type} (env : Surroundings σ)

/-- A connection that cannot be used is dead or draining. -/
theorem dead_or_draining {conn : H2Connection} (h : conn.usable = false) :
    conn.dead = true ∨ conn.draining = true := by
  unfold H2Connection.usable at h
  cases hdead : conn.dead with
  | true => exact .inl rfl
  | false =>
    rw [hdead, Bool.not_false, Bool.true_and, Bool.not_eq_false'] at h
    exact .inr h

/-- What one read does. -/
inductive ReadEffect (length : Nat) (s : DrainState σ) : DrainRead × DrainState σ → Prop
  /-- Bytes are in the scratch. -/
  | bytes (got : Bytes) (s' : DrainState σ) (hpos : got ≠ []) (hle : got.length ≤ length)
      (hscratch : s'.scratch.take got.length = got)
      (htrace : s'.trace = s.trace ++ [.read length got]) :
    ReadEffect length s (.bytes got.length, s')
  /-- The read would block. -/
  | boundary (s' : DrainState σ) (htrace : s'.trace = s.trace ++ [.wouldBlock length]) :
    ReadEffect length s (.boundary, s')
  /-- The connection is dead. -/
  | failed (s' : DrainState σ) (hdead : s'.conn.dead = true)
      (htrace : s'.trace = s.trace ++ [.readFailed length]) :
    ReadEffect length s (.failed, s')

/-- Bytes that are stored in the scratch buffer. -/
theorem store_effect (s : DrainState σ) {length : Nat} (hpos : 0 < length) (first : UInt8)
    (rest : Bytes) (outside : σ) :
    ReadEffect length s (s.store length (first :: rest) outside) := by
  refine .bytes ((first :: rest).take length) _ ?_ ?_ ?_ rfl
  · obtain ⟨n, rfl⟩ := Nat.exists_eq_succ_of_ne_zero (Nat.ne_of_gt hpos)
    rw [List.take_succ_cons]
    exact List.cons_ne_nil _ _
  · rw [List.length_take]
    exact Nat.min_le_left _ _
  · exact List.take_left

/-- A read of the drain, whichever way it goes. -/
theorem drainRead_effect (s : DrainState σ) {length : Nat} (hpos : 0 < length) :
    ReadEffect length s (drainRead env length s) := by
  unfold drainRead
  split
  · unfold drainSslRead
    split
    · exact store_effect s hpos _ _ _
    · dsimp only
      split
      · exact .boundary _ rfl
      split
      · exact .failed _ rfl rfl
      · exact .failed _ rfl rfl
  · unfold drainRecv
    split
    · exact store_effect s hpos _ _ _
    · exact .failed _ rfl rfl
    · split
      · exact .boundary _ rfl
      · exact .failed _ rfl rfl

/-- What is fed is the front of the scratch buffer. -/
theorem feed_trace (nread : Nat) (s : DrainState σ) :
    (feed env nread s).2.trace = s.trace ++ [.feed (s.scratch.take nread)] := rfl

/-- A flush of the drain reads nothing, and its failure kills the connection. -/
theorem drainFlush_effect (deadlineAbsUs : Nat) (s : DrainState σ) :
    (drainFlush env deadlineAbsUs s).2.trace = s.trace ∧
      ((drainFlush env deadlineAbsUs s).1 = false →
        (drainFlush env deadlineAbsUs s).2.conn.dead = true) := by
  unfold drainFlush
  dsimp only
  split
  · split
    · exact ⟨rfl, fun _ => rfl⟩
    · exact ⟨rfl, fun h => absurd h Bool.true_eq_false_eq_False⟩
  · exact ⟨rfl, fun h => absurd h Bool.true_eq_false_eq_False⟩

/-- What is known of a drain: rounds and a last read behind what was done before, within the
iterations and the bytes left, and a decided connection. -/
structure Decided (before : List DrainOp) (iterations budget : Nat) (r : Bool × DrainState σ) :
    Prop where
  /-- Every round is complete before the next read. -/
  rounds : ∃ (rounds : List (List DrainOp)) (last : List DrainOp),
    (∀ round ∈ rounds, Round round) ∧ Last last ∧
      r.2.trace = before ++ (rounds.flatten ++ last) ∧
      rounds.length + last.length ≤ iterations ∧
      (rounds.flatten.map DrainOp.readLength).sum ≤ budget ∧
      (r.1 = true → ∃ length, last = [.wouldBlock length])
  /-- A connection that is reused is usable. -/
  reused : r.1 = true → r.2.conn.usable = true
  /-- Any other is dead or draining. -/
  given : r.1 = false → r.2.conn.dead = true ∨ r.2.conn.draining = true

/-- A drain that ends behind its last round. -/
theorem Decided.stop {before : List DrainOp} (iterations budget : Nat) {s : DrainState σ}
    (htrace : s.trace = before) (hgiven : s.conn.dead = true ∨ s.conn.draining = true) :
    Decided before iterations budget (false, s) := by
  refine ⟨⟨[], [], ?_, .none, ?_, Nat.zero_le _, Nat.zero_le _, ?_⟩, ?_, fun _ => hgiven⟩
  · intro round hround
    exact absurd hround List.not_mem_nil
  · rw [htrace]
    exact (List.append_nil before).symm
  · intro h
    cases h
  · intro h
    cases h

/-- A drain that ends with a read that returned nothing. -/
theorem Decided.lastRead {before last : List DrainOp} (hlast : Last last) {iterations : Nat}
    (budget : Nat) {ok : Bool} {s : DrainState σ} (htrace : s.trace = before ++ last)
    (hlength : last.length ≤ iterations)
    (hok : ok = true → (∃ length, last = [.wouldBlock length]) ∧ s.conn.usable = true)
    (hgiven : ok = false → s.conn.dead = true ∨ s.conn.draining = true) :
    Decided before iterations budget (ok, s) := by
  refine ⟨⟨[], last, ?_, hlast, htrace, ?_, Nat.zero_le _, fun h => (hok h).1⟩,
    fun h => (hok h).2, hgiven⟩
  · intro round hround
    exact absurd hround List.not_mem_nil
  · rw [List.length_nil, Nat.zero_add]
    exact hlength

/-- A round in front of a drain. -/
theorem Decided.round {before : List DrainOp} {length : Nat} {got : Bytes} (hpos : got ≠ [])
    (hle : got.length ≤ length) {iterations budget : Nat} {r : Bool × DrainState σ}
    (h : Decided (before ++ [.read length got, .feed got]) iterations (budget - got.length) r)
    (hbudget : got.length ≤ budget) : Decided before (iterations + 1) budget r := by
  obtain ⟨⟨rounds, last, hrounds, hlast, htrace, hnumber, hbytes, hok⟩, hreused, hgiven⟩ := h
  refine ⟨⟨[.read length got, .feed got] :: rounds, last, ?_, hlast, ?_, ?_, ?_, hok⟩, hreused,
    hgiven⟩
  · intro round hround
    rcases List.mem_cons.mp hround with rfl | hround
    · exact .mk length got hpos hle
    · exact hrounds round hround
  · rw [htrace, List.flatten_cons, List.append_assoc, List.append_assoc]
  · rw [List.length_cons]
    omega
  · rw [List.flatten_cons, List.map_append, List.sum_append]
    simp only [List.map_cons, List.map_nil, DrainOp.readLength, List.sum_cons, List.sum_nil]
    omega

/-- The loop by the iterations left: every turn reads within the remaining budget. -/
theorem drainLoop_decided (deadlineAbsUs maxBytes iterations totalRead : Nat)
    (s : DrainState σ) :
    Decided s.trace iterations (maxBytes - totalRead)
      (drainLoop env deadlineAbsUs maxBytes iterations totalRead s) := by
  induction iterations generalizing totalRead s with
  | zero => exact .stop _ _ rfl (.inr rfl)
  | succ iterations ih =>
    rw [drainLoop]
    split
    · exact .stop _ _ rfl (.inr rfl)
    · next hroom =>
      have hleft : 0 < maxBytes - totalRead := by omega
      have hlength : 0 < min Proc.recvScratchSize (maxBytes - totalRead) :=
        Nat.lt_min.mpr ⟨by decide, hleft⟩
      have hread := drainRead_effect env s hlength
      generalize drainRead env (min Proc.recvScratchSize (maxBytes - totalRead)) s = r at hread ⊢
      cases hread with
      | boundary s' htrace =>
        refine .lastRead (.wouldBlock _) _ htrace (by simp) (fun hok => ⟨⟨_, rfl⟩, hok⟩) ?_
        exact dead_or_draining
      | failed s' hdead htrace =>
        refine .lastRead (.readFailed _) _ htrace (by simp) (fun hok => ?_) fun _ => .inl hdead
        cases hok
      | bytes got s' hpos hle hscratch htrace =>
        have hbudget : got.length ≤ maxBytes - totalRead := hle.trans (Nat.min_le_right _ _)
        refine .round hpos hle ?_ hbudget
        have hfed : (feed env got.length s').2.trace =
            s.trace ++ [.read (min Proc.recvScratchSize (maxBytes - totalRead)) got, .feed got] := by
          rw [feed_trace, hscratch, htrace, List.append_assoc]
          rfl
        dsimp only
        split
        · exact .stop _ _ hfed (.inl rfl)
        split
        · next husable =>
          rw [Bool.not_eq_true'] at husable
          exact .stop _ _ hfed (dead_or_draining husable)
        · obtain ⟨hflushed, hfailed⟩ := drainFlush_effect env deadlineAbsUs
            (feed env got.length s').2
          generalize drainFlush env deadlineAbsUs (feed env got.length s').2 = r at hflushed hfailed ⊢
          obtain ⟨ok, s''⟩ := r
          cases ok with
          | false => exact .stop _ _ (hflushed.trans hfed) (.inl (hfailed rfl))
          | true =>
            have hrest := ih (totalRead + got.length) s''
            rw [hflushed.trans hfed, ← Nat.sub_sub] at hrest
            exact hrest

/-- The reads and the bytes of complete rounds. -/
theorem rounds_reads {rounds : List (List DrainOp)} (h : ∀ round ∈ rounds, Round round) :
    (rounds.flatten.filter DrainOp.isRead).length = rounds.length := by
  induction rounds with
  | nil => rfl
  | cons round rounds ih =>
    obtain ⟨length, got, -, -⟩ := h round List.mem_cons_self
    rw [List.flatten_cons, List.filter_append, List.length_append, List.length_cons,
      ih fun other hmem => h other (List.mem_cons_of_mem _ hmem)]
    exact Nat.add_comm _ _

/-- The end of a drain is one read without bytes at most. -/
theorem last_reads {last : List DrainOp} (h : Last last) :
    (last.filter DrainOp.isRead).length = last.length ∧ (last.map DrainOp.readLength).sum = 0 := by
  cases h with
  | none => exact ⟨rfl, rfl⟩
  | wouldBlock length => exact ⟨rfl, rfl⟩
  | readFailed length => exact ⟨rfl, rfl⟩

/-- A drain with its reads, the bytes it read and what it decided. -/
structure Decisive (maxReads maxBytes : Nat) (r : Bool × DrainState σ) : Prop where
  /-- The reads are bounded. -/
  reads : (r.2.trace.filter DrainOp.isRead).length ≤ maxReads
  /-- The bytes are bounded. -/
  bytes : (r.2.trace.map DrainOp.readLength).sum ≤ maxBytes
  /-- What a read returned is given to the library before the next read. -/
  fed : ∃ (rounds : List (List DrainOp)) (last : List DrainOp),
    (∀ round ∈ rounds, Round round) ∧ Last last ∧ r.2.trace = rounds.flatten ++ last
  /-- A connection is reused only behind the read boundary and if it is usable. -/
  reused : r.1 = true → r.2.conn.usable = true ∧
    ∃ (ops : List DrainOp) (length : Nat), r.2.trace = ops ++ [.wouldBlock length]
  /-- Any other connection is dead or draining. -/
  given : r.1 = false → r.2.conn.dead = true ∨ r.2.conn.draining = true

/-- Every drain that ends has decided. -/
theorem Decided.decisive {iterations budget : Nat} {r : Bool × DrainState σ}
    (h : Decided [] iterations budget r) : Decisive iterations budget r := by
  obtain ⟨⟨rounds, last, hrounds, hlast, htrace, hnumber, hbytes, hok⟩, hreused, hgiven⟩ := h
  obtain ⟨hlastReads, hlastBytes⟩ := last_reads hlast
  rw [List.nil_append] at htrace
  refine ⟨?_, ?_, ⟨rounds, last, hrounds, hlast, htrace⟩, fun h => ⟨hreused h, ?_⟩, hgiven⟩
  · rw [htrace, List.filter_append, List.length_append, rounds_reads hrounds, hlastReads]
    exact hnumber
  · rw [htrace, List.map_append, List.sum_append, hlastBytes]
    exact hbytes
  · obtain ⟨length, rfl⟩ := hok h
    exact ⟨rounds.flatten, length, htrace⟩

/-- Whatever the socket, TLS and the library answer and do to the connection: the drain ends, with
at most 64 reads, within its budget of bytes, with every byte read given to the library before the
next read, and with a connection that is usable behind the read boundary or dead or draining. -/
theorem drainPendingConnectionDataForReuse_decisive (config : Config) (deadlineAbsUs : Nat)
    (conn : H2Connection) (outside : σ) (scratch : Bytes) :
    Decisive Proc.preflightDrainMaxIterations (max 4096 config.preflightDrainMaxBytes.toNat)
      (drainPendingConnectionDataForReuse env config deadlineAbsUs
        { conn := conn, outside := outside, scratch := scratch }) := by
  have hmax : config.effectivePreflightDrainMaxBytes =
      max 4096 config.preflightDrainMaxBytes.toNat := by
    unfold Config.effectivePreflightDrainMaxBytes
    split <;> omega
  refine Decided.decisive ?_
  unfold drainPendingConnectionDataForReuse
  split
  · next husable =>
    rw [Bool.not_eq_true'] at husable
    exact .stop _ _ rfl (dead_or_draining husable)
  · rw [hmax]
    have hloop := drainLoop_decided env deadlineAbsUs (max 4096 config.preflightDrainMaxBytes.toNat)
      Proc.preflightDrainMaxIterations 0 { conn := conn, outside := outside, scratch := scratch }
    rw [Nat.sub_zero] at hloop
    exact hloop

end DrainState

/-! ## The drain of the transport -/

namespace Proc

/-- The answer of a read that returned a number of bytes, whose contents the transport state does
not keep. -/
def recvAnswer (nread : Int) (errno : Nat) : RecvAnswer :=
  if nread > 0 then .data 0 (List.replicate (nread.toNat - 1) 0)
  else if nread = 0 then .ended
  else .failed errno

/-- `recv` on a connection of the transport state. -/
def askRecv (k : ConnId) (length : Nat) : Proc RecvAnswer := do
  log k .read
  let (nread, errno) ← onEnv <| Env.ask fun
    | .recv rv errno => if rv ≤ length then some (rv, errno) else none
    | _ => none
  Exec.when (nread < 0) (onEnv (Env.setErrno errno))
  return recvAnswer nread errno

/-- `SSL_read` on a connection of the transport state. -/
def askSslRead (k : ConnId) (length : Nat) : Proc SslReadAnswer := do
  log k .read
  let (nread, sslError, errno) ← onEnv <| Env.ask fun
    | .sslRead rv sslError errno => if rv ≤ length then some (rv, sslError, errno) else none
    | _ => none
  onEnv (Env.setErrno errno)
  return if nread > 0 then .data 0 (List.replicate (nread.toNat - 1) 0) else .failed sslError

/-- A procedure on the transport state with a given connection; one that blocks answers with a
default. -/
def answer {α : Type} (k : ConnId) (m : Proc α) (default : α) (conn : H2Connection) (w : World) :
    α × World :=
  (m (w.setConn k fun _ => conn)).getD (default, w)

/-- What surrounds a connection of the transport state. -/
def surroundings (k : ConnId) : Surroundings World where
  recv length conn w := answer k (askRecv k length) .ended conn w
  sslRead length conn w := answer k (askSslRead k length) (.failed 0) conn w
  memRecv _ conn w :=
    let r := answer k (sessionMemRecv k) 0 conn w
    (r.1, r.2.conns k, r.2)
  wantWrite conn w :=
    let r := answer k (sessionWantWrite k) false conn w
    (r.1, r.2.conns k, r.2)
  sendPending deadlineAbsUs conn w :=
    let r := answer k (sendPendingH2FramesWithDeadline k none deadlineAbsUs) 0 conn w
    (r.1, r.2.conns k, r.2)

/-- The drain holds the connection of the transport state. -/
def Synced (k : ConnId) (w : World) (s : DrainState World) : Prop :=
  w = s.outside.setConn k fun _ => s.conn

variable {k : ConnId} {w w' : World} {s : DrainState World}

/-- The connection of both sides. -/
theorem Synced.conn (h : Synced k w s) : w.conns k = s.conn := by
  rw [h]
  exact World.setConn_conns_self ..

/-- An answer of the transport, asked from the drain. -/
theorem Synced.answer {α : Type} (h : Synced k w s) {m : Proc α} {a : α}
    (hrun : m w = some (a, w')) (default : α) :
    answer k m default s.conn s.outside = (a, w') := by
  rw [Proc.answer, ← h, hrun, Option.getD_some]

/-- The transport state of a changed connection. -/
theorem Synced.set (h : Synced k w s) (f : H2Connection → H2Connection) :
    Synced k (w.setConn k f) { s with conn := f s.conn } := by
  rw [Synced, h, World.setConn_setConn]
  rfl

/-- Both sides with one connection. -/
theorem Synced.of_conn (hout : s.outside = w) (h : w.conns k = s.conn) : Synced k w s := by
  rw [Synced, hout, World.setConn_eq_self h.symm]

/-- What the environment does leaves the connections alone. -/
theorem onEnv_conns {α : Type} {m : Exec Env α} {a : α} (h : onEnv m w = some (a, w')) :
    w'.conns = w.conns := by
  obtain ⟨env, -, rfl⟩ := Exec.zoom_some.mp h
  rfl

/-- The bytes that stand for a positive result fit into what was asked for. -/
theorem zeros_length {nread : Int} (hpos : nread > 0) {length : Nat} (hle : nread ≤ length) :
    (((0 : UInt8) :: List.replicate (nread.toNat - 1) 0).take length).length = nread.toNat := by
  rw [List.length_take, List.length_cons, List.length_replicate]
  omega

/-- The outcome of a read in both models. -/
inductive SameRead : Option Int → DrainRead → Prop
  | bytes (nread : Int) (hpos : 0 < nread) : SameRead (some nread) (.bytes nread.toNat)
  | boundary : SameRead none .boundary
  | failed (nread : Int) (hneg : nread < 0) : SameRead (some nread) .failed

/-- The answer to a read from TLS. -/
theorem askSslRead_some {length : Nat} {nread : Int} {sslError errno : Nat} {w₁ w₂ : World}
    (hask : onEnv (Env.ask fun
      | .sslRead rv sslError errno => if rv ≤ length then some (rv, sslError, errno) else none
      | _ => none) (w.log k .read) = some ((nread, sslError, errno), w₁))
    (herrno : onEnv (Env.setErrno errno) w₁ = some ((), w₂)) :
    askSslRead k length w = some (if nread > 0 then
      .data 0 (List.replicate (nread.toNat - 1) 0) else .failed sslError, w₂) :=
  Exec.bind_some.mpr ⟨(), _, rfl, Exec.bind_some.mpr ⟨_, _, hask,
    Exec.bind_some.mpr ⟨(), _, herrno, rfl⟩⟩⟩

/-- A read never returns more than it was asked for. -/
theorem ask_guarded {α : Type} {select : Answer → Option α} {P : α → Prop} {a : α}
    (h : onEnv (Env.ask select) w = some (a, w'))
    (hselect : ∀ answer a, select answer = some a → P a) : P a := by
  obtain ⟨env, hask, -⟩ := Exec.zoom_some.mp h
  obtain ⟨answer, rest, -, hanswer, -⟩ := Env.ask_some hask
  exact hselect answer a hanswer

/-- A positive result. -/
theorem store_synced {w₁ : World} (hconn : w₁.conns k = s.conn) {nread : Int} (hpos : nread > 0)
    {length : Nat} (hle : nread ≤ length) :
    ∃ read s', s.store length (0 :: List.replicate (nread.toNat - 1) 0) w₁ = (read, s') ∧
      SameRead (some nread) read ∧ Synced k w₁ s' := by
  refine ⟨_, _, rfl, ?_, Synced.of_conn rfl hconn⟩
  rw [zeros_length hpos hle]
  exact .bytes nread hpos

/-- The TLS branch. -/
theorem preflightSslRead_synced (h : Synced k w s) (hssl : s.conn.ssl = true) {length : Nat}
    {r : Option Int}
    (hrun : preflightRead k length true .tlsPreflightReadFailed w = some (r, w')) :
    ∃ read s', DrainState.drainRead (surroundings k) length s = (read, s') ∧ SameRead r read ∧
      Synced k w' s' := by
  obtain ⟨_, w₁, hlog, hrun⟩ := Exec.bind_some.mp hrun
  obtain rfl := Exec.modify_some.mp hlog
  obtain ⟨conn, w₁, hconn, hrun⟩ := Exec.bind_some.mp hrun
  rw [Proc.conn, Exec.get_bind_run] at hconn
  obtain ⟨rfl, rfl⟩ := Exec.pure_some.mp hconn
  have hlogged : ((w.log k .read).conns k).ssl = true := (congrArg (·.ssl) h.conn).trans hssl
  rw [if_pos hlogged] at hrun
  obtain ⟨⟨nread, sslError, errno⟩, w₂, hask, hrun⟩ := Exec.bind_some.mp hrun
  obtain ⟨_, w₃, herrno, hrun⟩ := Exec.bind_some.mp hrun
  have hle : nread ≤ length := by
    refine ask_guarded (P := fun a => a.1 ≤ (length : Int)) hask fun answer a hselect => ?_
    split at hselect
    · split at hselect
      · next hle => exact Option.some.inj hselect ▸ hle
      · cases hselect
    · cases hselect
  have hconns : w₃.conns k = s.conn := by
    rw [onEnv_conns herrno, onEnv_conns hask]
    exact h.conn
  have hanswer := h.answer (askSslRead_some hask herrno) (.failed 0)
  rw [DrainState.drainRead, if_pos hssl, DrainState.drainSslRead]
  simp only [surroundings, hanswer]
  dsimp only at hrun
  by_cases hpos : nread > 0
  · rw [if_pos hpos] at hrun
    obtain ⟨rfl, rfl⟩ := Exec.pure_some.mp hrun
    simp only [if_pos hpos]
    exact store_synced hconns hpos hle
  · rw [if_neg hpos] at hrun
    simp only [if_neg hpos]
    obtain ⟨_, w₄, hwhen, hrun⟩ := Exec.bind_some.mp hrun
    obtain ⟨-, hset⟩ | ⟨hnot, -⟩ := Exec.when_some.mp hwhen
    · obtain rfl := Exec.modify_some.mp hset
      have hsynced := (Synced.of_conn (s := { s with outside := w₃ }) rfl hconns).set
        fun conn => { conn with lastSslError := sslError }
      split at hrun
      · next hwants =>
        obtain ⟨rfl, rfl⟩ := Exec.pure_some.mp hrun
        rw [if_pos hwants]
        exact ⟨_, _, rfl, .boundary, hsynced⟩
      · next hwants =>
        rw [if_neg hwants]
        obtain ⟨_, w₅, hfail, hrun⟩ := Exec.bind_some.mp hrun
        obtain ⟨rfl, rfl⟩ := Exec.pure_some.mp hrun
        unfold noteTlsFailure at hfail
        split at hfail
        · next hzero =>
          obtain ⟨_, w₆, hdetail, hdie⟩ := Exec.bind_some.mp hfail
          obtain rfl := Exec.modify_some.mp hdetail
          obtain rfl := Exec.modify_some.mp hdie
          rw [if_pos hzero]
          exact ⟨_, _, rfl, .failed (-1) (by decide), (hsynced.set _).set (·.markDead 0)⟩
        · next hzero =>
          obtain ⟨_, w₆, hdetail, hdie⟩ := Exec.bind_some.mp hfail
          obtain rfl := Exec.modify_some.mp hdetail
          obtain rfl := Exec.modify_some.mp hdie
          rw [if_neg hzero]
          exact ⟨_, _, rfl, .failed (-1) (by decide),
            (hsynced.set _).set (·.markDead Errno.econnreset)⟩
    · exact absurd (.inl rfl) hnot

/-- The answer to a read from the socket. -/
theorem askRecv_some {length : Nat} {nread : Int} {errno : Nat} {w₁ w₂ : World}
    (hask : onEnv (Env.ask fun
      | .recv rv errno => if rv ≤ length then some (rv, errno) else none
      | _ => none) (w.log k .read) = some ((nread, errno), w₁))
    (herrno : Exec.when (nread < 0) (onEnv (Env.setErrno errno)) w₁ = some ((), w₂)) :
    askRecv k length w = some (recvAnswer nread errno, w₂) :=
  Exec.bind_some.mpr ⟨(), _, rfl, Exec.bind_some.mpr ⟨_, _, hask,
    Exec.bind_some.mpr ⟨(), _, herrno, rfl⟩⟩⟩

/-- The plaintext branch. -/
theorem preflightRecv_synced (h : Synced k w s) (hssl : ¬s.conn.ssl = true) {length : Nat}
    {r : Option Int}
    (hrun : preflightRead k length true .tlsPreflightReadFailed w = some (r, w')) :
    ∃ read s', DrainState.drainRead (surroundings k) length s = (read, s') ∧ SameRead r read ∧
      Synced k w' s' := by
  obtain ⟨_, w₁, hlog, hrun⟩ := Exec.bind_some.mp hrun
  obtain rfl := Exec.modify_some.mp hlog
  obtain ⟨conn, w₁, hconn, hrun⟩ := Exec.bind_some.mp hrun
  rw [Proc.conn, Exec.get_bind_run] at hconn
  obtain ⟨rfl, rfl⟩ := Exec.pure_some.mp hconn
  have hlogged : ¬((w.log k .read).conns k).ssl = true := fun hs =>
    hssl ((congrArg (·.ssl) h.conn).symm.trans hs)
  rw [if_neg hlogged] at hrun
  obtain ⟨⟨nread, errno⟩, w₂, hask, hrun⟩ := Exec.bind_some.mp hrun
  have hle : nread ≤ length := by
    refine ask_guarded (P := fun a => a.1 ≤ (length : Int)) hask fun answer a hselect => ?_
    split at hselect
    · split at hselect
      · next hle => exact Option.some.inj hselect ▸ hle
      · cases hselect
    · cases hselect
  have hconns : w₂.conns k = s.conn := by
    rw [onEnv_conns hask]
    exact h.conn
  rw [DrainState.drainRead, if_neg hssl, DrainState.drainRecv]
  dsimp only at hrun
  by_cases hneg : nread < 0
  · -- A failure sets `errno` first.
    rw [if_neg (by omega), if_neg (by omega)] at hrun
    obtain ⟨_, w₃, herrno, hrun⟩ := Exec.bind_some.mp hrun
    have hanswer := h.answer
      (askRecv_some hask (Exec.when_some.mpr (.inl ⟨hneg, herrno⟩))) .ended
    have hconns₃ : w₃.conns k = s.conn := by
      rw [onEnv_conns herrno]
      exact hconns
    have hfailed : recvAnswer nread errno = .failed errno := by
      rw [recvAnswer, if_neg (by omega), if_neg (by omega)]
    simp only [surroundings, hanswer, hfailed]
    split at hrun
    · next heagain =>
      obtain ⟨rfl, rfl⟩ := Exec.pure_some.mp hrun
      rw [if_pos heagain]
      exact ⟨_, _, rfl, .boundary, Synced.of_conn rfl hconns₃⟩
    · next heagain =>
      obtain ⟨_, w₄, hdie, hrun⟩ := Exec.bind_some.mp hrun
      obtain ⟨rfl, rfl⟩ := Exec.pure_some.mp hrun
      obtain rfl := Exec.modify_some.mp hdie
      rw [if_neg heagain]
      exact ⟨_, _, rfl, .failed (-1) (by decide),
        (Synced.of_conn (s := { s with outside := w₃ }) rfl hconns₃).set (·.markDead errno)⟩
  · have hanswer := h.answer (askRecv_some hask (Exec.when_some.mpr (.inr ⟨hneg, rfl⟩))) .ended
    by_cases hpos : nread > 0
    · rw [if_pos hpos] at hrun
      obtain ⟨rfl, rfl⟩ := Exec.pure_some.mp hrun
      simp only [surroundings, hanswer, recvAnswer, if_pos hpos]
      exact store_synced hconns hpos hle
    · have hzero : nread = 0 := by omega
      rw [if_neg hpos, if_pos hzero] at hrun
      obtain ⟨_, w₃, hdetail, hrun⟩ := Exec.bind_some.mp hrun
      obtain ⟨_, w₄, hdie, hrun⟩ := Exec.bind_some.mp hrun
      obtain ⟨rfl, rfl⟩ := Exec.pure_some.mp hrun
      obtain rfl := Exec.modify_some.mp hdetail
      obtain rfl := Exec.modify_some.mp hdie
      simp only [surroundings, hanswer, recvAnswer, if_neg hpos, if_pos hzero]
      exact ⟨_, _, rfl, .failed (-1) (by decide),
        ((Synced.of_conn (s := { s with outside := w₂ }) rfl hconns).set _).set (·.markDead 0)⟩

/-- The read of the transport is that of the drain. -/
theorem preflightRead_synced (h : Synced k w s) {length : Nat} {r : Option Int}
    (hrun : preflightRead k length true .tlsPreflightReadFailed w = some (r, w')) :
    ∃ read s', DrainState.drainRead (surroundings k) length s = (read, s') ∧ SameRead r read ∧
      Synced k w' s' := by
  by_cases hssl : s.conn.ssl = true
  · exact preflightSslRead_synced h hssl hrun
  · exact preflightRecv_synced h hssl hrun

/-- Feeding the library is feeding it in the drain. -/
theorem sessionMemRecv_synced (h : Synced k w s) {rv : Int} (nread : Nat)
    (hrun : sessionMemRecv k w = some (rv, w')) :
    ∃ s', DrainState.feed (surroundings k) nread s = (rv, s') ∧ Synced k w' s' := by
  simp only [DrainState.feed, surroundings, h.answer hrun 0]
  exact ⟨_, rfl, Synced.of_conn rfl rfl⟩

/-- The flush of the transport is that of the drain. -/
theorem drainFlush_synced (h : Synced k w s) {deadlineAbsUs : Nat} {ok : Bool}
    (hrun : drainFlush k deadlineAbsUs w = some (ok, w')) :
    ∃ s', DrainState.drainFlush (surroundings k) deadlineAbsUs s = (ok, s') ∧
      Synced k w' s' := by
  obtain ⟨wants, w₁, hwants, hrun⟩ := Exec.bind_some.mp hrun
  have hfirst := h.answer hwants false
  have hsynced₁ : Synced k w₁ { s with conn := w₁.conns k, outside := w₁ } :=
    Synced.of_conn rfl rfl
  simp only [DrainState.drainFlush, surroundings, hfirst]
  cases wants with
  | false =>
    obtain ⟨rfl, rfl⟩ := Exec.pure_some.mp hrun
    exact ⟨_, rfl, hsynced₁⟩
  | true =>
    obtain ⟨rv, w₂, hsend, hrun⟩ := Exec.bind_some.mp hrun
    have hsecond := hsynced₁.answer hsend 0
    have hsynced₂ : Synced k w₂ { s with conn := w₂.conns k, outside := w₂ } :=
      Synced.of_conn rfl rfl
    simp only [if_true, hsecond]
    by_cases hrv : rv = 0
    · rw [if_pos hrv] at hrun
      obtain ⟨rfl, rfl⟩ := Exec.pure_some.mp hrun
      rw [if_neg (not_not.mpr hrv)]
      exact ⟨_, rfl, hsynced₂⟩
    · rw [if_neg hrv] at hrun
      obtain ⟨_, w₃, hdetail, hrun⟩ := Exec.bind_some.mp hrun
      obtain ⟨_, w₄, hdie, hrun⟩ := Exec.bind_some.mp hrun
      obtain ⟨rfl, rfl⟩ := Exec.pure_some.mp hrun
      obtain rfl := Exec.modify_some.mp hdetail
      obtain rfl := Exec.modify_some.mp hdie
      rw [if_pos hrv]
      exact ⟨_, rfl, (hsynced₂.set _).set (·.markDead rv)⟩

/-- A drain that gives up notes the same detail. -/
theorem giveUp_synced (h : Synced k w s) :
    Synced k ((w.setConn k fun conn =>
      { conn with lastErrorDetail := some .preflightDrainLimit }).setConn k
        (·.markDraining 0 Nghttp2.noError)) s.giveUp :=
  (h.set _).set (·.markDraining 0 Nghttp2.noError)

/-- The loop of the transport is that of the drain. -/
theorem drainLoop_synced {deadlineAbsUs maxBytes : Nat} (iterations : Nat) {totalRead : Nat}
    (h : Synced k w s) {ok : Bool}
    (hrun : drainLoop k deadlineAbsUs maxBytes iterations totalRead w = some (ok, w')) :
    ∃ s', DrainState.drainLoop (surroundings k) deadlineAbsUs maxBytes iterations totalRead s =
      (ok, s') ∧ Synced k w' s' := by
  induction iterations generalizing totalRead w s with
  | zero =>
    obtain ⟨_, w₁, hdetail, hrun⟩ := Exec.bind_some.mp hrun
    obtain ⟨_, w₂, hdrain, hrun⟩ := Exec.bind_some.mp hrun
    obtain ⟨rfl, rfl⟩ := Exec.pure_some.mp hrun
    obtain rfl := Exec.modify_some.mp hdetail
    obtain rfl := Exec.modify_some.mp hdrain
    exact ⟨_, rfl, giveUp_synced h⟩
  | succ iterations ih =>
    rw [DrainState.drainLoop]
    unfold drainLoop at hrun
    by_cases hmax : totalRead ≥ maxBytes
    · rw [if_pos hmax] at hrun
      obtain ⟨_, w₁, hdetail, hrun⟩ := Exec.bind_some.mp hrun
      obtain ⟨_, w₂, hdrain, hrun⟩ := Exec.bind_some.mp hrun
      obtain ⟨rfl, rfl⟩ := Exec.pure_some.mp hrun
      obtain rfl := Exec.modify_some.mp hdetail
      obtain rfl := Exec.modify_some.mp hdrain
      rw [if_pos hmax]
      exact ⟨_, rfl, giveUp_synced h⟩
    · rw [if_neg hmax] at hrun ⊢
      obtain ⟨r, w₁, hread, hrun⟩ := Exec.bind_some.mp hrun
      obtain ⟨read, s₁, hread', hsame, hsynced₁⟩ := preflightRead_synced h hread
      simp only [hread']
      cases hsame with
      | boundary =>
        obtain ⟨conn, w₂, hconn, hrun⟩ := Exec.bind_some.mp hrun
        rw [Proc.conn, Exec.get_bind_run] at hconn
        obtain ⟨rfl, rfl⟩ := Exec.pure_some.mp hconn
        obtain ⟨rfl, rfl⟩ := Exec.pure_some.mp hrun
        exact ⟨s₁, by rw [hsynced₁.conn], hsynced₁⟩
      | failed nread hneg =>
        simp only [if_pos hneg] at hrun
        obtain ⟨rfl, rfl⟩ := Exec.pure_some.mp hrun
        exact ⟨s₁, rfl, hsynced₁⟩
      | bytes nread hpos =>
        simp only [if_neg (Int.not_lt.mpr hpos.le)] at hrun
        obtain ⟨rv, w₂, hrecv, hrun⟩ := Exec.bind_some.mp hrun
        obtain ⟨s₂, hfeed, hsynced₂⟩ := sessionMemRecv_synced hsynced₁ nread.toNat hrecv
        simp only [hfeed]
        by_cases hrv : rv < 0
        · rw [if_pos hrv] at hrun
          obtain ⟨_, w₃, hdetail, hrun⟩ := Exec.bind_some.mp hrun
          obtain ⟨_, w₄, hdie, hrun⟩ := Exec.bind_some.mp hrun
          obtain ⟨rfl, rfl⟩ := Exec.pure_some.mp hrun
          obtain rfl := Exec.modify_some.mp hdetail
          obtain rfl := Exec.modify_some.mp hdie
          rw [if_pos hrv]
          exact ⟨_, rfl, (hsynced₂.set _).set (·.markDead rv)⟩
        · rw [if_neg hrv] at hrun
          rw [if_neg hrv]
          obtain ⟨conn, w₃, hconn, hrun⟩ := Exec.bind_some.mp hrun
          rw [Proc.conn, Exec.get_bind_run] at hconn
          obtain ⟨rfl, rfl⟩ := Exec.pure_some.mp hconn
          rw [hsynced₂.conn] at hrun
          split at hrun
          · next husable =>
            obtain ⟨rfl, rfl⟩ := Exec.pure_some.mp hrun
            rw [if_pos husable]
            exact ⟨s₂, rfl, hsynced₂⟩
          · next husable =>
            rw [if_neg husable]
            obtain ⟨flushed, w₄, hflush, hrun⟩ := Exec.bind_some.mp hrun
            obtain ⟨s₃, hflush', hsynced₃⟩ := drainFlush_synced hsynced₂ hflush
            simp only [hflush']
            cases flushed with
            | false =>
              obtain ⟨rfl, rfl⟩ := Exec.pure_some.mp hrun
              exact ⟨s₃, rfl, hsynced₃⟩
            | true => exact ih hsynced₃ hrun

/-- A completed drain of the transport is a drain on bytes with what surrounds its connection. -/
theorem drainPendingConnectionDataForReuse_synced {deadlineAbsUs : Nat} {ok : Bool}
    (hrun : drainPendingConnectionDataForReuse k deadlineAbsUs w = some (ok, w')) :
    ∃ s', DrainState.drainPendingConnectionDataForReuse (surroundings k) w.config deadlineAbsUs
      { conn := w.conns k, outside := w } = (ok, s') ∧ Synced k w' s' := by
  have hstart : Synced k w { conn := w.conns k, outside := w } := Synced.of_conn rfl rfl
  obtain ⟨conn, w₁, hconn, hrun⟩ := Exec.bind_some.mp hrun
  rw [Proc.conn, Exec.get_bind_run] at hconn
  obtain ⟨rfl, rfl⟩ := Exec.pure_some.mp hconn
  unfold DrainState.drainPendingConnectionDataForReuse
  split at hrun
  · next husable =>
    obtain ⟨rfl, rfl⟩ := Exec.pure_some.mp hrun
    rw [if_pos husable]
    exact ⟨_, rfl, hstart⟩
  · next husable =>
    rw [if_neg husable]
    obtain ⟨w₀, w₁, hget, hrun⟩ := Exec.bind_some.mp hrun
    obtain ⟨rfl, rfl⟩ := Exec.get_some.mp hget
    exact drainLoop_synced preflightDrainMaxIterations hstart hrun

end Proc

end GrpcLite
