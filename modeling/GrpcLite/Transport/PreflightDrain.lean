import GrpcLite.Transport.Persistent

/-!
# The preflight drain on bytes

`drain_pending_connection_data_for_reuse` with the receive scratch and the bytes in
it. The socket, TLS and the library are functions that answer every call, whatever
they return and whatever they do to the connection.
-/

namespace GrpcLite

/-- What `recv` returns. -/
inductive RecvAnswer
  /-- At least one byte. -/
  | data (first : UInt8) (rest : Bytes)
  /-- Zero. -/
  | ended
  /-- Minus one, with `errno`. -/
  | failed (errno : Nat)
  deriving DecidableEq, Repr

/-- What `SSL_read` returns. -/
inductive SslReadAnswer
  /-- At least one byte. -/
  | data (first : UInt8) (rest : Bytes)
  /-- No byte, with the result of `SSL_get_error`. -/
  | failed (sslError : Nat)
  deriving DecidableEq, Repr

/-- The socket, TLS and the library around a connection. Every answer may depend on the
connection and on all answers before. -/
structure Surroundings (σ : Type) where
  /-- `recv` of at most some bytes without blocking. -/
  recv : Nat → H2Connection → σ → RecvAnswer × σ
  /-- `SSL_read` of at most some bytes. -/
  sslRead : Nat → H2Connection → σ → SslReadAnswer × σ
  /-- `nghttp2_session_mem_recv` with the callbacks it makes. -/
  memRecv : Bytes → H2Connection → σ → Int × H2Connection × σ
  /-- `nghttp2_session_want_write`. -/
  wantWrite : H2Connection → σ → Bool × H2Connection × σ
  /-- `send_pending_h2_frames_with_deadline` without a call. -/
  sendPending : Nat → H2Connection → σ → Int × H2Connection × σ

/-- What the drain does to the outside. -/
inductive DrainOp
  /-- A read of at most some bytes, and the bytes that it returned. -/
  | read (length : Nat) (got : Bytes)
  /-- A read that would block. -/
  | wouldBlock (length : Nat)
  /-- A read that found the end of input or failed. -/
  | readFailed (length : Nat)
  /-- Bytes that are given to the library. -/
  | feed (bytes : Bytes)
  deriving DecidableEq, Repr

/-- The state of a drain. -/
structure DrainState (σ : Type) where
  /-- The connection. -/
  conn : H2Connection
  /-- What surrounds it. -/
  outside : σ
  /-- `recv_scratch`. -/
  scratch : Bytes := List.replicate Proc.recvScratchSize 0
  /-- What was done so far. -/
  trace : List DrainOp := []

/-- The outcome of one read. -/
inductive DrainRead
  /-- A number of bytes in the scratch. -/
  | bytes (nread : Nat)
  /-- The read boundary. -/
  | boundary
  /-- The connection was marked dead. -/
  | failed

namespace DrainState

variable {σ : Type} (env : Surroundings σ)

/-- Bytes arrive at the start of the scratch; there are never more than asked for. -/
def store (s : DrainState σ) (length : Nat) (bytes : Bytes) (outside : σ) :
    DrainRead × DrainState σ :=
  let got := bytes.take length
  (.bytes got.length,
    { s with
      outside := outside
      scratch := got ++ s.scratch.drop got.length
      trace := s.trace ++ [.read length got] })

/-- The TLS branch of a read. -/
def drainSslRead (length : Nat) (s : DrainState σ) : DrainRead × DrainState σ :=
  match env.sslRead length s.conn s.outside with
  | (.data first rest, outside) => s.store length (first :: rest) outside
  | (.failed sslError, outside) =>
    let conn := { s.conn with lastSslError := sslError }
    if sslError = Ssl.errorWantRead ∨ sslError = Ssl.errorWantWrite then
      (.boundary,
        { s with conn := conn, outside := outside, trace := s.trace ++ [.wouldBlock length] })
    else if sslError = Ssl.errorZeroReturn then
      (.failed,
        { s with
          conn := { conn with lastErrorDetail := some .tlsClosedBeforeReuse }.markDead 0
          outside := outside
          trace := s.trace ++ [.readFailed length] })
    else
      (.failed,
        { s with
          conn := { conn with lastErrorDetail := some (.tlsPreflightReadFailed sslError) }.markDead
            Errno.econnreset
          outside := outside
          trace := s.trace ++ [.readFailed length] })

/-- The plaintext branch of a read. -/
def drainRecv (length : Nat) (s : DrainState σ) : DrainRead × DrainState σ :=
  match env.recv length s.conn s.outside with
  | (.data first rest, outside) => s.store length (first :: rest) outside
  | (.ended, outside) =>
    (.failed,
      { s with
        conn := { s.conn with lastErrorDetail := some .closedBeforeReuse }.markDead 0
        outside := outside
        trace := s.trace ++ [.readFailed length] })
  | (.failed errno, outside) =>
    if errno = Errno.eagain then
      (.boundary, { s with outside := outside, trace := s.trace ++ [.wouldBlock length] })
    else
      (.failed,
        { s with
          conn := s.conn.markDead errno
          outside := outside
          trace := s.trace ++ [.readFailed length] })

/-- One read. -/
def drainRead (length : Nat) (s : DrainState σ) : DrainRead × DrainState σ :=
  if s.conn.ssl then drainSslRead env length s else drainRecv env length s

/-- The bytes of a read are given to the library. -/
def feed (nread : Nat) (s : DrainState σ) : Int × DrainState σ :=
  let bytes := s.scratch.take nread
  let (rv, conn, outside) := env.memRecv bytes s.conn s.outside
  (rv, { s with conn := conn, outside := outside, trace := s.trace ++ [.feed bytes] })

/-- The flush of a round: false when it failed. -/
def drainFlush (deadlineAbsUs : Nat) (s : DrainState σ) : Bool × DrainState σ :=
  let (wants, conn, outside) := env.wantWrite s.conn s.outside
  let s := { s with conn := conn, outside := outside }
  if wants then
    let (rv, conn, outside) := env.sendPending deadlineAbsUs s.conn s.outside
    let s := { s with conn := conn, outside := outside }
    if rv ≠ 0 then
      (false,
        { s with
          conn := { s.conn with
            lastErrorDetail := s.conn.lastErrorDetail <|> some (ErrorDetail.preflightSendFailed rv)
          }.markDead rv })
    else (true, s)
  else (true, s)

/-- The end of a drain that did not reach the read boundary. -/
def giveUp (s : DrainState σ) : DrainState σ :=
  { s with
    conn := { s.conn with lastErrorDetail := some .preflightDrainLimit }.markDraining 0
      Nghttp2.noError }

/-- The loop of `drain_pending_connection_data_for_reuse`, by iterations left. -/
def drainLoop (deadlineAbsUs maxBytes : Nat) : Nat → Nat → DrainState σ → Bool × DrainState σ
  | 0, _, s => (false, s.giveUp)
  | iterations + 1, totalRead, s =>
    if totalRead ≥ maxBytes then (false, s.giveUp)
    else
      match drainRead env (min Proc.recvScratchSize (maxBytes - totalRead)) s with
      | (.boundary, s) => (s.conn.usable, s)
      | (.failed, s) => (false, s)
      | (.bytes nread, s) =>
        let (rv, s) := feed env nread s
        if rv < 0 then
          (false,
            { s with
              conn := { s.conn with lastErrorDetail := some (.preflightMemRecvFailed rv) }.markDead
                rv })
        else if !s.conn.usable then (false, s)
        else
          match drainFlush env deadlineAbsUs s with
          | (false, s) => (false, s)
          | (true, s) => drainLoop deadlineAbsUs maxBytes iterations (totalRead + nread) s

/-- `drain_pending_connection_data_for_reuse`. -/
def drainPendingConnectionDataForReuse (config : Config) (deadlineAbsUs : Nat)
    (s : DrainState σ) : Bool × DrainState σ :=
  if !s.conn.usable then (false, s)
  else
    drainLoop env deadlineAbsUs config.effectivePreflightDrainMaxBytes
      Proc.preflightDrainMaxIterations 0 s

end DrainState

end GrpcLite
