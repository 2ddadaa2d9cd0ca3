import GrpcLite.Transport.Ownership

/-!
# Persistent connections

Adoption of a cached connection with its preflight, creation of a new one, and
the lookup that both drivers start with. The TLS handshake and the creation of
the session are one answer of the environment.
-/

namespace GrpcLite

/-- Why no connection could be obtained. -/
inductive SetupError
  /-- `persistent connection cache limit exceeded`. -/
  | cacheLimit
  /-- `HTTP/2 transport deadline exceeded`. -/
  | deadlineExceeded
  /-- `failed to connect`. -/
  | connectFailed
  /-- Any other failure of the connection setup. -/
  | setupFailed
  /-- `nghttp2_session_send failed`. -/
  | sendFailed
  deriving DecidableEq, Repr

namespace Proc

/-- `GRPC_LITE_RECV_SCRATCH_SIZE`. -/
def recvScratchSize : Nat := 65536

/-- `GRPC_LITE_PREFLIGHT_DRAIN_MAX_ITERATIONS`. -/
def preflightDrainMaxIterations : Nat := 64

/-- `GRPC_LITE_MAX_PERSISTENT_CONNECTIONS`. -/
def maxPersistentConnections : Nat := 128

/-- `set_connection_error_detail`. -/
def setErrorDetail (k : ConnId) (detail : ErrorDetail) : Proc Unit :=
  setConn k fun conn => { conn with lastErrorDetail := some detail }

/-- A TLS connection that ended or failed before its reuse. -/
def noteTlsFailure (k : ConnId) (sslError : Nat) (tlsFailed : Nat → ErrorDetail) : Proc Unit := do
  if sslError = Ssl.errorZeroReturn then
    setErrorDetail k .tlsClosedBeforeReuse
    markConnectionDead k 0
  else
    setErrorDetail k (tlsFailed sslError)
    markConnectionDead k Errno.econnreset

/-- One non-blocking read or peek: the result, or none at the read boundary. The
connection is marked dead on an end of input or a failure. The drain stores the TLS error
of every read that returned nothing, the peek only that of a failed one. -/
def preflightRead (k : ConnId) (length : Nat) (draining : Bool) (tlsFailed : Nat → ErrorDetail) :
    Proc (Option Int) := do
  log k .read
  if (← conn k).ssl then
    let (nread, sslError, errno) ← onEnv <| Env.ask fun
      | .sslRead rv sslError errno => if rv ≤ length then some (rv, sslError, errno) else none
      | _ => none
    onEnv (Env.setErrno errno)
    if nread > 0 then return some nread
    let wants := sslError = Ssl.errorWantRead ∨ sslError = Ssl.errorWantWrite
    Exec.when (draining ∨ ¬wants) (setConn k fun conn => { conn with lastSslError := sslError })
    if wants then return none
    noteTlsFailure k sslError tlsFailed
    return some (-1)
  else
    let (nread, errno) ← onEnv <| Env.ask fun
      | .recv rv errno => if rv ≤ length then some (rv, errno) else none
      | _ => none
    if nread > 0 then return some nread
    if nread = 0 then
      setErrorDetail k .closedBeforeReuse
      markConnectionDead k 0
      return some (-1)
    onEnv (Env.setErrno errno)
    if errno = Errno.eagain then return none
    markConnectionDead k errno
    return some (-1)

/-- The flush of a drain round: false when it failed. -/
def drainFlush (k : ConnId) (deadlineAbsUs : Nat) : Proc Bool := do
  if !(← sessionWantWrite k) then return true
  let rv ← sendPendingH2FramesWithDeadline k none deadlineAbsUs
  if rv = 0 then return true
  setConn k fun conn =>
    { conn with lastErrorDetail := conn.lastErrorDetail <|> some (.preflightSendFailed rv) }
  markConnectionDead k rv
  return false

/-- The loop of `drain_pending_connection_data_for_reuse`, by iterations left. -/
def drainLoop (k : ConnId) (deadlineAbsUs maxBytes : Nat) : Nat → Nat → Proc Bool
  | 0, _ => do
    setErrorDetail k .preflightDrainLimit
    setConn k (·.markDraining 0 Nghttp2.noError)
    return false
  | iterations + 1, totalRead => do
    if totalRead ≥ maxBytes then
      setErrorDetail k .preflightDrainLimit
      setConn k (·.markDraining 0 Nghttp2.noError)
      return false
    match ← preflightRead k (min recvScratchSize (maxBytes - totalRead)) true
        .tlsPreflightReadFailed with
    | none => return (← conn k).usable
    | some nread =>
      if nread < 0 then return false
      let rv ← sessionMemRecv k
      if rv < 0 then
        setErrorDetail k (.preflightMemRecvFailed rv)
        markConnectionDead k rv
        return false
      if !(← conn k).usable then return false
      if !(← drainFlush k deadlineAbsUs) then return false
      drainLoop k deadlineAbsUs maxBytes iterations (totalRead + nread.toNat)

/-- `drain_pending_connection_data_for_reuse`. -/
def drainPendingConnectionDataForReuse (k : ConnId) (deadlineAbsUs : Nat) : Proc Bool := do
  if !(← conn k).usable then return false
  drainLoop k deadlineAbsUs (← get).config.effectivePreflightDrainMaxBytes
    preflightDrainMaxIterations 0

/-- `preflight_persistent_connection`. -/
def preflightPersistentConnection (k : ConnId) (deadlineAbsUs : Nat) : Proc Bool := do
  let conn ← conn k
  if !conn.usable then return false
  if conn.activeStreamCount > 0 then return true
  match ← preflightRead k 1 false .tlsPreflightFailed with
  | none => return true
  | some nread =>
    if nread < 0 then return false
    drainPendingConnectionDataForReuse k deadlineAbsUs

/-- `create_h2_connection`. -/
def createH2Connection (deadlineAbsUs : Nat) (ssl : Bool) : Proc (Except SetupError ConnId) := do
  if !(← onEnv (Env.connectTcp deadlineAbsUs)) then
    let errno := (← get).env.errno
    return .error (if errno = Errno.etimedout then .deadlineExceeded else .connectFailed)
  let (ok, deadlineExceeded) ← onEnv <| Env.ask fun
    | .setup ok deadlineExceeded => some (ok, deadlineExceeded)
    | _ => none
  if !ok then return .error (if deadlineExceeded then .deadlineExceeded else .setupFailed)
  let w ← get
  let k := w.nextConn
  set { w with
    nextConn := k + 1
    conns := Function.update w.conns k
      { ssl := ssl, setupDeadlineAbsUs := deadlineAbsUs, outbound := true
        writeBufferCap :=
          h2WriteCoalesceCapacityForMaxFrameSize w.config.effectiveHttp2MaxFrameSize } }
  let rv ← sendPendingH2Frames k none
  if rv ≠ 0 then
    let timedOut := (← conn k).setupTimedOut
    destroyH2Connection k
    return .error (if timedOut then .deadlineExceeded else .sendFailed)
  setConn k fun conn => { conn with setupDeadlineAbsUs := 0 }
  return .ok k

/-- Insertion of a new connection into the cache. -/
def addEntry (key : Bytes) (k : ConnId) : Proc Unit :=
  modify fun w => { w with cache := (w.cache.filter fun e => e.key ≠ key) ++ [⟨key, k, key⟩] }

/-- The cached connection of a key, if it can be used again. -/
def adoptPersistentConnection (key : Bytes) (deadlineAbsUs : Nat) : Proc (Option ConnId) := do
  match ← findEntry key with
  | none => return none
  | some entry =>
    let k := entry.connection
    if !(← conn k).usable then
      removeUnusablePersistentConnection key k
      return none
    if !(← preflightPersistentConnection k deadlineAbsUs) then
      removeUnusablePersistentConnection key k
      return none
    if entry.identity ≠ key then
      discardPersistentConnection key k
      return none
    return some k

/-- `get_persistent_connection`. -/
def getPersistentConnection (key : Bytes) (deadlineAbsUs : Nat) (ssl : Bool) :
    Proc (Except SetupError ConnId) := do
  match ← adoptPersistentConnection key deadlineAbsUs with
  | some k => return .ok k
  | none =>
    if (← get).cache.length ≥ maxPersistentConnections then return .error .cacheLimit
    match ← createH2Connection deadlineAbsUs ssl with
    | .error e => return .error e
    | .ok k =>
      addEntry key k
      return .ok k

end Proc

end GrpcLite
