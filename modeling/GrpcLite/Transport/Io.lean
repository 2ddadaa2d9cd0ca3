import GrpcLite.Transport.Connection

/-!
# Input and output of one connection

Reading and writing with a deadline, plain or over TLS, and the coalescing
writer. The functions work on a connection together with the environment.
-/

namespace GrpcLite

/-- A connection and its environment. -/
structure Port where
  /-- Clock, `errno` and answers. -/
  env : Env
  /-- The connection. -/
  conn : H2Connection
  deriving DecidableEq, Repr

namespace Port

/-- Run a computation on the environment. -/
def onEnv {α : Type} (m : Exec Env α) : Exec Port α :=
  Exec.zoom Port.env (fun env p => { p with env := env }) m

/-- Change the connection. -/
def setConn (f : H2Connection → H2Connection) : Exec Port Unit :=
  modify fun p => { p with conn := f p.conn }

/-- Record a failure under the current `errno`. -/
def noteFailure (detail : ErrorDetail) : Exec Port Unit := do
  let errno := (← get).env.errno
  setConn fun conn => conn.noteFailure errno detail

/-- How waiting for the descriptor ends. -/
inductive Wait
  /-- The operation is tried again. -/
  | again
  /-- The deadline has passed. -/
  | timedOut
  /-- Polling failed. -/
  | failed
  deriving DecidableEq, Repr

/-- The wait that the read and write loops share; `pollFailed` is the text of a failed poll. -/
def waitReady (events deadlineAbsUs : Nat) (pollFailed : Nat → ErrorDetail) : Exec Port Wait := do
  if ← onEnv (Env.waitInTime events deadlineAbsUs) then return .again
  let errno := (← get).env.errno
  if errno ≠ Errno.etimedout then
    noteFailure (pollFailed errno)
    return .failed
  noteFailure .deadlineExceeded
  return .timedOut

/-- The poll events for an unfinished TLS operation. -/
def sslEvents (sslError : Nat) : Option Nat :=
  if sslError = Ssl.errorWantRead then some pollIn
  else if sslError = Ssl.errorWantWrite then some pollOut
  else none

/-! ## Reading -/

/-- The TLS loop of `connection_recv`. -/
def sslReadLoop (length deadlineAbsUs : Nat) : Nat → Exec Port Int
  | 0 => Exec.block
  | fuel + 1 => do
    let (nread, sslError, errno) ← onEnv <| Env.ask fun
      | .sslRead rv sslError errno => if rv ≤ length then some (rv, sslError, errno) else none
      | _ => none
    onEnv (Env.setErrno errno)
    if nread > 0 then return nread
    setConn fun conn => { conn with lastSslError := sslError }
    match sslEvents sslError with
    | some events =>
      match ← waitReady events deadlineAbsUs .sslReadPollFailed with
      | .again => sslReadLoop length deadlineAbsUs fuel
      | _ => return -1
    | none =>
      onEnv (Env.setErrno Errno.econnreset)
      noteFailure (.sslReadFailed sslError)
      return -1

/-- The socket loop of `connection_recv`. -/
def recvLoop (length deadlineAbsUs : Nat) : Nat → Exec Port Int
  | 0 => Exec.block
  | fuel + 1 => do
    let (nread, errno) ← onEnv <| Env.ask fun
      | .recv rv errno => if rv ≤ length then some (rv, errno) else none
      | _ => none
    if nread ≥ 0 then return nread
    onEnv (Env.setErrno errno)
    if errno = Errno.eagain then
      match ← waitReady pollIn deadlineAbsUs .recvPollFailed with
      | .again => recvLoop length deadlineAbsUs fuel
      | _ => return -1
    else
      noteFailure (.recvFailed errno)
      return -1

/-- `connection_recv`: the number of bytes read, zero at the end of input, minus one on a
failure that `errno` describes. -/
def connectionRecv (length deadlineAbsUs : Nat) : Exec Port Int := do
  if (← onEnv (Env.remainingTimeoutUsForDeadline deadlineAbsUs)) < 0 then
    onEnv (Env.setErrno Errno.etimedout)
    noteFailure .deadlineExceeded
    return -1
  let p ← get
  if p.conn.ssl then sslReadLoop length deadlineAbsUs (p.env.script.length + 1)
  else recvLoop length deadlineAbsUs (p.env.script.length + 1)

/-! ## Writing -/

/-- Bytes accepted by the socket or by TLS. -/
def putOnWire (data : Bytes) (written : Int) : Exec Port Unit :=
  setConn fun conn => { conn with wire := conn.wire ++ data.take written.toNat }

/-- The TLS loop of `h2_connection_send`. -/
def sslWriteLoop (data : Bytes) (deadlineAbsUs : Nat) : Nat → Exec Port Int
  | 0 => Exec.block
  | fuel + 1 => do
    let (written, sslError, errno) ← onEnv <| Env.ask fun
      | .sslWrite rv sslError errno =>
        if rv ≤ data.length then some (rv, sslError, errno) else none
      | _ => none
    onEnv (Env.setErrno errno)
    if written > 0 then
      putOnWire data written
      return written
    setConn fun conn => { conn with lastSslError := sslError }
    match sslEvents sslError with
    | some events =>
      match ← waitReady events deadlineAbsUs .sslWritePollFailed with
      | .again => sslWriteLoop data deadlineAbsUs fuel
      | .timedOut =>
        setConn H2Connection.markWriteTimedOut
        return -1
      | .failed => return -1
    | none =>
      onEnv (Env.setErrno Errno.econnreset)
      noteFailure (.sslWriteFailed sslError)
      return -1

/-- The socket loop of `h2_connection_send`. -/
def sendLoop (data : Bytes) (deadlineAbsUs : Nat) : Nat → Exec Port Int
  | 0 => Exec.block
  | fuel + 1 => do
    let (written, errno) ← onEnv <| Env.ask fun
      | .send rv errno => if rv ≤ data.length then some (rv, errno) else none
      | _ => none
    if written ≥ 0 then
      putOnWire data written
      return written
    onEnv (Env.setErrno errno)
    if errno = Errno.eagain then
      match ← waitReady pollOut deadlineAbsUs .sendPollFailed with
      | .again => sendLoop data deadlineAbsUs fuel
      | .timedOut =>
        setConn H2Connection.markWriteTimedOut
        return -1
      | .failed => return -1
    else
      noteFailure (.sendFailed errno)
      return -1

/-- `h2_connection_send`. -/
def h2ConnectionSend (data : Bytes) (deadlineAbsUs : Nat) : Exec Port Int := do
  if (← onEnv (Env.remainingTimeoutUsForDeadline deadlineAbsUs)) < 0 then
    onEnv (Env.setErrno Errno.etimedout)
    setConn H2Connection.markWriteTimedOut
    noteFailure .deadlineExceeded
    return -1
  let p ← get
  if p.conn.ssl then
    if data.length > intMax then
      onEnv (Env.setErrno Errno.emsgsize)
      noteFailure .sslWriteTooLong
      return -1
    sslWriteLoop data deadlineAbsUs (p.env.script.length + 1)
  else sendLoop data deadlineAbsUs (p.env.script.length + 1)

/-- The loop of `h2_connection_write_all`; every successful write takes a byte. -/
def writeAllLoop (deadlineAbsUs : Nat) : Nat → Bytes → Exec Port Bool
  | _, [] => return true
  | 0, _ :: _ => Exec.block
  | fuel + 1, b :: bs => do
    let written ← h2ConnectionSend (b :: bs) deadlineAbsUs
    if written ≤ 0 then return false
    writeAllLoop deadlineAbsUs fuel ((b :: bs).drop written.toNat)

/-- `h2_connection_write_all`: true for SUCCESS. -/
def writeAll (data : Bytes) (deadlineAbsUs : Nat) : Exec Port Bool :=
  writeAllLoop deadlineAbsUs data.length data

/-- `h2_connection_flush_write_buffer`. -/
def flushWriteBuffer (deadlineAbsUs : Nat) : Exec Port Bool := do
  let conn := (← get).conn
  if conn.writeBuffer.length = 0 then return true
  if !(← writeAll conn.writeBuffer deadlineAbsUs) then return false
  setConn fun conn => { conn with writeBuffer := [] }
  return true

/-- The flush of `h2_connection_buffer_or_write` when the buffer has no room left. -/
def makeRoom (length deadlineAbsUs : Nat) : Exec Port Bool := do
  let conn := (← get).conn
  if conn.writeBuffer.length + length > conn.writeBufferCap then flushWriteBuffer deadlineAbsUs
  else return true

/-- `h2_connection_buffer_or_write`. -/
def bufferOrWrite (data : Bytes) (deadlineAbsUs : Nat) : Exec Port Bool := do
  let conn := (← get).conn
  if !conn.writeCoalescing then writeAll data deadlineAbsUs
  else if data.length > conn.writeBufferCap then
    if !(← flushWriteBuffer deadlineAbsUs) then return false
    writeAll data deadlineAbsUs
  else
    if !(← makeRoom data.length deadlineAbsUs) then return false
    setConn fun conn =>
      { conn with
        writeBuffer := conn.writeBuffer ++ data
        writeBufferPeak := max conn.writeBufferPeak (conn.writeBuffer.length + data.length) }
    return true

/-- `send_callback`: true when all bytes were taken. -/
def sendCallback (data : Bytes) : Exec Port Bool := do
  setConn fun conn => { conn with handed := conn.handed ++ [data] }
  bufferOrWrite data (← get).conn.writeDeadline

end Port

end GrpcLite
