import GrpcLite.Core.Exec
import GrpcLite.Exchange.Callbacks

/-!
# The environment of the transport

Everything outside the transport answers through one script: the monotonic
clock, the system calls on the socket or the TLS connection, and the HTTP/2
library. Every query takes the next answer; a script that ends or holds another
kind of answer blocks the run. The consumed answers are kept as a history.
-/

namespace GrpcLite

namespace Errno

/-- Error numbers that the transport compares or sets. -/
def eintr : Nat := 4
@[inherit_doc eintr] def eagain : Nat := 11
@[inherit_doc eintr] def emsgsize : Nat := 90
@[inherit_doc eintr] def econnreset : Nat := 104
@[inherit_doc eintr] def etimedout : Nat := 110
@[inherit_doc eintr] def einprogress : Nat := 115

end Errno

namespace Ssl

/-- Results of `SSL_get_error` that the transport distinguishes. -/
def errorWantRead : Nat := 2
@[inherit_doc errorWantRead] def errorWantWrite : Nat := 3
@[inherit_doc errorWantRead] def errorZeroReturn : Nat := 6

end Ssl

/-- Poll event bits. -/
def pollIn : Nat := 1
@[inherit_doc pollIn] def pollOut : Nat := 4
@[inherit_doc pollIn] def pollErr : Nat := 8
@[inherit_doc pollIn] def pollHup : Nat := 16
@[inherit_doc pollIn] def pollNval : Nat := 32

/-- `INT_MAX`. -/
def intMax : Nat := 2 ^ 31 - 1

/-- One callback that `nghttp2_session_mem_recv` makes. -/
inductive SessionEvent
  /-- A callback for one stream. -/
  | stream (streamId : Int) (event : StreamEvent)
  /-- `on_frame_recv_callback` for GOAWAY, after which the library closes the streams
  above the last one. -/
  | goaway (lastStreamId : Int) (errorCode : Nat)
  deriving DecidableEq, Repr

/-- One callback that `nghttp2_session_send` makes. -/
inductive SendOp
  /-- `send_callback` with the bytes of a frame. -/
  | frame (bytes : Bytes)
  /-- A DATA frame: `data_source_read_callback` with a length limit, then
  `h2_send_data_callback` with the frame header and the padding. -/
  | data (streamId : Int) (limit : Nat) (framehd : Bytes) (padlen : Nat)
  /-- `on_stream_close_callback`. -/
  | close (streamId : Int) (errorCode : Nat)
  deriving DecidableEq, Repr

/-- The system calls of `connect_tcp`. -/
inductive SetupCall
  | getaddrinfo
  | socket
  /-- `set_fd_nonblocking_mode`. -/
  | setNonblocking
  | connect
  /-- `getsockopt` for `SO_ERROR`. -/
  | getsockopt
  | close
  | freeaddrinfo
  deriving DecidableEq, Repr

/-- One answer of the environment. -/
inductive Answer
  /-- `monotonic_us`: microseconds since the last look at the clock. -/
  | clock (elapsed : Nat)
  /-- `poll`: result, returned events, `errno` of a failure, and microseconds waited. -/
  | poll (rv : Int) (revents errno elapsed : Nat)
  /-- `recv`: result and `errno` of a failure. -/
  | recv (rv : Int) (errno : Nat)
  /-- `SSL_read` or `SSL_peek`: result, `SSL_get_error` and the `errno` left behind. -/
  | sslRead (rv : Int) (sslError errno : Nat)
  /-- `send`: result and `errno` of a failure. -/
  | send (rv : Int) (errno : Nat)
  /-- `SSL_write`: result, `SSL_get_error` and the `errno` left behind. -/
  | sslWrite (rv : Int) (sslError errno : Nat)
  /-- `nghttp2_session_mem_recv`: the callbacks it makes and its result. -/
  | memRecv (events : List SessionEvent) (rv : Int)
  /-- `nghttp2_session_send`: the callbacks it makes and its result. -/
  | sessionSend (ops : List SendOp) (rv : Int)
  /-- `nghttp2_submit_request`. -/
  | submitRequest (rv : Int)
  /-- `nghttp2_session_set_stream_user_data` for a stream being registered. -/
  | setUserData (rv : Int)
  /-- `nghttp2_submit_rst_stream`. -/
  | submitRst (rv : Int)
  /-- `nghttp2_session_want_write`. -/
  | wantWrite (wants : Bool)
  /-- A system call of `connect_tcp`: its success, the number of addresses or the socket
  error it returns, and the `errno` it leaves behind, none if it leaves it as it was. -/
  | setupCall (call : SetupCall) (ok : Bool) (value : Nat) (errno : Option Nat)
  /-- The TLS handshake and the session of a new connection. -/
  | setup (ok : Bool) (deadlineExceeded : Bool)
  /-- The credentials plugin: none for a failure, else whether the merged metadata is
  acceptable. -/
  | credentials (metadataValid : Option Bool)
  deriving DecidableEq, Repr

/-- The clock, `errno`, the answers to come and the answers given. -/
structure Env where
  /-- Microseconds on the monotonic clock. -/
  now : Nat := 0
  /-- The thread's `errno`. -/
  errno : Nat := 0
  /-- Answers to come. -/
  script : List Answer := []
  /-- Answers given, oldest first. -/
  history : List Answer := []
  deriving DecidableEq, Repr

namespace Env

/-- Take the next answer if `select` accepts it. -/
def ask {α : Type} (select : Answer → Option α) : Exec Env α := fun env =>
  match env.script with
  | [] => none
  | answer :: rest =>
    (select answer).map fun a =>
      (a, { env with script := rest, history := env.history ++ [answer] })

/-- Set `errno`. -/
def setErrno (errno : Nat) : Exec Env Unit := modify fun env => { env with errno := errno }

/-- Let time pass. -/
def elapse (micros : Nat) : Exec Env Unit := modify fun env => { env with now := env.now + micros }

/-- `monotonic_us`. -/
def monotonicUs : Exec Env Nat := do
  let elapsed ← ask fun
    | .clock elapsed => some elapsed
    | _ => none
  elapse elapsed
  return (← get).now

/-- The events that end a wait: the requested ones and the error conditions. -/
def awaited (events : Nat) : Nat := events ||| pollErr ||| pollHup ||| pollNval

/-- `poll` on one descriptor: the result and the returned events. With a timeout it
returns zero only after waiting for it, without one it does not return zero, and a
positive result comes with a requested event or an error condition. -/
def poll (events : Nat) (timeoutMs : Int) : Exec Env (Int × Nat) := do
  let (rv, revents, errno, elapsed) ← ask fun
    | .poll rv revents errno elapsed =>
      if rv = 0 ∧ (timeoutMs < 0 ∨ elapsed < timeoutMs.toNat * 1000) then none
      else if rv > 0 ∧ revents &&& awaited events = 0 then none
      else some (rv, revents, errno, elapsed)
    | _ => none
  elapse elapsed
  Exec.when (rv < 0) (setErrno errno)
  return (rv, revents)

/-- `poll_timeout_ms_for_deadline`. -/
def pollTimeoutMsForDeadline (deadlineAbsUs : Nat) : Exec Env Int := do
  if deadlineAbsUs = 0 then return -1
  let now ← monotonicUs
  if now ≥ deadlineAbsUs then return 0
  let remainingMs := (deadlineAbsUs - now + 999) / 1000
  return if remainingMs > intMax then intMax else remainingMs

/-- `remaining_timeout_us_for_deadline`. -/
def remainingTimeoutUsForDeadline (deadlineAbsUs : Nat) : Exec Env Int := do
  if deadlineAbsUs = 0 then return 0
  let now ← monotonicUs
  if now ≥ deadlineAbsUs then return -1
  return min (deadlineAbsUs - now) (2 ^ 63 - 1)

/-- The loop of `poll_fd_until_deadline`: true for its zero. -/
def pollLoop (events deadlineAbsUs : Nat) : Nat → Exec Env Bool
  | 0 => Exec.block
  | fuel + 1 => do
    let timeoutMs ← pollTimeoutMsForDeadline deadlineAbsUs
    if timeoutMs = 0 then
      setErrno Errno.etimedout
      return false
    let (rv, revents) ← poll events timeoutMs
    if rv > 0 then return (revents &&& awaited events) != 0
    if rv = 0 then
      setErrno Errno.etimedout
      return false
    if (← get).errno ≠ Errno.eintr then return false
    pollLoop events deadlineAbsUs fuel

/-- `poll_fd_until_deadline`; every round takes an answer, so the script bounds the rounds. -/
def pollFdUntilDeadline (events deadlineAbsUs : Nat) : Exec Env Bool := do
  pollLoop events deadlineAbsUs ((← get).script.length + 1)

/-- A wait with a deadline: true when the descriptor is ready before the deadline. Otherwise
`errno` says why. -/
def waitInTime (events deadlineAbsUs : Nat) : Exec Env Bool := do
  if !(← pollFdUntilDeadline events deadlineAbsUs) then return false
  if (← remainingTimeoutUsForDeadline deadlineAbsUs) ≥ 0 then return true
  setErrno Errno.etimedout
  return false

/-! ## Connecting -/

/-- A system call of `connect_tcp`: its success and its value. -/
def setupCall (call : SetupCall) : Exec Env (Bool × Nat) := do
  let (ok, value, errno) ← ask fun
    | .setupCall call' ok value errno => if call' = call then some (ok, value, errno) else none
    | _ => none
  modify fun env => { env with errno := errno.getD env.errno }
  return (ok, value)

/-- `deadline_abs_us > 0 && monotonic_us() >= deadline_abs_us`. -/
def deadlinePassed (deadlineAbsUs : Nat) : Exec Env Bool := do
  if deadlineAbsUs = 0 then return false
  return decide ((← monotonicUs) ≥ deadlineAbsUs)

/-- The wait for a connection in progress: true when it is made. -/
def connectInProgress (deadlineAbsUs : Nat) : Exec Env Bool := do
  if !(← pollFdUntilDeadline pollOut deadlineAbsUs) then return false
  let (ok, socketError) ← setupCall .getsockopt
  if !ok then return false
  if socketError = 0 then return true
  setErrno socketError
  return false

/-- The connection to one address behind `connect`, which did not succeed at once. -/
def connectPending (deadlineAbsUs : Nat) : Exec Env Bool := do
  let errno := (← get).errno
  if errno = Errno.einprogress ∨ errno = Errno.eagain then connectInProgress deadlineAbsUs
  else return false

/-- The loop of `connect_tcp`, by addresses left. The socket options of a connected socket
change nothing that is read later. -/
def connectAddresses (deadlineAbsUs : Nat) : Nat → Exec Env Bool
  | 0 => return false
  | addresses + 1 => do
    if !(← setupCall .socket).1 then connectAddresses deadlineAbsUs addresses
    else if !(← setupCall .setNonblocking).1 then
      let _ ← setupCall .close
      connectAddresses deadlineAbsUs addresses
    else if (← setupCall .connect).1 then return true
    else if ← connectPending deadlineAbsUs then return true
    else if ← deadlinePassed deadlineAbsUs then
      let _ ← setupCall .close
      return false
    else
      let _ ← setupCall .close
      connectAddresses deadlineAbsUs addresses

/-- `connect_tcp`: true for a descriptor; else `errno` says why. -/
def connectTcp (deadlineAbsUs : Nat) : Exec Env Bool := do
  let (resolved, addresses) ← setupCall .getaddrinfo
  if !resolved then return false
  else if ← deadlinePassed deadlineAbsUs then
    let _ ← setupCall .freeaddrinfo
    setErrno Errno.etimedout
    return false
  else
    let connected ← connectAddresses deadlineAbsUs addresses
    let _ ← setupCall .freeaddrinfo
    return connected

end Env

end GrpcLite
