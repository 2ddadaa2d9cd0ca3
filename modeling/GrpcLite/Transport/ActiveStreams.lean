import GrpcLite.Core.IntrusiveList
import GrpcLite.Transport.Session

/-!
# The linked list of active streams

The calls registered on a connection are linked through `next_active_stream`. The
GOAWAY callback walks these links and takes calls off while it does. The list that
the connection record keeps says in which order they are linked.
-/

namespace GrpcLite

/-- The transport state with the links of `active_streams` of one connection. -/
structure LinkedWorld where
  /-- The transport state. -/
  world : World
  /-- `active_streams` and the `next_active_stream` of every call. -/
  links : IntrusiveList.Links CallId

/-- A transport procedure that follows the links. -/
abbrev LinkedProc (α : Type) := Exec LinkedWorld α

namespace LinkedProc

/-- A procedure that leaves the links alone. -/
def onWorld {α : Type} (m : Proc α) : LinkedProc α :=
  Exec.zoom LinkedWorld.world (fun w s => { s with world := w }) m

/-- `unregister_grpc_call_stream`: behind its checks the call is taken off the links. -/
def unregisterGrpcCallStream (fuel : Nat) (c : CallId) : LinkedProc Unit := do
  let call := ((← get).world.calls c).call
  onWorld (Proc.unregisterGrpcCallStream c)
  Exec.when (call.connection.isSome ∧ call.streamRegistered = true ∧ 0 < call.streamId) <|
    modify fun s => { s with links := IntrusiveList.unlink fuel s.links c }

/-- The loop of the GOAWAY branch: the next call is read before the current one is taken off.
The fuel bounds this loop and the searches inside. -/
def refuseStreams (lastStreamId : Int) (fuel : Nat) : Nat → Option CallId → LinkedProc Unit
  | 0, _ => return
  | _ + 1, none => return
  | steps + 1, some c => do
    let s ← get
    let next := s.links.next c
    let streamId := (s.world.calls c).call.streamId
    Exec.when (streamId > 0 ∧ lastStreamId < streamId) do
      onWorld (Proc.input c .refused)
      unregisterGrpcCallStream fuel c
    refuseStreams lastStreamId fuel steps next

/-- The GOAWAY branch of `on_frame_recv_callback` along the links. -/
def onGoaway (k : ConnId) (fuel : Nat) (lastStreamId : Int) (errorCode : Nat) :
    LinkedProc Unit := do
  let active := (← get).links.head
  onWorld (Proc.setConn k (·.markDraining lastStreamId errorCode))
  Exec.when (lastStreamId ≠ Proc.int32Max) (refuseStreams lastStreamId fuel fuel active)
  onWorld (Proc.setConn k fun conn =>
    { conn with streams := conn.streams.map fun entry =>
        if entry.streamId > lastStreamId then { entry with closed := true } else entry })

/-- Several GOAWAY frames, each with its last stream and its error code. -/
def onGoaways (k : ConnId) (fuel : Nat) : List (Int × Nat) → LinkedProc Unit
  | [] => return
  | (lastStreamId, errorCode) :: rest => do
    onGoaway k fuel lastStreamId errorCode
    onGoaways k fuel rest

end LinkedProc

end GrpcLite
