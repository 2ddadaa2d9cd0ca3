import GrpcLite.Refinement.Operations
import GrpcLite.Transport.ActiveStreams

/-!
# Refused streams

A GOAWAY frame refuses exactly the active calls above its last stream. The links of
the list stay intact while the loop takes calls off, the others keep their records
and their order, and no call is refused twice.
-/

namespace GrpcLite

open IntrusiveList

namespace World

/-- The list of active streams of a connection and its counter. -/
structure ActiveInOrder (w : World) (k : ConnId) : Prop where
  /-- No call is there twice. -/
  nodup : (w.conns k).activeStreams.Nodup
  /-- A call on the list is registered on the connection and has a stream. -/
  registered : ∀ c ∈ (w.conns k).activeStreams, (w.calls c).call.streamRegistered = true ∧
    (w.calls c).call.connection = some k ∧ 0 < (w.calls c).call.streamId
  /-- The counter is the length of the list. -/
  count : (w.conns k).activeStreamCount = (w.conns k).activeStreams.length

/-- The list is in order in every state that moves reach. -/
theorem Sound.activeInOrder {w : World} (h : w.Sound) (k : ConnId) : w.ActiveInOrder k := by
  have hcounted := h.inv.counted
  refine ⟨hcounted.nodup k, fun c hc => ?_, hcounted.count k⟩
  obtain ⟨hreg, hconn⟩ := (hcounted.mem k c).mp hc
  exact ⟨hreg, hconn, (hcounted.registered c hreg).2⟩

/-- A GOAWAY frame with this last stream refuses the call. -/
def Refuses (w : World) (k : ConnId) (lastStreamId : Int) (c : CallId) : Prop :=
  lastStreamId ≠ Proc.int32Max ∧ c ∈ (w.conns k).activeStreams ∧
    lastStreamId < (w.calls c).call.streamId

instance (w : World) (k : ConnId) (lastStreamId : Int) (c : CallId) :
    Decidable (w.Refuses k lastStreamId c) :=
  inferInstanceAs (Decidable (_ ∧ _ ∧ _))

/-- What a GOAWAY frame does. -/
structure GoawayEffect (k : ConnId) (lastStreamId : Int) (errorCode : Nat) (w w' : World) :
    Prop where
  /-- The connection is draining. -/
  draining : (w'.conns k).draining = true ∧ (w'.conns k).lastGoawayStreamId = lastStreamId ∧
    (w'.conns k).lastGoawayErrorCode = errorCode
  /-- The calls above the last stream are closed, refused and no longer registered. -/
  refused : ∀ c, w.Refuses k lastStreamId c → (w'.calls c).call =
    { (w.calls c).call with
      streamErrorCode := Nghttp2.refusedStream
      streamRefusedSeen := true
      streamClosed := true
      streamRegistered := false }
  /-- Every other call is untouched. -/
  kept : ∀ c, ¬w.Refuses k lastStreamId c → w'.calls c = w.calls c
  /-- The others stay on the list in their order. -/
  active : (w'.conns k).activeStreams =
    (w.conns k).activeStreams.filter fun c => ¬w.Refuses k lastStreamId c
  /-- The counter drops by the number of the refused ones. -/
  count : (w'.conns k).activeStreamCount +
    ((w.conns k).activeStreams.filter fun c => w.Refuses k lastStreamId c).length =
      (w.conns k).activeStreamCount
  /-- The owners stay. -/
  owners : (w'.conns k).streamOwnerCount = (w.conns k).streamOwnerCount
  /-- No other connection is touched. -/
  others : ∀ k', k' ≠ k → w'.conns k' = w.conns k'

/-! ## One call -/

/-- The effect of refusing one call of the list. -/
def refuse (w : World) (k : ConnId) (c : CallId) : World :=
  if (w.conns k).dead then (w.input c .refused).unregister k c
  else ((w.input c .refused).log k .setUserData).unregister k c

theorem refuse_calls (w : World) (k : ConnId) (c : CallId) :
    (w.refuse k c).calls =
      Function.update w.calls c (((w.calls c).input .refused).input .unregistered) := by
  unfold refuse
  split <;> simp only [unregister, input, setCall, setConn, log, Function.update_self,
    Function.update_idem]

/-- A refused call leaves the list of its connection, and nothing else there changes. -/
theorem refuse_conn (w : World) (k : ConnId) (c : CallId) :
    ((w.refuse k c).conns k).activeStreams = (w.conns k).activeStreams.erase c ∧
      ((w.refuse k c).conns k).activeStreamCount = (w.conns k).activeStreamCount - 1 ∧
      ((w.refuse k c).conns k).streamOwnerCount = (w.conns k).streamOwnerCount ∧
      ((w.refuse k c).conns k).draining = (w.conns k).draining ∧
      ((w.refuse k c).conns k).lastGoawayStreamId = (w.conns k).lastGoawayStreamId ∧
      ((w.refuse k c).conns k).lastGoawayErrorCode = (w.conns k).lastGoawayErrorCode := by
  unfold refuse
  split <;> simp only [unregister, input, setCall, setConn, log, Function.update_self, and_self]

theorem refuse_conns_other (w : World) {k k' : ConnId} (h : k' ≠ k) (c : CallId) :
    (w.refuse k c).conns k' = w.conns k' := by
  unfold refuse
  split <;> exact Function.update_of_ne h ..

end World

namespace Proc

open World

/-- Behind its checks a call is always taken off. -/
theorem unregisterGrpcCallStream_run {w : World} {k : ConnId} {c : CallId}
    (hreg : (w.calls c).call.streamRegistered = true)
    (hconn : (w.calls c).call.connection = some k) (hpos : 0 < (w.calls c).call.streamId) :
    unregisterGrpcCallStream c w = some ((), if (w.conns k).dead then w.unregister k c
      else (w.log k .setUserData).unregister k c) := by
  have hcompletes : ∃ w', unregisterGrpcCallStream c w = some ((), w') := by
    have hguard : (!(w.calls c).call.streamRegistered ||
        decide ((w.calls c).call.streamId ≤ 0)) = false := by
      rw [hreg, Bool.not_true, Bool.false_or, decide_eq_false_iff_not]
      omega
    simp only [unregisterGrpcCallStream, call, bind_assoc, pure_bind, Exec.get_bind_run, hconn,
      hguard, Bool.false_eq_true, if_false, conn, Exec.when]
    split <;> exact ⟨_, rfl⟩
  obtain ⟨w', hrun⟩ := hcompletes
  rw [hrun]
  rcases unregisterGrpcCallStream_some hrun with ⟨-, hnone | hnot | hle⟩ |
    ⟨k', hk', -, ⟨hdead, rfl⟩ | ⟨hdead, rfl⟩⟩
  · rw [hconn] at hnone
    cases hnone
  · rw [hreg] at hnot
    cases hnot
  · omega
  · obtain rfl := Option.some.inj (hconn.symm.trans hk')
    rw [hdead, if_pos rfl]
  · obtain rfl := Option.some.inj (hconn.symm.trans hk')
    rw [hdead, if_neg Bool.false_ne_true]

end Proc

/-! ## The loop -/

namespace World

/-- The effect of the loop over a part of the list. -/
def refuseAll (k : ConnId) (lastStreamId : Int) : List CallId → World → World
  | [], w => w
  | c :: rest, w =>
    refuseAll k lastStreamId rest
      (if lastStreamId < (w.calls c).call.streamId then w.refuse k c else w)

/-- The calls are registered on the connection and have streams. -/
def Registered (w : World) (k : ConnId) (calls : List CallId) : Prop :=
  ∀ c ∈ calls, (w.calls c).call.streamRegistered = true ∧ (w.calls c).call.connection = some k ∧
    0 < (w.calls c).call.streamId

variable {w : World} {k : ConnId} {c : CallId} {rest : List CallId}

theorem refuse_calls_other {c' : CallId} (h : c' ≠ c) :
    (w.refuse k c).calls c' = w.calls c' := by
  rw [refuse_calls, Function.update_of_ne h]

/-- One turn of the loop leaves the calls behind it alone. -/
theorem turn_calls {c' : CallId} (h : c' ≠ c) (lastStreamId : Int) :
    (if lastStreamId < (w.calls c).call.streamId then w.refuse k c else w).calls c' =
      w.calls c' := by
  split
  · exact refuse_calls_other h
  · rfl

/-- A turn of the walk keeps what is left of the list registered. -/
theorem Registered.turn (h : w.Registered k (c :: rest)) (hnodup : (c :: rest).Nodup)
    (lastStreamId : Int) :
    (if lastStreamId < (w.calls c).call.streamId then w.refuse k c else w).Registered k rest := by
  intro c' hc'
  have hne : c' ≠ c := fun heq => (List.nodup_cons.mp hnodup).1 (heq ▸ hc')
  rw [turn_calls hne]
  exact h c' (List.mem_cons_of_mem _ hc')

/-- The walk refuses the calls above the last stream and no others. -/
theorem refuseAll_calls (lastStreamId : Int) (hnodup : rest.Nodup) (c : CallId) :
    (refuseAll k lastStreamId rest w).calls c =
      if c ∈ rest ∧ lastStreamId < (w.calls c).call.streamId then
        ((w.calls c).input .refused).input .unregistered
      else w.calls c := by
  induction rest generalizing w with
  | nil => rfl
  | cons c' rest ih =>
    obtain ⟨hnotin, hrest⟩ := List.nodup_cons.mp hnodup
    rw [refuseAll, ih hrest]
    by_cases hc : c = c'
    · subst hc
      have hnot : ∀ P : Prop, ¬(c ∈ rest ∧ P) := fun _ h => hnotin h.1
      rw [if_neg (hnot _)]
      by_cases hlast : lastStreamId < (w.calls c).call.streamId
      · rw [if_pos hlast, if_pos ⟨List.mem_cons_self, hlast⟩, refuse_calls, Function.update_self]
      · rw [if_neg hlast, if_neg fun h => hlast h.2]
    · rw [turn_calls hc]
      simp only [List.mem_cons, hc, false_or]

/-- What the loop does to the list and the counter of the connection. -/
theorem refuseAll_conn (lastStreamId : Int) (hnodup : rest.Nodup)
    (hactive : (w.conns k).activeStreams.Nodup) :
    ((refuseAll k lastStreamId rest w).conns k).activeStreams =
        (w.conns k).activeStreams.filter (fun c =>
          ¬(c ∈ rest ∧ lastStreamId < (w.calls c).call.streamId)) ∧
      ((refuseAll k lastStreamId rest w).conns k).activeStreamCount =
        (w.conns k).activeStreamCount -
          (rest.filter fun c => lastStreamId < (w.calls c).call.streamId).length := by
  induction rest generalizing w with
  | nil =>
    refine ⟨(List.filter_eq_self.mpr fun c _ => ?_).symm, rfl⟩
    simp only [List.not_mem_nil, false_and, not_false_iff, decide_true]
  | cons c rest ih =>
    obtain ⟨hnotin, hrest⟩ := List.nodup_cons.mp hnodup
    have hids : ∀ c' ∈ rest, (if lastStreamId < (w.calls c).call.streamId then w.refuse k c
        else w).calls c' = w.calls c' := by
      intro c' hc'
      have hne : c' ≠ c := fun heq => hnotin (heq ▸ hc')
      exact turn_calls hne lastStreamId
    rw [refuseAll]
    by_cases hlast : lastStreamId < (w.calls c).call.streamId
    · simp only [if_pos hlast] at hids ⊢
      obtain ⟨hstreams, hcount, -⟩ := w.refuse_conn k c
      obtain ⟨hlist, hnumber⟩ := ih hrest (w := w.refuse k c) (hstreams ▸ hactive.erase c)
      have hsame : (rest.filter fun c' => lastStreamId < ((w.refuse k c).calls c').call.streamId) =
          rest.filter fun c' => lastStreamId < (w.calls c').call.streamId :=
        List.filter_congr fun c' hc' => by rw [hids c' hc']
      refine ⟨?_, ?_⟩
      · rw [hlist, hstreams, hactive.erase_eq_filter, List.filter_filter]
        refine List.filter_congr fun c' _ => ?_
        by_cases hc : c' = c
        · subst hc
          simp [hlast]
        · rw [refuse_calls_other hc]
          simp [hc]
      · rw [hnumber, hcount, hsame, List.filter_cons_of_pos (by simpa using hlast),
          List.length_cons]
        omega
    · simp only [if_neg hlast]
      obtain ⟨hlist, hnumber⟩ := ih hrest (w := w) hactive
      refine ⟨?_, ?_⟩
      · rw [hlist]
        refine List.filter_congr fun c' _ => ?_
        by_cases hc : c' = c
        · subst hc
          simp [hlast]
        · simp [hc]
      · rw [hnumber, List.filter_cons_of_neg (by simpa using hlast)]

/-- What the loop leaves alone. -/
theorem refuseAll_frame (lastStreamId : Int) :
    ((refuseAll k lastStreamId rest w).conns k).streamOwnerCount =
        (w.conns k).streamOwnerCount ∧
      ((refuseAll k lastStreamId rest w).conns k).draining = (w.conns k).draining ∧
      ((refuseAll k lastStreamId rest w).conns k).lastGoawayStreamId =
        (w.conns k).lastGoawayStreamId ∧
      ((refuseAll k lastStreamId rest w).conns k).lastGoawayErrorCode =
        (w.conns k).lastGoawayErrorCode ∧
      ∀ k', k' ≠ k → (refuseAll k lastStreamId rest w).conns k' = w.conns k' := by
  induction rest generalizing w with
  | nil => exact ⟨rfl, rfl, rfl, rfl, fun _ _ => rfl⟩
  | cons c rest ih =>
    rw [refuseAll]
    split
    · obtain ⟨-, -, howners, hdraining, hid, hcode⟩ := w.refuse_conn k c
      obtain ⟨howners', hdraining', hid', hcode', hothers⟩ := ih (w := w.refuse k c)
      exact ⟨howners'.trans howners, hdraining'.trans hdraining, hid'.trans hid,
        hcode'.trans hcode, fun k' hk => (hothers k' hk).trans (w.refuse_conns_other hk c)⟩
    · exact ih (w := w)

end World

namespace Proc

open World

/-- Refusing a registered call takes it off its connection. -/
theorem refuse_run {w : World} {k : ConnId} {c : CallId}
    (h : (w.calls c).call.streamRegistered = true ∧ (w.calls c).call.connection = some k ∧
      0 < (w.calls c).call.streamId) :
    unregisterGrpcCallStream c (w.input c .refused) = some ((), w.refuse k c) := by
  obtain ⟨hreg, hconn, hpos⟩ := h
  refine unregisterGrpcCallStream_run (k := k) ?_ ?_ ?_
  · rw [input_calls_self]
    exact hreg
  · rw [input_calls_self]
    exact hconn
  · rw [input_calls_self]
    exact hpos

/-- The walk over registered calls ends and refuses those above the last stream. -/
theorem refuseStreams_run {k : ConnId} (lastStreamId : Int) {rest : List CallId} {w : World}
    (hnodup : rest.Nodup) (h : w.Registered k rest) :
    refuseStreams k lastStreamId rest w = some ((), refuseAll k lastStreamId rest w) := by
  induction rest generalizing w with
  | nil => rfl
  | cons c rest ih =>
    have hturn := ih (List.nodup_cons.mp hnodup).2 (h.turn hnodup lastStreamId)
    have hc := h c List.mem_cons_self
    refine Exec.bind_some.mpr ⟨(w.calls c).call, w, rfl, ?_⟩
    refine Exec.bind_some.mpr ⟨(), _, ?_, hturn⟩
    by_cases hlast : lastStreamId < (w.calls c).call.streamId
    · rw [if_pos hlast]
      refine Exec.when_some.mpr (.inl ⟨⟨hc.2.2, hlast⟩, ?_⟩)
      exact Exec.bind_some.mpr ⟨(), w.input c .refused, rfl, refuse_run hc⟩
    · rw [if_neg hlast]
      exact Exec.when_some.mpr (.inr ⟨fun hboth => hlast hboth.2, rfl⟩)

end Proc

namespace LinkedProc

open World

theorem onWorld_run {α : Type} {m : Proc α} {w w' : World} {a : α} (h : m w = some (a, w'))
    (l : Links CallId) : onWorld m ⟨w, l⟩ = some (a, ⟨w', l⟩) :=
  Exec.zoom_some.mpr ⟨w', h, rfl⟩

/-- The loop along the links visits the list and leaves links that carry what remains of it. -/
theorem refuseStreams_linked {k : ConnId} (lastStreamId : Int) {fuel : Nat}
    {before rest : List CallId} {w : World} {l : Links CallId} {cursor : Option CallId}
    {steps : Nat} (h : w.Registered k rest) (hl : Represents l (before ++ rest))
    (hcursor : Chain l.next cursor rest) (hsteps : rest.length ≤ steps)
    (hfuel : (before ++ rest).length ≤ fuel) :
    ∃ l', refuseStreams lastStreamId fuel steps cursor ⟨w, l⟩ =
        some ((), ⟨refuseAll k lastStreamId rest w, l'⟩) ∧
      Represents l' (before ++ rest.filter fun c =>
        ¬lastStreamId < (w.calls c).call.streamId) := by
  induction rest generalizing before w l cursor steps with
  | nil =>
    obtain rfl : cursor = none := hcursor
    refine ⟨l, ?_, hl⟩
    cases steps <;> rfl
  | cons c rest ih =>
    obtain ⟨rfl, hnext⟩ := hcursor
    cases steps with
    | zero => exact absurd hsteps (Nat.not_succ_le_zero _)
    | succ steps =>
      have hnodup : (c :: rest).Nodup := (List.nodup_append.mp hl.nodup).2.1
      have hc := h c List.mem_cons_self
      have hids : (rest.filter fun c' => ¬lastStreamId < ((if lastStreamId <
          (w.calls c).call.streamId then w.refuse k c else w).calls c').call.streamId) =
          rest.filter fun c' => ¬lastStreamId < (w.calls c').call.streamId := by
        refine List.filter_congr fun c' hc' => ?_
        have hne : c' ≠ c := fun heq => (List.nodup_cons.mp hnodup).1 (heq ▸ hc')
        rw [turn_calls hne]
      have hbefore : before.length ≤ fuel := by
        rw [List.length_append] at hfuel
        omega
      by_cases hlast : lastStreamId < (w.calls c).call.streamId
      · obtain ⟨hunlinked, hbehind, -⟩ := hl.unlink hbefore
        have hshort : (before ++ rest).length ≤ fuel := by
          rw [List.length_append, List.length_cons] at hfuel
          rw [List.length_append]
          omega
        obtain ⟨l', hrun, hl'⟩ := ih (h.turn hnodup lastStreamId) hunlinked hbehind
          (Nat.le_of_succ_le_succ hsteps) hshort
        refine ⟨l', ?_, ?_⟩
        · refine Exec.bind_some.mpr ⟨⟨w, l⟩, ⟨w, l⟩, rfl, ?_⟩
          refine Exec.bind_some.mpr ⟨(), ⟨w.refuse k c, unlink fuel l c⟩, ?_, ?_⟩
          · refine Exec.when_some.mpr (.inl ⟨⟨hc.2.2, hlast⟩, ?_⟩)
            refine Exec.bind_some.mpr ⟨(), ⟨w.input c .refused, l⟩, onWorld_run rfl l, ?_⟩
            refine Exec.bind_some.mpr ⟨⟨w.input c .refused, l⟩, _, rfl, ?_⟩
            refine Exec.bind_some.mpr
              ⟨(), ⟨w.refuse k c, l⟩, onWorld_run (Proc.refuse_run hc) l, ?_⟩
            refine Exec.when_some.mpr (.inl ⟨?_, rfl⟩)
            rw [input_calls_self]
            exact ⟨Option.isSome_iff_exists.mpr ⟨k, hc.2.1⟩, hc.1, hc.2.2⟩
          · rw [if_pos hlast] at hrun
            rw [refuseAll, if_pos hlast]
            exact hrun
        · rw [hids] at hl'
          rw [List.filter_cons_of_neg (by simpa using hlast)]
          exact hl'
      · have hmoved : Represents l ((before ++ [c]) ++ rest) := by
          rw [List.append_assoc, List.singleton_append]
          exact hl
        have hlong : ((before ++ [c]) ++ rest).length ≤ fuel := by
          rw [List.append_assoc, List.singleton_append]
          exact hfuel
        obtain ⟨l', hrun, hl'⟩ := ih (h.turn hnodup lastStreamId) hmoved hnext
          (Nat.le_of_succ_le_succ hsteps) hlong
        refine ⟨l', ?_, ?_⟩
        · refine Exec.bind_some.mpr ⟨⟨w, l⟩, ⟨w, l⟩, rfl, ?_⟩
          refine Exec.bind_some.mpr ⟨(), ⟨w, l⟩, ?_, ?_⟩
          · exact Exec.when_some.mpr (.inr ⟨fun hboth => hlast hboth.2, rfl⟩)
          · rw [if_neg hlast] at hrun
            rw [refuseAll, if_neg hlast]
            exact hrun
        · rw [hids, List.append_assoc, List.singleton_append] at hl'
          rw [List.filter_cons_of_pos (by simpa using hlast)]
          exact hl'

end LinkedProc

/-! ## The callback -/

namespace World

/-- The library closes the streams above the last one. -/
def closeAbove (w : World) (k : ConnId) (lastStreamId : Int) : World :=
  w.setConn k fun conn =>
    { conn with streams := conn.streams.map fun entry =>
        if entry.streamId > lastStreamId then { entry with closed := true } else entry }

/-- The effect of a GOAWAY frame. -/
def goaway (w : World) (k : ConnId) (lastStreamId : Int) (errorCode : Nat) : World :=
  let drained := w.setConn k (·.markDraining lastStreamId errorCode)
  World.closeAbove
    (if lastStreamId ≠ Proc.int32Max then
      refuseAll k lastStreamId (w.conns k).activeStreams drained
    else drained) k lastStreamId

variable {w : World} {k : ConnId}

/-- Draining leaves the calls and the list alone. -/
theorem ActiveInOrder.registered_drained (h : w.ActiveInOrder k) (lastStreamId : Int)
    (errorCode : Nat) : (w.setConn k (·.markDraining lastStreamId errorCode)).Registered k
      (w.conns k).activeStreams :=
  h.registered

theorem closeAbove_conn (w : World) (k : ConnId) (lastStreamId : Int) :
    ((w.closeAbove k lastStreamId).conns k).activeStreams = (w.conns k).activeStreams ∧
      ((w.closeAbove k lastStreamId).conns k).activeStreamCount =
        (w.conns k).activeStreamCount ∧
      ((w.closeAbove k lastStreamId).conns k).streamOwnerCount = (w.conns k).streamOwnerCount ∧
      ((w.closeAbove k lastStreamId).conns k).draining = (w.conns k).draining ∧
      ((w.closeAbove k lastStreamId).conns k).lastGoawayStreamId =
        (w.conns k).lastGoawayStreamId ∧
      ((w.closeAbove k lastStreamId).conns k).lastGoawayErrorCode =
        (w.conns k).lastGoawayErrorCode := by
  simp only [closeAbove, setConn_conns_self, and_self]

theorem drained_conn (w : World) (k : ConnId) (lastStreamId : Int) (errorCode : Nat) :
    (w.setConn k (·.markDraining lastStreamId errorCode)).conns k =
      (w.conns k).markDraining lastStreamId errorCode :=
  setConn_conns_self w k _

/-- A GOAWAY refuses exactly the calls above the last stream. -/
theorem goaway_calls (h : w.ActiveInOrder k) (lastStreamId : Int) (errorCode : Nat) (c : CallId) :
    (w.goaway k lastStreamId errorCode).calls c =
      if w.Refuses k lastStreamId c then ((w.calls c).input .refused).input .unregistered
      else w.calls c := by
  change World.calls (if lastStreamId ≠ Proc.int32Max then _ else _) c = _
  by_cases hlast : lastStreamId = Proc.int32Max
  · have hnot : ¬w.Refuses k lastStreamId c := fun hrefuses => hrefuses.1 hlast
    rw [if_neg (not_not.mpr hlast), if_neg hnot]
    rfl
  · rw [if_pos hlast, refuseAll_calls lastStreamId h.nodup]
    simp only [Refuses, ne_eq, hlast, not_false_iff, true_and]
    rfl

/-- The others stay on the list in their order. -/
theorem goaway_active (h : w.ActiveInOrder k) (lastStreamId : Int) (errorCode : Nat) :
    ((w.goaway k lastStreamId errorCode).conns k).activeStreams =
        (w.conns k).activeStreams.filter (fun c => ¬w.Refuses k lastStreamId c) ∧
      ((w.goaway k lastStreamId errorCode).conns k).activeStreamCount =
        (w.conns k).activeStreamCount -
          ((w.conns k).activeStreams.filter fun c => w.Refuses k lastStreamId c).length := by
  obtain ⟨hclosed, hclosedCount, -⟩ := closeAbove_conn (if lastStreamId ≠ Proc.int32Max then
      refuseAll k lastStreamId (w.conns k).activeStreams
        (w.setConn k (·.markDraining lastStreamId errorCode))
    else w.setConn k (·.markDraining lastStreamId errorCode)) k lastStreamId
  rw [goaway, hclosed, hclosedCount]
  by_cases hlast : lastStreamId = Proc.int32Max
  · have hnot : ∀ c, ¬w.Refuses k lastStreamId c := fun c hrefuses => hrefuses.1 hlast
    simp only [ne_eq, hlast, not_true_eq_false, if_false, setConn_conns_self]
    simp only [← hlast, hnot, not_false_iff, decide_true, List.filter_true, decide_false,
      List.filter_false, List.length_nil, Nat.sub_zero]
    exact ⟨rfl, rfl⟩
  · rw [if_pos hlast]
    have hdrained : ((w.setConn k (·.markDraining lastStreamId errorCode)).conns k).activeStreams =
        (w.conns k).activeStreams := by
      rw [drained_conn]
      rfl
    obtain ⟨hlist, hcount⟩ := refuseAll_conn lastStreamId h.nodup
      (w := w.setConn k (·.markDraining lastStreamId errorCode)) (hdrained ▸ h.nodup)
    refine ⟨?_, ?_⟩
    · rw [hlist, hdrained]
      refine List.filter_congr fun c _ => ?_
      simp only [Refuses, ne_eq, hlast, not_false_iff, true_and]
      rfl
    · rw [hcount, drained_conn]
      have hsame : ((w.conns k).activeStreams.filter fun c => lastStreamId <
          ((w.setConn k (·.markDraining lastStreamId errorCode)).calls c).call.streamId) =
          (w.conns k).activeStreams.filter fun c => w.Refuses k lastStreamId c := by
        refine List.filter_congr fun c hc => ?_
        simp only [Refuses, ne_eq, hlast, not_false_iff, true_and, hc]
        rfl
      rw [hsame]
      rfl

/-- The effect of one GOAWAY. -/
theorem goaway_effect (h : w.ActiveInOrder k) (lastStreamId : Int) (errorCode : Nat) :
    GoawayEffect k lastStreamId errorCode w (w.goaway k lastStreamId errorCode) := by
  obtain ⟨hlist, hcount⟩ := goaway_active h lastStreamId errorCode
  obtain ⟨-, -, howners, hdraining, hid, hcode⟩ := closeAbove_conn (if lastStreamId ≠
      Proc.int32Max then refuseAll k lastStreamId (w.conns k).activeStreams
        (w.setConn k (·.markDraining lastStreamId errorCode))
    else w.setConn k (·.markDraining lastStreamId errorCode)) k lastStreamId
  have hmiddle : ∀ w₂ : World, w₂ = (if lastStreamId ≠ Proc.int32Max then refuseAll k lastStreamId
        (w.conns k).activeStreams (w.setConn k (·.markDraining lastStreamId errorCode))
      else w.setConn k (·.markDraining lastStreamId errorCode)) →
      (w₂.conns k).streamOwnerCount = (w.conns k).streamOwnerCount ∧
        (w₂.conns k).draining = true ∧ (w₂.conns k).lastGoawayStreamId = lastStreamId ∧
        (w₂.conns k).lastGoawayErrorCode = errorCode ∧
        ∀ k', k' ≠ k → w₂.conns k' = w.conns k' := by
    rintro w₂ rfl
    split
    · obtain ⟨h₁, h₂, h₃, h₄, h₅⟩ := @refuseAll_frame
        (w.setConn k (·.markDraining lastStreamId errorCode)) k (w.conns k).activeStreams
        lastStreamId
      rw [drained_conn] at h₁ h₂ h₃ h₄
      exact ⟨h₁, h₂, h₃, h₄, fun k' hk => (h₅ k' hk).trans (Function.update_of_ne hk ..)⟩
    · rw [drained_conn]
      exact ⟨rfl, rfl, rfl, rfl, fun k' hk => Function.update_of_ne hk ..⟩
  obtain ⟨howners', hdraining', hid', hcode', hothers⟩ := hmiddle _ rfl
  refine ⟨⟨hdraining.trans hdraining', hid.trans hid', hcode.trans hcode'⟩, fun c hc => ?_,
    fun c hc => ?_, hlist, ?_, howners.trans howners', fun k' hk => ?_⟩
  · rw [goaway_calls h, if_pos hc]
    rfl
  · rw [goaway_calls h, if_neg hc]
  · have hle := List.length_filter_le (fun c => decide (w.Refuses k lastStreamId c))
      (w.conns k).activeStreams
    have hlength := h.count
    rw [hcount]
    omega
  · exact (Function.update_of_ne hk ..).trans (hothers k' hk)

/-- The list is in order behind a GOAWAY frame as well. -/
theorem ActiveInOrder.goaway (h : w.ActiveInOrder k) (lastStreamId : Int) (errorCode : Nat) :
    (w.goaway k lastStreamId errorCode).ActiveInOrder k := by
  have heffect := goaway_effect h lastStreamId errorCode
  refine ⟨?_, fun c hc => ?_, ?_⟩
  · rw [heffect.active]
    exact h.nodup.filter _
  · rw [heffect.active, List.mem_filter, decide_eq_true_eq] at hc
    rw [heffect.kept c hc.2]
    exact h.registered c hc.1
  · have hcount := heffect.count
    have hlength := List.length_eq_length_filter_add
      (l := (w.conns k).activeStreams) fun c => decide (w.Refuses k lastStreamId c)
    rw [h.count] at hcount
    rw [heffect.active]
    simp only [decide_not]
    omega

/-- The effect of several GOAWAY frames. -/
def goaways (w : World) (k : ConnId) : List (Int × Nat) → World
  | [] => w
  | (lastStreamId, errorCode) :: rest => (w.goaway k lastStreamId errorCode).goaways k rest

/-- A call that is not on the list is never refused. -/
theorem goaways_calls_other (h : w.ActiveInOrder k) (frames : List (Int × Nat)) {c : CallId}
    (hc : c ∉ (w.conns k).activeStreams) : (w.goaways k frames).calls c = w.calls c := by
  induction frames generalizing w with
  | nil => rfl
  | cons frame rest ih =>
    obtain ⟨lastStreamId, errorCode⟩ := frame
    have heffect := goaway_effect h lastStreamId errorCode
    have hnot : c ∉ ((w.goaway k lastStreamId errorCode).conns k).activeStreams := by
      rw [heffect.active]
      exact fun hmem => hc (List.mem_of_mem_filter hmem)
    rw [goaways, ih (h.goaway lastStreamId errorCode) hnot]
    exact heffect.kept c fun hrefuses => hc hrefuses.2.1

/-- A refused call is off the list, so it is refused at most once. -/
theorem goaways_refused (h : w.ActiveInOrder k) (frames : List (Int × Nat)) (c : CallId) :
    ((w.goaways k frames).calls c).inputs.count .refused ≤
      (w.calls c).inputs.count .refused + 1 := by
  induction frames generalizing w with
  | nil => exact Nat.le_succ _
  | cons frame rest ih =>
    obtain ⟨lastStreamId, errorCode⟩ := frame
    have heffect := goaway_effect h lastStreamId errorCode
    have hnext := h.goaway lastStreamId errorCode
    rw [goaways]
    by_cases hrefuses : w.Refuses k lastStreamId c
    · have hnot : c ∉ ((w.goaway k lastStreamId errorCode).conns k).activeStreams := by
        rw [heffect.active, List.mem_filter, decide_eq_true_eq]
        exact fun hmem => hmem.2 hrefuses
      rw [goaways_calls_other hnext rest hnot, goaway_calls h, if_pos hrefuses]
      simp only [TrackedCall.input, List.count_append]
      rfl
    · rw [← heffect.kept c hrefuses]
      exact ih hnext

end World

namespace Proc

open World

/-- The callback for GOAWAY ends. -/
theorem onGoaway_run {w : World} {k : ConnId} (h : w.ActiveInOrder k) (lastStreamId : Int)
    (errorCode : Nat) :
    onGoaway k lastStreamId errorCode w = some ((), w.goaway k lastStreamId errorCode) := by
  refine Exec.bind_some.mpr ⟨w.conns k, w, rfl, ?_⟩
  refine Exec.bind_some.mpr ⟨(), _, rfl, ?_⟩
  refine Exec.bind_some.mpr ⟨(), _, ?_, rfl⟩
  by_cases hlast : lastStreamId = int32Max
  · exact Exec.when_some.mpr (.inr ⟨not_not.mpr hlast, by rw [if_neg (not_not.mpr hlast)]⟩)
  · refine Exec.when_some.mpr (.inl ⟨hlast, ?_⟩)
    rw [if_pos hlast]
    exact refuseStreams_run lastStreamId h.nodup (h.registered_drained lastStreamId errorCode)

end Proc

namespace LinkedProc

open World

/-- The callback along the links ends in the same state, with links that carry its list. -/
theorem onGoaway_run {w : World} {k : ConnId} {l : Links CallId} {fuel : Nat}
    (h : w.ActiveInOrder k) (hl : Represents l (w.conns k).activeStreams)
    (hfuel : (w.conns k).activeStreams.length ≤ fuel) (lastStreamId : Int) (errorCode : Nat) :
    ∃ l', onGoaway k fuel lastStreamId errorCode ⟨w, l⟩ =
        some ((), ⟨w.goaway k lastStreamId errorCode, l'⟩) ∧
      Represents l' ((w.goaway k lastStreamId errorCode).conns k).activeStreams := by
  have hactive := (goaway_active h lastStreamId errorCode).1
  by_cases hlast : lastStreamId = Proc.int32Max
  · refine ⟨l, ?_, ?_⟩
    · refine Exec.bind_some.mpr ⟨⟨w, l⟩, ⟨w, l⟩, rfl, ?_⟩
      refine Exec.bind_some.mpr ⟨(), _, onWorld_run rfl l, ?_⟩
      refine Exec.bind_some.mpr ⟨(), _, ?_, onWorld_run rfl l⟩
      exact Exec.when_some.mpr (.inr ⟨not_not.mpr hlast, by rw [if_neg (not_not.mpr hlast)]⟩)
    · have hnot : ∀ c, ¬w.Refuses k lastStreamId c := fun c hrefuses => hrefuses.1 hlast
      simp only [hactive, hnot, not_false_iff, decide_true, List.filter_true]
      exact hl
  · obtain ⟨l', hrun, hl'⟩ := @refuseStreams_linked k lastStreamId fuel []
      (w.conns k).activeStreams (w.setConn k (·.markDraining lastStreamId errorCode)) l l.head fuel
      (h.registered_drained lastStreamId errorCode) hl hl.chain hfuel hfuel
    refine ⟨l', ?_, ?_⟩
    · refine Exec.bind_some.mpr ⟨⟨w, l⟩, ⟨w, l⟩, rfl, ?_⟩
      refine Exec.bind_some.mpr ⟨(), _, onWorld_run rfl l, ?_⟩
      refine Exec.bind_some.mpr ⟨(), _, ?_, onWorld_run rfl l'⟩
      refine Exec.when_some.mpr (.inl ⟨hlast, ?_⟩)
      rw [if_pos hlast]
      exact hrun
    · have hsame : ((w.conns k).activeStreams.filter fun c => ¬w.Refuses k lastStreamId c) =
          (w.conns k).activeStreams.filter fun c => ¬lastStreamId <
            ((w.setConn k (·.markDraining lastStreamId errorCode)).calls c).call.streamId := by
        refine List.filter_congr fun c hc => ?_
        simp only [Refuses, ne_eq, hlast, not_false_iff, true_and, hc]
        rfl
      rw [hactive, hsame]
      exact hl'

/-- Any number of GOAWAY frames is handled, each walking over the links of the list. -/
theorem onGoaways_run {w : World} {k : ConnId} {l : Links CallId} {fuel : Nat}
    (h : w.ActiveInOrder k) (hl : Represents l (w.conns k).activeStreams)
    (hfuel : (w.conns k).activeStreams.length ≤ fuel) (frames : List (Int × Nat)) :
    ∃ l', onGoaways k fuel frames ⟨w, l⟩ = some ((), ⟨w.goaways k frames, l'⟩) ∧
      Represents l' ((w.goaways k frames).conns k).activeStreams := by
  induction frames generalizing w l with
  | nil => exact ⟨l, rfl, hl⟩
  | cons frame rest ih =>
    obtain ⟨lastStreamId, errorCode⟩ := frame
    obtain ⟨l₁, hrun, hl₁⟩ := onGoaway_run h hl hfuel lastStreamId errorCode
    have hshort : ((w.goaway k lastStreamId errorCode).conns k).activeStreams.length ≤ fuel := by
      rw [(goaway_active h lastStreamId errorCode).1]
      exact (List.length_filter_le _ _).trans hfuel
    obtain ⟨l', hrest, hl'⟩ := ih (h.goaway lastStreamId errorCode) hl₁ hshort
    exact ⟨l', Exec.bind_some.mpr ⟨(), _, hrun, hrest⟩, hl'⟩

end LinkedProc

/-- In every state that moves reach the list of active streams is in order. From any such state a
GOAWAY frame refuses exactly the calls above its last stream, along the links as in the list, and
any sequence of frames refuses every call at most once. -/
theorem goaway_refusesExactly :
    (∀ (env : Env) (config : Config) (w : World),
      World.Steps { env := env, config := config } w → ∀ k, w.ActiveInOrder k) ∧
    ∀ (w : World) (k : ConnId) (l : Links CallId) (fuel : Nat), w.ActiveInOrder k →
      Represents l (w.conns k).activeStreams → (w.conns k).activeStreams.length ≤ fuel →
      (∀ (lastStreamId : Int) (errorCode : Nat), ∃ w' l',
        LinkedProc.onGoaway k fuel lastStreamId errorCode ⟨w, l⟩ = some ((), ⟨w', l'⟩) ∧
          Proc.onGoaway k lastStreamId errorCode w = some ((), w') ∧
          World.GoawayEffect k lastStreamId errorCode w w' ∧ w'.ActiveInOrder k ∧
          Represents l' (w'.conns k).activeStreams) ∧
      ∀ frames : List (Int × Nat), ∃ w' l',
        LinkedProc.onGoaways k fuel frames ⟨w, l⟩ = some ((), ⟨w', l'⟩) ∧
          Represents l' (w'.conns k).activeStreams ∧
          ∀ c, (w'.calls c).inputs.count .refused ≤ (w.calls c).inputs.count .refused + 1 := by
  refine ⟨fun env config w hsteps k =>
      ((World.orderly_start env config).sound.steps hsteps).activeInOrder k,
    fun w k l fuel h hl hfuel => ⟨fun lastStreamId errorCode => ?_, fun frames => ?_⟩⟩
  · obtain ⟨l', hrun, hl'⟩ := LinkedProc.onGoaway_run h hl hfuel lastStreamId errorCode
    exact ⟨_, l', hrun, Proc.onGoaway_run h lastStreamId errorCode,
      World.goaway_effect h lastStreamId errorCode, h.goaway lastStreamId errorCode, hl'⟩
  · obtain ⟨l', hrun, hl'⟩ := LinkedProc.onGoaways_run h hl hfuel frames
    exact ⟨_, l', hrun, hl', World.goaways_refused h frames⟩

/-- A connection with the streams 1, 3, 5 and 7, the last one first. -/
def fourStreams : World where
  conns := fun _ => { activeStreams := [3, 2, 1, 0], activeStreamCount := 4, streamOwnerCount := 4 }
  calls := fun c =>
    { call := { streamId := 2 * c + 1, connection := some 0, streamRegistered := true } }

/-- Two adjacent calls at the head of the list are refused. -/
theorem goaway_refusesExactly_adjacent : ∃ w' l',
    LinkedProc.onGoaway 0 4 3 0 ⟨fourStreams, ⟨some 3, fun c => if c = 0 then none else some (c - 1)⟩⟩ =
        some ((), ⟨w', l'⟩) ∧
      (w'.conns 0).activeStreams = [1, 0] ∧ Represents l' (w'.conns 0).activeStreams := by
  obtain ⟨w', l', hrun, -, heffect, -, hl'⟩ := (goaway_refusesExactly.2 fourStreams 0
    ⟨some 3, fun c => if c = 0 then none else some (c - 1)⟩ 4
    ⟨by decide, fun c hc => ⟨rfl, rfl, by simp only [fourStreams]; omega⟩, rfl⟩
    ⟨⟨rfl, rfl, rfl, rfl, rfl⟩, by decide⟩ (by decide)).1 3 0
  exact ⟨w', l', hrun, heffect.active.trans (by decide), hl'⟩

end GrpcLite
