import GrpcLite.Core.LinkedQueue
import GrpcLite.Refinement.Inputs

/-!
# The queue of received messages

The counters beside the queue of a call are its length and the sum of its payload
lengths, whatever the order of chunks, pops and releases. The linked nodes of the
source carry the same list. A message queued while another call is reading leaves
the queue within the read-ahead limits.
-/

namespace GrpcLite

/-- The counters beside the queue are exact. -/
structure GrpcCall.QueueCounted (call : GrpcCall) : Prop where
  /-- The counter of the payloads is their number. -/
  count : call.responseQueueCount = call.responseQueue.length
  /-- The counter of the bytes is the sum of the payload lengths. -/
  bytes : call.responseQueueBytes = (call.responseQueue.map List.length).sum

namespace GrpcCall.QueueCounted

variable {call call' : GrpcCall}

/-- A change that leaves the queue and its counters alone. -/
theorem of_same (h : call.QueueCounted) (hqueue : call'.responseQueue = call.responseQueue)
    (hcount : call'.responseQueueCount = call.responseQueueCount)
    (hbytes : call'.responseQueueBytes = call.responseQueueBytes) : call'.QueueCounted := by
  refine ⟨?_, ?_⟩
  · rw [hcount, hqueue, h.count]
  · rw [hbytes, hqueue, h.bytes]

/-- The subtractions of a pop do not go below zero. -/
theorem pop_room (h : call.QueueCounted) {payload : Bytes} {rest : List Bytes}
    (hqueue : call.responseQueue = payload :: rest) :
    1 ≤ call.responseQueueCount ∧ payload.length ≤ call.responseQueueBytes := by
  rw [h.count, h.bytes, hqueue, List.length_cons, List.map_cons, List.sum_cons]
  omega

/-- The counters behind a pop. -/
theorem pop (h : call.QueueCounted) {payload : Bytes} {rest : List Bytes}
    (hqueue : call.responseQueue = payload :: rest) (hqueue' : call'.responseQueue = rest)
    (hcount : call'.responseQueueCount = call.responseQueueCount - 1)
    (hbytes : call'.responseQueueBytes = call.responseQueueBytes - payload.length) :
    call'.QueueCounted := by
  refine ⟨?_, ?_⟩
  · rw [hcount, hqueue', h.count, hqueue, List.length_cons, Nat.add_sub_cancel]
  · rw [hbytes, hqueue', h.bytes, hqueue, List.map_cons, List.sum_cons, Nat.add_sub_cancel_left]

end GrpcCall.QueueCounted

/-- The input can edit the queue. -/
def CallInput.editsQueue : CallInput → Bool
  | .event _ _ _ | .dequeue | .take | .freeQueue => true
  | _ => false

/-! ## Chunks -/

/-- Counters that are exact stay so. -/
theorem Enqueues.counted {ra : ReadAhead} {a b : GrpcCall} {xs : List Bytes}
    (h : Enqueues ra a b xs) (hcounted : a.QueueCounted) : b.QueueCounted := by
  refine ⟨?_, ?_⟩
  · rw [h.count, h.queue, List.length_append, hcounted.count]
  · rw [h.bytes, h.queue, List.map_append, List.sum_append, hcounted.bytes]

namespace GrpcCall

/-- Header blocks queue nothing. -/
theorem enqueues_of_eraseHeaders {ra : ReadAhead} {call call' : GrpcCall}
    (h : call'.eraseHeaders = call.eraseHeaders) : Enqueues ra call call' [] :=
  .none (field_of_eraseHeaders h responseQueue fun _ => rfl)
    (field_of_eraseHeaders h responseQueueCount fun _ => rfl)
    (field_of_eraseHeaders h responseQueueBytes fun _ => rfl)
    (field_of_eraseHeaders h connection fun _ => rfl)
    (field_of_eraseHeaders h queueResponsePayloads fun _ => rfl)

/-- What a callback does to the queue of its call. -/
theorem apply_event_enqueues {call : GrpcCall} (h : call.Direct) (ra : ReadAhead)
    (answers : List Int) (event : StreamEvent) :
    ∃ new, Enqueues ra call (call.apply (.event ra answers event)) new := by
  cases event with
  | header cat name value =>
    exact ⟨[], enqueues_of_eraseHeaders (call.apply_header_eraseHeaders ra answers cat name value)⟩
  | headersEnd cat endStream =>
    exact ⟨[], enqueues_of_eraseHeaders (call.apply_headersEnd_eraseHeaders ra answers cat endStream)⟩
  | data bytes =>
    rcases call.apply_data h ra answers bytes with ⟨hsame, -⟩ | ⟨-, hreject⟩ | ⟨hseen, hdata⟩
    · rw [hsame]
      exact ⟨[], .none rfl rfl rfl rfl rfl⟩
    · rw [hreject]
      exact ⟨[], .none rfl rfl rfl rfl rfl⟩
    · rw [hdata]
      exact (CallbackState.processResponseDataDirect_moves ra bytes ⟨call, answers, []⟩ hseen).enqueues
  | rstStream code => exact ⟨[], .none rfl rfl rfl rfl rfl⟩
  | pushPromise =>
    simp only [apply, CallbackState.onEvent, CallbackState.onPushPromise,
      CallbackState.submitRstStream_call]
    exact ⟨[], .none rfl rfl rfl rfl rfl⟩
  | closed code => exact ⟨[], .none rfl rfl rfl rfl rfl⟩

/-! ## Pops and releases -/

/-- A pull removes the first payload, with its counters. -/
theorem apply_dequeue_cons {call : GrpcCall} {payload : Bytes} {rest : List Bytes}
    (h : call.responseQueue = payload :: rest) :
    call.apply .dequeue = { call with
      responseQueue := rest
      responseQueueCount := call.responseQueueCount - 1
      responseQueueBytes := call.responseQueueBytes - payload.length } := by
  simp only [apply, dequeueResponsePayload, h]

theorem apply_dequeue_nil {call : GrpcCall} (h : call.responseQueue = []) :
    call.apply .dequeue = call := by
  simp only [apply, dequeueResponsePayload, h]

/-- With exact counters the guards of the unary pop make no difference. -/
theorem apply_take_cons {call : GrpcCall} (hcounted : call.QueueCounted) {payload : Bytes}
    {rest : List Bytes} (h : call.responseQueue = payload :: rest) :
    call.apply .take = { call with
      responseQueue := rest
      responseQueueCount := call.responseQueueCount - 1
      responseQueueBytes := call.responseQueueBytes - payload.length } := by
  have hroom : call.responseQueueBytes ≥ payload.length := (hcounted.pop_room h).2
  simp only [apply, unaryTakeResponsePayload, h, if_pos hroom]

theorem apply_take_nil {call : GrpcCall} (h : call.responseQueue = []) :
    call.apply .take = call := by
  simp only [apply, unaryTakeResponsePayload, h]

theorem apply_queue_of_not_edits (call : GrpcCall) {i : CallInput} (h : i.editsQueue = false) :
    (call.apply i).responseQueue = call.responseQueue ∧
      (call.apply i).responseQueueCount = call.responseQueueCount ∧
      (call.apply i).responseQueueBytes = call.responseQueueBytes := by
  cases i with
  | event | dequeue | take | freeQueue => cases h
  | connectionBroken errno detail =>
    simp only [apply]
    split <;> exact ⟨rfl, rfl, rfl⟩
  | refused | submitted | registered | unregistered | ownerCleared | timedOut | ioError
  | locallyCancelled | userCancelled | truncated | requestSent => exact ⟨rfl, rfl, rfl⟩

theorem QueueCounted.apply {call : GrpcCall} (h : call.QueueCounted) (hdirect : call.Direct)
    (i : CallInput) : (call.apply i).QueueCounted := by
  by_cases hedit : i.editsQueue = true
  · cases i with
    | event ra answers event =>
      obtain ⟨new, hnew⟩ := call.apply_event_enqueues hdirect ra answers event
      exact hnew.counted h
    | dequeue =>
      cases hqueue : call.responseQueue with
      | nil => rwa [apply_dequeue_nil hqueue]
      | cons payload rest =>
        rw [apply_dequeue_cons hqueue]
        exact h.pop hqueue rfl rfl rfl
    | take =>
      cases hqueue : call.responseQueue with
      | nil => rwa [apply_take_nil hqueue]
      | cons payload rest =>
        rw [apply_take_cons h hqueue]
        exact h.pop hqueue rfl rfl rfl
    | freeQueue => exact ⟨rfl, rfl⟩
    | _ => cases hedit
  · obtain ⟨hqueue, hcount, hbytes⟩ :=
      call.apply_queue_of_not_edits (Bool.not_eq_true _ ▸ hedit)
    exact h.of_same hqueue hcount hbytes

theorem QueueCounted.applyAll {call : GrpcCall} (h : call.QueueCounted) (hdirect : call.Direct)
    (inputs : List CallInput) : (call.applyAll inputs).QueueCounted := by
  induction inputs generalizing call with
  | nil => exact h
  | cons i inputs ih => exact ih (h.apply hdirect i) (hdirect.apply i)

theorem Started.queueCounted {start : GrpcCall} {k : ConnId} (h : start.Started k) :
    start.QueueCounted ∧ start.responseQueue = [] := by
  obtain ⟨req, retryAttempt, rfl | rfl⟩ := h
  · exact ⟨⟨rfl, rfl⟩, rfl⟩
  · exact ⟨⟨rfl, rfl⟩, rfl⟩

/-! ## The linked nodes -/

/-- What an input does to the linked nodes: each payload that a callback queues is added behind
the last node, a pop takes the first node, and a release frees them all. -/
def linkedStep (call : GrpcCall) (q : LinkedQueue.Queue Bytes) :
    CallInput → LinkedQueue.Queue Bytes
  | .event ra answers event =>
    ((call.apply (.event ra answers event)).responseQueue.drop call.responseQueue.length).foldl
      LinkedQueue.push q
  | .dequeue | .take =>
    match LinkedQueue.pop q with
    | some (_, q') => q'
    | none => q
  | .freeQueue => LinkedQueue.clear q
  | _ => q

/-- The linked nodes of a call behind its inputs. -/
def linkedQueue (call : GrpcCall) (q : LinkedQueue.Queue Bytes) :
    List CallInput → LinkedQueue.Queue Bytes
  | [] => q
  | i :: inputs => (call.apply i).linkedQueue (call.linkedStep q i) inputs

theorem represents_foldl_push {q : LinkedQueue.Queue Bytes} {xs : List Bytes}
    (h : LinkedQueue.Represents q xs) (new : List Bytes) :
    LinkedQueue.Represents (new.foldl LinkedQueue.push q) (xs ++ new) := by
  induction new generalizing q xs with
  | nil => rwa [List.append_nil]
  | cons payload new ih =>
    rw [List.foldl_cons, List.append_cons]
    exact ih (h.push payload)

/-- The linked nodes after a pop carry the rest of the queue. -/
theorem represents_pop {q : LinkedQueue.Queue Bytes} {xs : List Bytes}
    (h : LinkedQueue.Represents q xs) :
    LinkedQueue.Represents (match LinkedQueue.pop q with | some (_, q') => q' | none => q)
      xs.tail := by
  cases xs with
  | nil =>
    have hnone : LinkedQueue.pop q = none := by
      rw [LinkedQueue.pop, h.head_eq_none_iff.mpr rfl]
    rw [hnone]
    exact h
  | cons payload rest =>
    obtain ⟨q', hpop, hq'⟩ := h.pop
    rw [hpop]
    exact hq'

/-- The nodes follow the queue through every input. -/
theorem represents_linkedStep {call : GrpcCall} (hdirect : call.Direct)
    (hcounted : call.QueueCounted) {q : LinkedQueue.Queue Bytes}
    (h : LinkedQueue.Represents q call.responseQueue) (i : CallInput) :
    LinkedQueue.Represents (call.linkedStep q i) (call.apply i).responseQueue := by
  by_cases hedit : i.editsQueue = true
  · cases i with
    | event ra answers event =>
      obtain ⟨new, hnew⟩ := call.apply_event_enqueues hdirect ra answers event
      rw [linkedStep, hnew.queue, List.drop_left]
      exact represents_foldl_push h new
    | dequeue =>
      have hpop := represents_pop h
      cases hqueue : call.responseQueue with
      | nil =>
        rw [apply_dequeue_nil hqueue, hqueue]
        rwa [hqueue] at hpop
      | cons payload rest =>
        rw [apply_dequeue_cons hqueue]
        rwa [hqueue] at hpop
    | take =>
      have hpop := represents_pop h
      cases hqueue : call.responseQueue with
      | nil =>
        rw [apply_take_nil hqueue, hqueue]
        rwa [hqueue] at hpop
      | cons payload rest =>
        rw [apply_take_cons hcounted hqueue]
        rwa [hqueue] at hpop
    | freeQueue => exact h.clear
    | _ => cases hedit
  · have hsame : call.linkedStep q i = q := by
      cases i with
      | event | dequeue | take | freeQueue => exact absurd rfl hedit
      | _ => rfl
    rw [hsame, (call.apply_queue_of_not_edits (Bool.not_eq_true _ ▸ hedit)).1]
    exact h

theorem represents_linkedQueue {call : GrpcCall} (hdirect : call.Direct)
    (hcounted : call.QueueCounted) {q : LinkedQueue.Queue Bytes}
    (h : LinkedQueue.Represents q call.responseQueue) (inputs : List CallInput) :
    LinkedQueue.Represents (call.linkedQueue q inputs) (call.applyAll inputs).responseQueue := by
  induction inputs generalizing call q with
  | nil => exact h
  | cons i inputs ih =>
    exact ih (hdirect.apply i) (hcounted.apply hdirect i) (represents_linkedStep hdirect hcounted h i)

end GrpcCall

/-! ## The whole queue -/

/-- The queue of a call behind some inputs is in order. -/
structure QueueInOrder (start : GrpcCall) (inputs : List CallInput) : Prop where
  /-- The counter of the payloads is their number. -/
  count : (start.applyAll inputs).responseQueueCount = (start.applyAll inputs).responseQueue.length
  /-- The counter of the bytes is the sum of the payload lengths. -/
  bytes : (start.applyAll inputs).responseQueueBytes =
    ((start.applyAll inputs).responseQueue.map List.length).sum
  /-- The linked nodes carry the queue from the head to the tail, and no other node is left. -/
  linked : LinkedQueue.Represents (start.linkedQueue {} inputs) (start.applyAll inputs).responseQueue
  /-- The tail is null exactly for the empty queue. -/
  tail : (start.linkedQueue {} inputs).tail = none ↔ (start.applyAll inputs).responseQueue = []
  /-- The subtractions of a pop do not go below zero. -/
  pops : ∀ payload rest, (start.applyAll inputs).responseQueue = payload :: rest →
    1 ≤ (start.applyAll inputs).responseQueueCount ∧
      payload.length ≤ (start.applyAll inputs).responseQueueBytes
  /-- A callback under another reader that queues a payload leaves the queue within the limits. -/
  limit : ∀ (ra : ReadAhead) (answers : List Int) (event : StreamEvent),
    (start.applyAll inputs).connection.isSome = true → ra.foreignReader = true →
    (start.applyAll (inputs ++ [.event ra answers event])).responseQueue ≠
      (start.applyAll inputs).responseQueue →
    (start.applyAll (inputs ++ [.event ra answers event])).responseQueueCount ≤ ra.maxMessages ∧
      (start.applyAll (inputs ++ [.event ra answers event])).responseQueueBytes ≤ ra.maxBytes

/-- For every call of the drivers and every order of chunks under any reader, pops, takes and
releases: exact counters, linked nodes that carry the queue, pops without underflow, and the
read-ahead limits behind every payload that is queued under another reader. -/
theorem queueInOrder {start : GrpcCall} {k : ConnId} (hstart : start.Started k)
    (inputs : List CallInput) : QueueInOrder start inputs := by
  have hdirect := hstart.direct
  obtain ⟨hcounted₀, hempty⟩ := hstart.queueCounted
  have hcounted := hcounted₀.applyAll hdirect inputs
  have hlinked := GrpcCall.represents_linkedQueue hdirect hcounted₀
    (hempty ▸ LinkedQueue.represents_empty) inputs
  refine ⟨hcounted.count, hcounted.bytes, hlinked, hlinked.tail_eq_none_iff,
    fun payload rest hqueue => hcounted.pop_room hqueue,
    fun ra answers event hconn hforeign hchanged => ?_⟩
  rw [GrpcCall.applyAll_append] at hchanged ⊢
  obtain ⟨new, hnew⟩ := (start.applyAll inputs).apply_event_enqueues (hdirect.applyAll inputs) ra
    answers event
  refine hnew.limit (fun hnil => hchanged ?_) (hdirect.applyAll inputs).queue hconn hforeign
  rw [hnil] at hnew
  exact hnew.queue.trans (List.append_nil _)

/-- Two messages of one byte in one chunk, while another call is reading, and one pull. -/
theorem queueInOrder_twoMessages :
    ((CallRequest.startCall { key := [] } 0 0).applyAll
      [.event ⟨true, 32, 8388608⟩ [] (.data [0, 0, 0, 0, 1, 7, 0, 0, 0, 0, 1, 8]),
        .dequeue]).responseQueue = [[8]] ∧
    QueueInOrder (CallRequest.startCall { key := [] } 0 0)
      [.event ⟨true, 32, 8388608⟩ [] (.data [0, 0, 0, 0, 1, 7, 0, 0, 0, 0, 1, 8]), .dequeue] :=
  ⟨by decide +kernel, queueInOrder ⟨{ key := [] }, 0, .inr rfl⟩ _⟩

end GrpcLite
