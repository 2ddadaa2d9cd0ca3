import GrpcLite.Refinement.Exchanges

/-!
# Both drivers classify alike

A server stream is ended by the first round that leaves a violated rule, while the unary
driver goes on until the stream is closed. As long as that is the last round, both
report the same status code for the same behaviour of the server.
-/

namespace GrpcLite

namespace GrpcCall

/-! ## Deadlines -/

/-- Behind an expired deadline nothing else counts. -/
theorem statusCode_timedOut {call : GrpcCall} (h : call.timedOut = true) :
    statusCodeFromCall call.checkUnary false = Status.deadlineExceeded ∧
      statusCodeFromCall call.checkStream false = Status.deadlineExceeded := by
  have hcode : ∀ call : GrpcCall, call.timedOut = true →
      statusCodeFromCall call false = Status.deadlineExceeded := fun call h => by
    rw [statusCodeFromCall, if_pos h]
  constructor
  · unfold checkUnary
    split <;> exact hcode _ h
  · unfold checkStream
    split <;> exact hcode _ h

/-! ## Reading -/

/-- What rounds leave alone. -/
structure Unended (call : GrpcCall) : Prop where
  timed : call.timedOut = false
  broken : call.connectionBroken = false
  calm : call.locallyCancelled = false

theorem Unended.applyAll {call : GrpcCall} (h : call.Unended) (hdirect : call.Direct)
    {inputs : List CallInput} (hround : ∀ i ∈ inputs, i.inRound = true) :
    (call.applyAll inputs).Unended := by
  induction inputs generalizing call with
  | nil => exact h
  | cons i inputs ih =>
    refine ih ?_ (hdirect.apply i) fun j hj => hround j (List.mem_cons_of_mem _ hj)
    have hflags := apply_streamFlags hdirect i
    have hi := hround i List.mem_cons_self
    have hsame : (call.streamFlags.onInput i).timedOut = call.timedOut ∧
        (call.streamFlags.onInput i).connectionBroken = call.connectionBroken ∧
        (call.streamFlags.onInput i).locallyCancelled = call.locallyCancelled := by
      cases i with
      | event ra answers event => cases event <;> exact ⟨rfl, rfl, rfl⟩
      | refused | submitted | registered | unregistered | requestSent => exact ⟨rfl, rfl, rfl⟩
      | _ => cases hi
    exact ⟨(congrArg StreamFlags.timedOut hflags).trans (hsame.1.trans h.timed),
      (congrArg StreamFlags.connectionBroken hflags).trans (hsame.2.1.trans h.broken),
      (congrArg StreamFlags.locallyCancelled hflags).trans (hsame.2.2.trans h.calm)⟩

theorem Unended.pops {call : GrpcCall} (h : call.Unended) (n : Nat) :
    (call.applyAll (List.replicate n .dequeue)).Unended := by
  induction n generalizing call with
  | zero => exact h
  | succ n ih =>
    refine @ih (call.apply .dequeue) ?_
    simp only [apply, dequeueResponsePayload]
    cases call.responseQueue with
    | nil => exact h
    | cons payload rest => exact ⟨h.timed, h.broken, h.calm⟩

theorem Unended.drained {call : GrpcCall} (h : call.Unended) : call.drained.Unended := h.pops _

/-! ## The ends of the loops -/

/-- Where both drivers end: with the same knowledge of a stream that is either closed or lost, or
behind an expired deadline or a violated rule. -/
inductive EndsLevel (u s : GrpcCall) : Prop
  /-- The stream is closed on a living connection. -/
  | closed (h : Level u s) (hclosed : u.streamClosed = true) (hunended : u.Unended)
      (hunended' : s.Unended)
  /-- The connection broke under an open stream. -/
  | broken (h : Level u s) (hopen : u.streamClosed = false) (hbroken : u.connectionBroken = true)
  /-- The deadline expired. -/
  | expired (h : u.timedOut = true) (h' : s.timedOut = true)
  /-- A rule is violated. -/
  | failed (h : u.validationFailed = true) (h' : s.validationFailed = true)
      (hcode : u.failedCode = s.failedCode)

theorem EndsLevel.code {u s : GrpcCall} (h : EndsLevel u s) :
    statusCodeFromCall u.checkUnary false = statusCodeFromCall s.checkStream false := by
  have hlevel : Level u s → u.unaryTruncated = s.streamTruncated →
      statusCodeFromCall u.checkUnary false = statusCodeFromCall s.checkStream false := by
    intro hsame htruncated
    unfold checkUnary checkStream
    rw [htruncated]
    split
    · exact hsame.field (fun call => statusCodeFromCall { call with malformedResponseFrame := true }
        false) fun _ => rfl
    · exact hsame.field (statusCodeFromCall · false) fun _ => rfl
  cases h with
  | closed hsame hclosed hunended hunended' =>
    refine hlevel hsame ?_
    rw [unaryTruncated, streamTruncated, hclosed, hunended.calm, hunended'.calm, hunended'.broken,
      hsame.field midMessage fun _ => rfl, hsame.field responseMessageTooLarge fun _ => rfl,
      hsame.field compressedResponseSeen fun _ => rfl, hsame.field streamResetSeen fun _ => rfl]
    simp
  | broken hsame hopen hbroken =>
    refine hlevel hsame ?_
    have hbroken' := (hsame.field connectionBroken fun _ => rfl).symm.trans hbroken
    rw [unaryTruncated, streamTruncated, hopen, hbroken']
    simp
  | expired h h' => rw [(statusCode_timedOut h).1, (statusCode_timedOut h').2]
  | failed h h' hcode => rw [statusCode_checkUnary h, statusCode_checkStream h', hcode]

/-- Behind an expired deadline nothing that the drivers do counts. -/
theorem timedOut_of_expires {call : GrpcCall} (hdirect : call.Direct) {ending : List CallInput}
    (h : ending.any CallInput.expires = true) : (call.applyAll ending).timedOut = true := by
  rw [applyAll_timedOut hdirect, h, Bool.or_true]

/-- A connection that breaks is noted on the call. -/
theorem applyAll_breaks {call : GrpcCall} (htimed : call.timedOut = false)
    {notes : List CallInput} (hnotes : ∀ i ∈ notes, i.accounts = true) (errno : Nat)
    (detail : Option ErrorDetail) :
    (call.applyAll (notes ++ [.connectionBroken errno detail])).fromPeer =
      { call.fromPeer with connectionBroken := true } := by
  have hsame := applyAll_accounts hnotes call
  have htimed' : (call.applyAll notes).timedOut = false :=
    (congrArg GrpcCall.timedOut hsame).trans htimed
  have hbroken : ∀ call : GrpcCall, call.timedOut = false →
      (call.apply (.connectionBroken errno detail)).fromPeer =
        { call.fromPeer with connectionBroken := true } := by
    intro call h
    simp only [apply]
    rw [if_neg (by rw [h]; decide)]
    rfl
  rw [applyAll_append, ← hsame]
  exact hbroken _ htimed'

end GrpcCall

namespace Behaviour

/-- The deadline ends the loop. -/
def Expires (b : Behaviour) : Prop := b.ending.any CallInput.expires = true

/-- The loop ends because the peer is gone, or because a read or a write has failed, in a round
without callbacks. -/
def Breaks (b : Behaviour) : Prop :=
  ∃ notes errno detail, b.ending = notes ++ [.connectionBroken errno detail] ∧
    ∀ i ∈ notes, i.accounts = true

/-- The peer, the network and the clock do the same. -/
structure Alike (b b' : Behaviour) : Prop where
  /-- They do so in every completed round. -/
  rounds : b.rounds.map peerInputs = b'.rounds.map peerInputs
  /-- An open stream ends in the same way. -/
  ending : b.Expires ∧ b'.Expires ∨ b.Breaks ∧ b'.Breaks

/-- The callbacks belong to reads of the call's own driver. -/
def Own (b : Behaviour) : Prop := ∀ round ∈ b.rounds, ∀ i ∈ round, i.Own

end Behaviour

namespace GrpcCall

/-- Only the last round before the stream is closed leaves a violated rule, if any does, and the
deadline does not expire behind it. -/
def BreaksLast (ending : List CallInput) : GrpcCall → List (List CallInput) → Prop
  | call, [] => call.streamClosed = true ∨
    (ending.any CallInput.expires = true → call.validationFailed = false)
  | call, round :: rounds => call.streamClosed = true ∨
    call.validationFailed = false ∧ (call.applyAll round).BreaksLast ending rounds

theorem nil_accounts : ∀ i ∈ ([] : List CallInput), i.accounts = true :=
  fun _ hi => absurd hi List.not_mem_nil

/-- Behind a violated rule or a closed stream nothing more is read. -/
theorem Level.endsLevel_closed {a b : GrpcCall} (h : Level a b) (hclosed : a.streamClosed = true)
    (hunended : a.Unended) (hunended' : b.Unended) : EndsLevel a (b.applyAll b.closing) := by
  have hfailed := h.field validationFailed fun _ => rfl
  have hlevel : Level a (b.applyAll b.closing) :=
    h.accounts nil_accounts b.closing_accounts
  by_cases hviolated : a.validationFailed = true
  · exact .failed hviolated ((hlevel.field validationFailed fun _ => rfl).symm.trans hviolated)
      (hlevel.field failedCode fun _ => rfl)
  · refine .closed hlevel hclosed hunended ?_
    unfold closing
    rw [if_neg (by rw [← hfailed]; exact hviolated)]
    exact hunended'.pops _

/-- The last round of both drivers. -/
theorem Level.endsLevel_open {a b : GrpcCall} {u s : Behaviour} (h : Level a b)
    (hopen : a.streamClosed = false) (hunended : a.Unended) (hunended' : b.Unended)
    (halike : u.Expires ∧ s.Expires ∨ u.Breaks ∧ s.Breaks) :
    EndsLevel (a.applyAll u.ending)
      (b.applyAll (b.pops ++ (s.ending ++ (b.drained.applyAll s.ending).closing))) := by
  rw [applyAll_append, applyAll_append]
  change EndsLevel _ ((b.drained.applyAll s.ending).applyAll _)
  rcases halike with ⟨hexpires, hexpires'⟩ | ⟨hbreaks, hbreaks'⟩
  · refine .expired (timedOut_of_expires h.direct hexpires) ?_
    refine (congrArg GrpcCall.timedOut (applyAll_accounts (closing_accounts _) _)).trans ?_
    exact timedOut_of_expires h.direct'.drained hexpires'
  · obtain ⟨notes, errno, detail, hending, hnotes⟩ := hbreaks
    obtain ⟨notes', errno', detail', hending', hnotes'⟩ := hbreaks'
    have hu := applyAll_breaks hunended.timed hnotes errno detail
    have hs := applyAll_breaks hunended'.drained.timed hnotes' errno' detail'
    rw [← hending] at hu
    rw [← hending', b.drained_fromPeer, ← h.peer] at hs
    have hlevel : Level (a.applyAll u.ending) (b.drained.applyAll s.ending) :=
      ⟨hu.trans hs.symm, h.direct.applyAll _, h.direct'.drained.applyAll _⟩
    refine .broken (hlevel.accounts nil_accounts (closing_accounts _)) ?_
      (congrArg GrpcCall.connectionBroken hu)
    exact (congrArg GrpcCall.streamClosed hu).trans hopen

/-- Behind a violated rule the streaming driver ends at once and the unary driver with its next
round. -/
theorem Level.endsLevel_failed {a b : GrpcCall} {u : Behaviour} (h : Level a b)
    (hunended : a.Unended) (hviolated : a.validationFailed = true) (hbreaks : u.Breaks) :
    EndsLevel (a.applyAll u.ending) (b.applyAll b.closing) := by
  obtain ⟨notes, errno, detail, hending, hnotes⟩ := hbreaks
  have hu := applyAll_breaks hunended.timed hnotes errno detail
  rw [← hending] at hu
  have hlevel : Level a (b.applyAll b.closing) :=
    h.accounts nil_accounts b.closing_accounts
  refine .failed ((congrArg validationFailed hu).trans hviolated)
    ((hlevel.field validationFailed fun _ => rfl).symm.trans hviolated) ?_
  exact (congrArg failedCode hu).trans (hlevel.field failedCode fun _ => rfl)

/-- Where both drivers end, from calls on a level. -/
theorem Level.endsLevel {u s : Behaviour} (halike : u.Expires ∧ s.Expires ∨ u.Breaks ∧ s.Breaks)
    {rounds rounds' : List (List CallInput)} {a b : GrpcCall} (h : Level a b)
    (hsame : rounds.map peerInputs = rounds'.map peerInputs)
    (hunended : a.Unended) (hunended' : b.Unended) (hmany : b.maxResponseMessages = 0)
    (hround : ∀ round ∈ rounds, ∀ i ∈ round, i.inRound = true ∧ i.Own)
    (hround' : ∀ round ∈ rounds', ∀ i ∈ round, i.inRound = true ∧ i.Own)
    (hcount : (a.applyAll (a.unaryInputs u.ending rounds)).WithinCount)
    (hlast : a.BreaksLast u.ending rounds) :
    EndsLevel (a.applyAll (a.unaryInputs u.ending rounds))
      (b.applyAll (b.streamInputs s.ending rounds')) := by
  induction rounds generalizing a b rounds' with
  | nil =>
    obtain rfl : rounds' = [] := List.map_eq_nil_iff.mp hsame.symm
    have hfailed := h.field validationFailed fun _ => rfl
    have hclosed := h.field streamClosed fun _ => rfl
    unfold unaryInputs streamInputs
    by_cases hopen : a.streamClosed = true
    · rw [if_pos hopen, if_pos (by rw [← hclosed, hopen, Bool.or_true])]
      exact h.endsLevel_closed hopen hunended hunended'
    have hopen' : a.streamClosed = false := Bool.not_eq_true _ ▸ hopen
    rw [if_neg hopen]
    by_cases hviolated : a.validationFailed = true
    · rw [if_pos (by rw [← hfailed, hviolated, Bool.true_or])]
      rcases halike with ⟨hexpires, -⟩ | ⟨hbreaks, -⟩
      · exact absurd ((hlast.resolve_left hopen hexpires).symm.trans hviolated) Bool.false_ne_true
      · exact h.endsLevel_failed hunended hviolated hbreaks
    · have hfine : b.validationFailed = false := hfailed ▸ Bool.not_eq_true _ ▸ hviolated
      rw [if_neg (by rw [hfine, ← hclosed, hopen']; decide)]
      exact h.endsLevel_open hopen' hunended hunended' halike
  | cons round rounds ih =>
    cases rounds' with
    | nil => exact absurd hsame (List.cons_ne_nil _ _)
    | cons round' rounds' =>
      obtain ⟨hhead, htail⟩ := List.cons.inj hsame
      have hfailed := h.field validationFailed fun _ => rfl
      have hclosed := h.field streamClosed fun _ => rfl
      unfold unaryInputs at hcount ⊢
      unfold streamInputs
      by_cases hopen : a.streamClosed = true
      · rw [if_pos hopen, if_pos (by rw [← hclosed, hopen, Bool.or_true])]
        exact h.endsLevel_closed hopen hunended hunended'
      have hopen' : a.streamClosed = false := Bool.not_eq_true _ ▸ hopen
      obtain ⟨hfine, hrest⟩ := hlast.resolve_left hopen
      rw [if_neg hopen] at hcount
      rw [if_neg hopen, if_neg (by rw [← hfailed, ← hclosed, hfine, hopen']; decide)]
      have hhere := hround round List.mem_cons_self
      have hhere' := hround' round' List.mem_cons_self
      have hkind : ∀ {i : CallInput}, i.inRound = true ∧ i.Own →
          i.ofPeer = true ∧ i.Own ∨ i.accounts = true := by
        rintro i ⟨hi, hown⟩
        by_cases hpeer : i.ofPeer = true
        · exact .inl ⟨hpeer, hown⟩
        · exact .inr (CallInput.accounts_of_inRound hi (Bool.not_eq_true _ ▸ hpeer))
      have hmax : b.drained.maxResponseMessages = 0 := (maxResponseMessages_applyAll b _).trans hmany
      have hmax' : (b.drained.applyAll round').maxResponseMessages = 0 :=
        (maxResponseMessages_applyAll _ _).trans hmax
      rw [applyAll_append] at hcount
      have hlevel : Level (a.applyAll round) (b.drained.applyAll round') :=
        h.drained.applyAll (fun i hi => hkind (hhere i hi)) (fun i hi => hkind (hhere' i hi)) hhead
          (.of_applyAll (h.direct.applyAll round) hcount) (.of_zero hmax')
      rw [applyAll_append, applyAll_append, applyAll_append]
      exact ih hlevel htail (hunended.applyAll h.direct fun i hi => (hhere i hi).1)
        (hunended'.drained.applyAll h.direct'.drained fun i hi => (hhere' i hi).1) hmax'
        (fun r hr => hround r (List.mem_cons_of_mem _ hr))
        (fun r hr => hround' r (List.mem_cons_of_mem _ hr)) hcount hrest

end GrpcCall

/-- Both drivers report the same status code when the peer, the network and the clock do the same
in the rounds of both, for a response with at most one message of which only the last round leaves
a violated rule. -/
theorem Behaviour.classifiedAlike {b b' : Behaviour} (halike : b.Alike b') (hown : b.Own)
    (hown' : b'.Own) (req : CallRequest) (k k' : ConnId) (retryAttempt retryAttempt' : Nat)
    (hsingle : (b.unaryEnd (req.unaryCall k retryAttempt)).responseMessageCount ≤ 1)
    (hlast : (req.unaryCall k retryAttempt).BreaksLast b.ending b.rounds) :
    b.unaryCode (req.unaryCall k retryAttempt) =
      (b'.streamResult (req.startCall k' retryAttempt')).2 := by
  have hlevel : GrpcCall.Level (req.unaryCall k retryAttempt) (req.startCall k' retryAttempt') :=
    ⟨rfl, ⟨rfl, rfl, rfl⟩, ⟨rfl, rfl, rfl⟩⟩
  refine (hlevel.endsLevel halike.ending halike.rounds ⟨rfl, rfl, rfl⟩ ⟨rfl, rfl, rfl⟩ rfl
    (fun round hr i hi => ⟨b.inRound round hr i hi, hown round hr i hi⟩)
    (fun round hr i hi => ⟨b'.inRound round hr i hi, hown' round hr i hi⟩) ?_ hlast).code
  intro hpos
  rw [GrpcCall.maxResponseMessages_applyAll]
  exact hsingle

/-- A response of one message and a status of its own, in one round. -/
private def answered : Behaviour where
  rounds := [[.header .response HeaderName.status (ascii ['2', '0', '0']),
    .header .response HeaderName.contentType (ascii "application/grpc".toList),
    .headersEnd .response false, .data [0, 0, 0, 0, 1, 7],
    .header .headers HeaderName.grpcStatus (ascii ['5']), .headersEnd .headers true,
    .closed 0].map (CallInput.event ⟨false, 32, 8388608⟩ [])]
  ending := [.connectionBroken 0 none]
  inRound := by decide

theorem Behaviour.classifiedAlike_answered :
    answered.unaryCode (({ key := [] } : CallRequest).unaryCall 0 0) = 5 ∧
      (answered.streamResult (({ key := [] } : CallRequest).startCall 1 0)) = ([[7]], 5) := by
  have hbreaks : answered.Breaks := ⟨[], 0, none, rfl, fun _ hi => absurd hi List.not_mem_nil⟩
  have hown : answered.Own := by
    simp only [Behaviour.Own, answered, List.forall_mem_cons, List.map_cons, List.map_nil]
    exact ⟨⟨trivial, trivial, trivial, ⟨rfl, fun _ hrv => absurd hrv List.not_mem_nil⟩, trivial,
      trivial, trivial, fun _ hi => absurd hi List.not_mem_nil⟩, fun _ hr =>
      absurd hr List.not_mem_nil⟩
  have hlast : (({ key := [] } : CallRequest).unaryCall 0 0).BreaksLast answered.ending
      answered.rounds := .inr ⟨rfl, .inl (by decide +kernel)⟩
  have hsame := Behaviour.classifiedAlike ⟨rfl, .inr ⟨hbreaks, hbreaks⟩⟩ hown hown { key := [] } 0 1
    0 0 (by decide +kernel) hlast
  have hresult : answered.streamResult (({ key := [] } : CallRequest).startCall 1 0) =
      ([[7]], 5) := by decide +kernel
  exact ⟨hsame.trans (by rw [hresult]), hresult⟩

end GrpcLite
