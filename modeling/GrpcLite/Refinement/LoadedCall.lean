import GrpcLite.Core.Exec
import GrpcLite.Drivers.LoadedCall

/-!
# Call objects without their metadata

Every run of a call object with its metadata is a run of the call object alone: what
is kept beside it decides nothing.
-/

namespace GrpcLite

namespace LoadedCall

variable {s s' : LoadedCall} {w w' : World} {returns : MetadataMap}

theorem mergeCallCredentialsMetadata_call {merged : Option LoadedCall}
    (h : s.mergeCallCredentialsMetadata returns w = some (merged, w')) :
    Proc.mergeCallCredentialsMetadata s.call w = some (merged.map (·.call), w') := by
  obtain ⟨r, w₁, hmerge, h⟩ := Exec.bind_some.mp h
  cases r with
  | none =>
    obtain ⟨rfl, rfl⟩ := Exec.pure_some.mp h
    exact hmerge
  | some call =>
    dsimp only at h
    split at h
    · obtain ⟨rfl, rfl⟩ := Exec.pure_some.mp h
      exact hmerge
    · obtain ⟨rfl, rfl⟩ := Exec.pure_some.mp h
      exact hmerge

theorem performCallUnary_call {ok : Bool}
    (h : s.performCallUnary returns w = some ((ok, s'), w')) :
    Proc.performCallUnary s.call w = some ((ok, s'.call), w') := by
  unfold performCallUnary at h
  unfold Proc.performCallUnary
  cases hpayload : s.call.requestPayload with
  | none =>
    simp only [hpayload] at h ⊢
    obtain ⟨heq, rfl⟩ := Exec.pure_some.mp h
    obtain ⟨rfl, rfl⟩ := Prod.mk.inj heq
    rfl
  | some message =>
    simp only [hpayload] at h ⊢
    split at h
    · next hsecure =>
      obtain ⟨heq, rfl⟩ := Exec.pure_some.mp h
      obtain ⟨rfl, rfl⟩ := Prod.mk.inj heq
      rw [if_pos hsecure]
      rfl
    · next hsecure =>
      rw [if_neg hsecure]
      obtain ⟨merged, w₁, hmerge, h⟩ := Exec.bind_some.mp h
      refine Exec.bind_some.mpr ⟨_, w₁, mergeCallCredentialsMetadata_call hmerge, ?_⟩
      cases merged with
      | none =>
        obtain ⟨heq, rfl⟩ := Exec.pure_some.mp h
        obtain ⟨rfl, rfl⟩ := Prod.mk.inj heq
        rfl
      | some s₁ =>
        obtain ⟨w₀, w₂, hget, h⟩ := Exec.bind_some.mp h
        obtain ⟨outcome, w₃, hperform, h⟩ := Exec.bind_some.mp h
        obtain ⟨w₄, w₅, hget', h⟩ := Exec.bind_some.mp h
        obtain ⟨heq, rfl⟩ := Exec.pure_some.mp h
        obtain ⟨rfl, rfl⟩ := Prod.mk.inj heq
        refine Exec.bind_some.mpr ⟨w₀, w₂, hget, ?_⟩
        refine Exec.bind_some.mpr ⟨outcome, w₃, hperform, ?_⟩
        exact Exec.bind_some.mpr ⟨w₄, w₅, hget', rfl⟩

theorem openPrepared_call {message : Bytes} {retryAttempt : Nat} {ok : Bool}
    (h : s.openPrepared message retryAttempt w = some ((ok, s'), w')) :
    Proc.openPrepared s.call message retryAttempt w = some ((ok, s'.call), w') := by
  obtain ⟨_, w₁, hdrop, h⟩ := Exec.bind_some.mp h
  obtain ⟨w₀, w₂, hget, h⟩ := Exec.bind_some.mp h
  obtain ⟨opened, w₃, hopen, h⟩ := Exec.bind_some.mp h
  obtain ⟨w₄, w₅, hget', h⟩ := Exec.bind_some.mp h
  obtain ⟨heq, rfl⟩ := Exec.pure_some.mp h
  obtain ⟨rfl, rfl⟩ := Prod.mk.inj heq
  refine Exec.bind_some.mpr ⟨(), w₁, hdrop, ?_⟩
  refine Exec.bind_some.mpr ⟨w₀, w₂, hget, ?_⟩
  refine Exec.bind_some.mpr ⟨opened, w₃, hopen, ?_⟩
  exact Exec.bind_some.mpr ⟨w₄, w₅, hget', rfl⟩

theorem openCallStreamAttempt_call {retryAttempt : Nat} {prepareMetadata ok : Bool}
    (h : s.openCallStreamAttempt returns retryAttempt prepareMetadata w = some ((ok, s'), w')) :
    Proc.openCallStreamAttempt s.call retryAttempt prepareMetadata w =
      some ((ok, s'.call), w') := by
  unfold openCallStreamAttempt at h
  unfold Proc.openCallStreamAttempt
  split at h
  · next hopened =>
    obtain ⟨heq, rfl⟩ := Exec.pure_some.mp h
    obtain ⟨rfl, rfl⟩ := Prod.mk.inj heq
    rw [if_pos hopened]
    rfl
  next hopened =>
  rw [if_neg hopened]
  cases hpayload : s.call.requestPayload with
  | none =>
    simp only [hpayload] at h ⊢
    obtain ⟨heq, rfl⟩ := Exec.pure_some.mp h
    obtain ⟨rfl, rfl⟩ := Prod.mk.inj heq
    rfl
  | some message =>
    simp only [hpayload] at h ⊢
    split at h
    · next hprepare =>
      rw [if_pos hprepare]
      exact openPrepared_call h
    next hprepare =>
    rw [if_neg hprepare]
    split at h
    · next hsecure =>
      obtain ⟨heq, rfl⟩ := Exec.pure_some.mp h
      obtain ⟨rfl, rfl⟩ := Prod.mk.inj heq
      rw [if_pos hsecure]
      rfl
    · next hsecure =>
      rw [if_neg hsecure]
      obtain ⟨merged, w₁, hmerge, h⟩ := Exec.bind_some.mp h
      refine Exec.bind_some.mpr ⟨_, w₁, mergeCallCredentialsMetadata_call hmerge, ?_⟩
      cases merged with
      | none =>
        obtain ⟨heq, rfl⟩ := Exec.pure_some.mp h
        obtain ⟨rfl, rfl⟩ := Prod.mk.inj heq
        rfl
      | some s₁ => exact openPrepared_call h

theorem nextForCallLoop_call (fuel : Nat) {r : Option CallNext}
    (h : nextForCallLoop returns fuel s w = some ((r, s'), w')) :
    Proc.nextForCallLoop fuel s.call w = some ((r, s'.call), w') := by
  induction fuel generalizing s w with
  | zero => exact (Exec.block_some.mp h).elim
  | succ fuel ih =>
    obtain ⟨⟨opened, s₁⟩, w₁, hopen, h⟩ := Exec.bind_some.mp h
    refine Exec.bind_some.mpr ⟨_, w₁, openCallStreamAttempt_call hopen, ?_⟩
    dsimp only at h ⊢
    cases opened with
    | false =>
      obtain ⟨heq, rfl⟩ := Exec.pure_some.mp h
      obtain ⟨rfl, rfl⟩ := Prod.mk.inj heq
      rfl
    | true =>
      simp only [Bool.not_true, Bool.false_eq_true, if_false] at h ⊢
      have hpull (hrun : s₁.pullOrRetry returns (nextForCallLoop returns fuel) w₁ =
          some ((r, s'), w')) : (s₁.call.serverStreamingResource.elim (pure (none, s₁.call)) fun c => do
            let result ← Proc.serverStreamingCallNextResource c
            if !result.retryable || s₁.call.initialMetadataReady then
              return (some result.toCallNext, s₁.call)
            let again ← Proc.retryCallStream s₁.call
            if !again.1 then return (none, again.2)
            Proc.nextForCallLoop fuel again.2 : Proc (Option CallNext × CallObj)) w₁ =
              some ((r, s'.call), w') := by
        unfold pullOrRetry at hrun
        cases hresource : s₁.call.serverStreamingResource with
        | none =>
          simp only [hresource] at hrun
          obtain ⟨heq, rfl⟩ := Exec.pure_some.mp hrun
          obtain ⟨rfl, rfl⟩ := Prod.mk.inj heq
          rfl
        | some c =>
          simp only [hresource] at hrun
          obtain ⟨result, w₂, hnext, hrun⟩ := Exec.bind_some.mp hrun
          refine Exec.bind_some.mpr ⟨result, w₂, hnext, ?_⟩
          split at hrun
          · next hdone =>
            rw [if_pos hdone]
            obtain ⟨heq, rfl⟩ := Exec.pure_some.mp hrun
            obtain ⟨rfl, rfl⟩ := Prod.mk.inj heq
            rfl
          · next hdone =>
            rw [if_neg hdone]
            obtain ⟨⟨again, s₂⟩, w₃, hagain, hrun⟩ := Exec.bind_some.mp hrun
            refine Exec.bind_some.mpr ⟨(again, s₂.call), w₃, openCallStreamAttempt_call hagain, ?_⟩
            dsimp only at hrun ⊢
            cases again with
            | false =>
              obtain ⟨heq, rfl⟩ := Exec.pure_some.mp hrun
              obtain ⟨rfl, rfl⟩ := Prod.mk.inj heq
              rfl
            | true => exact ih hrun
      cases hready : s₁.call.statusReady with
      | false =>
        simp only [hready] at h ⊢
        have hrest := hpull h
        cases hresource : s₁.call.serverStreamingResource <;> rw [hresource] at hrest <;> exact hrest
      | true =>
        cases hstatus : s₁.call.status with
        | none =>
          simp only [hready, hstatus] at h ⊢
          have hrest := hpull h
          cases hresource : s₁.call.serverStreamingResource <;> rw [hresource] at hrest <;>
            exact hrest
        | some status =>
          simp only [hready, hstatus] at h ⊢
          obtain ⟨heq, rfl⟩ := Exec.pure_some.mp h
          obtain ⟨rfl, rfl⟩ := Prod.mk.inj heq
          rfl

theorem serverStreamingNextForCall_call {r : Option CallNext}
    (h : s.serverStreamingNextForCall returns w = some ((r, s'), w')) :
    Proc.serverStreamingNextForCall s.call w = some ((r, s'.call), w') := by
  obtain ⟨w₀, w₁, hget, h⟩ := Exec.bind_some.mp h
  exact Exec.bind_some.mpr ⟨w₀, w₁, hget, nextForCallLoop_call _ h⟩

theorem drainForStatus_call (fuel : Nat) {ok : Bool}
    (h : drainForStatus returns fuel s w = some ((ok, s'), w')) :
    Proc.drainForStatus fuel s.call w = some ((ok, s'.call), w') := by
  induction fuel generalizing s w with
  | zero => exact (Exec.block_some.mp h).elim
  | succ fuel ih =>
    obtain ⟨⟨r, s₁⟩, w₁, hnext, h⟩ := Exec.bind_some.mp h
    refine Exec.bind_some.mpr ⟨_, w₁, serverStreamingNextForCall_call hnext, ?_⟩
    rcases r with _ | (⟨payload, initialMetadata⟩ | ⟨status, initialMetadata, trailingMetadata⟩)
    · obtain ⟨heq, rfl⟩ := Exec.pure_some.mp h
      obtain ⟨rfl, rfl⟩ := Prod.mk.inj heq
      rfl
    · exact ih h
    · obtain ⟨heq, rfl⟩ := Exec.pure_some.mp h
      obtain ⟨rfl, rfl⟩ := Prod.mk.inj heq
      rfl

theorem runBatch_call {batch : LoadedBatch} {event : Option Proc.BatchEvent}
    (h : s.runBatch batch w = some ((event, s'), w')) :
    Proc.runBatch s.call batch.ops w = some ((event, s'.call), w') := by
  unfold runBatch at h
  unfold Proc.runBatch
  dsimp only at h ⊢
  split at h
  · next hstatus =>
    rw [if_pos hstatus]
    split at h
    · next hfresh =>
      rw [if_pos hfresh]
      obtain ⟨⟨ok, s₁⟩, w₁, hperform, h⟩ := Exec.bind_some.mp h
      refine Exec.bind_some.mpr ⟨_, w₁, performCallUnary_call hperform, ?_⟩
      cases ok with
      | false | true =>
        obtain ⟨heq, rfl⟩ := Exec.pure_some.mp h
        obtain ⟨rfl, rfl⟩ := Prod.mk.inj heq
        rfl
    next hfresh =>
    rw [if_neg hfresh]
    split at h
    · next hopen =>
      rw [if_pos hopen]
      obtain ⟨w₀, w₁, hget, h⟩ := Exec.bind_some.mp h
      refine Exec.bind_some.mpr ⟨w₀, w₁, hget, ?_⟩
      obtain ⟨⟨ok, s₁⟩, w₂, hdrain, h⟩ := Exec.bind_some.mp h
      refine Exec.bind_some.mpr ⟨_, w₂, drainForStatus_call _ hdrain, ?_⟩
      cases ok with
      | false | true =>
        obtain ⟨heq, rfl⟩ := Exec.pure_some.mp h
        obtain ⟨rfl, rfl⟩ := Prod.mk.inj heq
        rfl
    · next hopen =>
      rw [if_neg hopen]
      obtain ⟨heq, rfl⟩ := Exec.pure_some.mp h
      obtain ⟨rfl, rfl⟩ := Prod.mk.inj heq
      rfl
  · next hstatus =>
    rw [if_neg hstatus]
    split at h
    · next hmessage =>
      rw [if_pos hmessage]
      obtain ⟨⟨r, s₁⟩, w₁, hnext, h⟩ := Exec.bind_some.mp h
      refine Exec.bind_some.mpr ⟨_, w₁, serverStreamingNextForCall_call hnext, ?_⟩
      cases r with
      | none | some =>
        obtain ⟨heq, rfl⟩ := Exec.pure_some.mp h
        obtain ⟨rfl, rfl⟩ := Prod.mk.inj heq
        rfl
    · next hmessage =>
      rw [if_neg hmessage]
      obtain ⟨heq, rfl⟩ := Exec.pure_some.mp h
      obtain ⟨rfl, rfl⟩ := Prod.mk.inj heq
      rfl

/-- A batch on the object with its metadata is the batch on the object. -/
theorem startBatch_call {batch : LoadedBatch} {event : Option Proc.BatchEvent}
    (h : s.startBatch batch w = some ((event, s'), w')) :
    Proc.startBatch s.call batch.ops w = some ((event, s'.call), w') := by
  have hstored : Proc.storeSendBatch s.call batch.ops =
      ((s.storeSendBatch batch).1, (s.storeSendBatch batch).2.call) := by
    unfold storeSendBatch
    dsimp only
    split <;> rfl
  unfold startBatch at h
  unfold Proc.startBatch
  rw [hstored]
  dsimp only at h ⊢
  split at h
  · next hfailed =>
    rw [if_pos hfailed]
    obtain ⟨heq, rfl⟩ := Exec.pure_some.mp h
    obtain ⟨rfl, rfl⟩ := Prod.mk.inj heq
    rfl
  next hfailed =>
  rw [if_neg hfailed]
  split at h
  · next hcancelled =>
    rw [if_pos hcancelled]
    obtain ⟨heq, rfl⟩ := Exec.pure_some.mp h
    obtain ⟨rfl, rfl⟩ := Prod.mk.inj heq
    rfl
  next hcancelled =>
  rw [if_neg hcancelled]
  split at h
  · next hready =>
    rw [if_pos hready]
    obtain ⟨heq, rfl⟩ := Exec.pure_some.mp h
    obtain ⟨rfl, rfl⟩ := Prod.mk.inj heq
    rfl
  · next hready =>
    rw [if_neg hready]
    exact runBatch_call h

end LoadedCall

end GrpcLite
