import GrpcLite.Transport.Environment

/-!
# Time and the answers of the environment

The clock only advances and the history only grows. A wait that reports an
expired deadline has reached it, unless an answer in the history looks like an
expiry without being one.
-/

namespace GrpcLite

/-- Answers that the transport takes for an expired deadline: an error number of its own
choice from `recv` or `poll`, and a `poll` that waited for the longest timeout there is. -/
def Answer.spurious : Answer → Bool
  | .recv rv errno => decide (rv < 0) && decide (errno = Errno.etimedout)
  | .poll rv _ errno elapsed =>
    (decide (rv < 0) && (decide (errno = Errno.eagain) || decide (errno = Errno.etimedout))) ||
      (decide (rv = 0) && decide (elapsed ≥ intMax * 1000))
  | _ => false

namespace Env

/-- Time passes and answers are given. -/
structure Grows (env env' : Env) : Prop where
  /-- The clock does not go back. -/
  now : env.now ≤ env'.now
  /-- The history is kept. -/
  history : env.history <+: env'.history

instance : Std.Refl Grows := ⟨fun _ => ⟨Nat.le_refl _, List.prefix_rfl⟩⟩

instance : IsTrans Env Grows :=
  ⟨fun _ _ _ h h' => ⟨Nat.le_trans h.now h'.now, h.history.trans h'.history⟩⟩

/-- A deadline has passed, or an answer only looked like it. -/
def Elapsed (env : Env) (deadlineAbsUs : Nat) : Prop :=
  deadlineAbsUs ≤ env.now ∨ ∃ answer ∈ env.history, answer.spurious = true

/-- A deadline that has passed stays so. -/
theorem Elapsed.grows {env env' : Env} {deadline : Nat} (h : env.Elapsed deadline)
    (hg : env.Grows env') : env'.Elapsed deadline := by
  rcases h with hnow | ⟨answer, hmem, hspurious⟩
  · exact .inl (Nat.le_trans hnow hg.now)
  · exact .inr ⟨answer, hg.history.subset hmem, hspurious⟩

/-! ## Growth -/

/-- The error number is set. -/
theorem setErrno_some {errno : Nat} {env env' : Env} {u : Unit} :
    setErrno errno env = some (u, env') ↔ env' = { env with errno := errno } :=
  Exec.modify_some

/-- Time passes. -/
theorem elapse_some {micros : Nat} {env env' : Env} {u : Unit} :
    elapse micros env = some (u, env') ↔ env' = { env with now := env.now + micros } :=
  Exec.modify_some

/-- The next answer is taken from the script. -/
theorem ask_some {α : Type} {select : Answer → Option α} {env env' : Env} {a : α}
    (h : ask select env = some (a, env')) : ∃ answer rest, env.script = answer :: rest ∧
      select answer = some a ∧
      env' = { env with script := rest, history := env.history ++ [answer] } := by
  unfold ask at h
  cases hs : env.script with
  | nil =>
    rw [hs] at h
    exact absurd h (by simp)
  | cons answer rest =>
    rw [hs] at h
    obtain ⟨b, hb, he⟩ := Option.map_eq_some_iff.mp h
    obtain ⟨rfl, rfl⟩ := Prod.mk.inj he
    exact ⟨answer, rest, rfl, hb, rfl⟩

/-- An answer takes no time back. -/
theorem ask_grows {α : Type} (select : Answer → Option α) : Exec.Within Grows (ask select) := by
  intro env a env' h
  obtain ⟨answer, rest, -, -, rfl⟩ := ask_some h
  exact ⟨Nat.le_refl _, List.prefix_append _ _⟩

/-- The error number does not take time back. -/
theorem setErrno_grows (errno : Nat) : Exec.Within Grows (setErrno errno) :=
  .modify fun _ => ⟨Nat.le_refl _, List.prefix_rfl⟩

/-- Time only passes. -/
theorem elapse_grows (micros : Nat) : Exec.Within Grows (elapse micros) :=
  .modify fun _ => ⟨Nat.le_add_right _ _, List.prefix_rfl⟩

/-- A reading of the clock. -/
theorem monotonicUs_grows : Exec.Within Grows monotonicUs :=
  .bind (ask_grows _) fun _ => .bind (elapse_grows _) fun _ => .bind .get fun _ => .pure _

/-- A poll takes time. -/
theorem poll_grows (events : Nat) (timeoutMs : Int) : Exec.Within Grows (poll events timeoutMs) :=
  .bind (ask_grows _) fun _ => .bind (elapse_grows _) fun _ =>
    .bind (.when fun _ => setErrno_grows _) fun _ => .pure _

/-- The timeout of a poll is computed from the clock. -/
theorem pollTimeoutMsForDeadline_grows (deadline : Nat) :
    Exec.Within Grows (pollTimeoutMsForDeadline deadline) :=
  .ite (.pure _) (.bind monotonicUs_grows fun _ => .ite (.pure _) (.pure _))

/-- The time that remains is computed from the clock. -/
theorem remainingTimeoutUsForDeadline_grows (deadline : Nat) :
    Exec.Within Grows (remainingTimeoutUsForDeadline deadline) :=
  .ite (.pure _) (.bind monotonicUs_grows fun _ => .ite (.pure _) (.pure _))

/-- The loop of polls takes time. -/
theorem pollLoop_grows (events deadline fuel : Nat) :
    Exec.Within Grows (pollLoop events deadline fuel) := by
  induction fuel with
  | zero => exact .block
  | succ fuel ih =>
    refine .bind (pollTimeoutMsForDeadline_grows deadline) fun _ => ?_
    refine .ite (.bind (setErrno_grows _) fun _ => .pure _) ?_
    refine .bind (poll_grows events _) fun _ => .ite (.pure _) ?_
    refine .ite (.bind (setErrno_grows _) fun _ => .pure _) ?_
    exact .bind .get fun _ => .ite (.pure _) ih

/-- A wait for a descriptor takes time. -/
theorem pollFdUntilDeadline_grows (events deadline : Nat) :
    Exec.Within Grows (pollFdUntilDeadline events deadline) :=
  .bind .get fun _ => pollLoop_grows events deadline _

/-- A wait under a deadline takes time. -/
theorem waitInTime_grows (events deadline : Nat) :
    Exec.Within Grows (waitInTime events deadline) := by
  refine .bind (pollFdUntilDeadline_grows events deadline) fun _ => .ite (.pure _) ?_
  refine .bind (remainingTimeoutUsForDeadline_grows deadline) fun _ => .ite (.pure _) ?_
  exact .bind (setErrno_grows _) fun _ => .pure _

/-! ## Expiry -/

/-- The clock gives the present time. -/
theorem monotonicUs_now {env env' : Env} {now : Nat} (h : monotonicUs env = some (now, env')) :
    now = env'.now := by
  obtain ⟨elapsed, env₁, -, h⟩ := Exec.bind_some.mp h
  obtain ⟨_, env₂, -, h⟩ := Exec.bind_some.mp h
  obtain ⟨now', env₃, hg, h⟩ := Exec.bind_some.mp h
  obtain ⟨rfl, rfl⟩ := Exec.get_some.mp hg
  obtain ⟨rfl, rfl⟩ := Exec.pure_some.mp h
  rfl

/-- No time remains: the deadline has passed. -/
theorem remainingTimeoutUsForDeadline_neg {env env' : Env} {deadline : Nat} {remaining : Int}
    (h : remainingTimeoutUsForDeadline deadline env = some (remaining, env'))
    (hneg : remaining < 0) : 0 < deadline ∧ deadline ≤ env'.now := by
  unfold remainingTimeoutUsForDeadline at h
  split at h
  · obtain ⟨rfl, -⟩ := Exec.pure_some.mp h
    omega
  · obtain ⟨now, env₁, hnow, h⟩ := Exec.bind_some.mp h
    have hn := monotonicUs_now hnow
    split at h
    · obtain ⟨-, rfl⟩ := Exec.pure_some.mp h
      omega
    · obtain ⟨rfl, -⟩ := Exec.pure_some.mp h
      omega

/-- What the timeout of a poll says about the deadline. -/
theorem pollTimeoutMsForDeadline_some {env env' : Env} {deadline : Nat} {timeoutMs : Int}
    (h : pollTimeoutMsForDeadline deadline env = some (timeoutMs, env')) :
    (deadline = 0 ∧ timeoutMs = -1) ∨
      (0 < deadline ∧ (timeoutMs = 0 → deadline ≤ env'.now) ∧ 0 ≤ timeoutMs ∧
        (deadline ≤ env'.now + timeoutMs.toNat * 1000 ∨ timeoutMs = intMax)) := by
  unfold pollTimeoutMsForDeadline at h
  split at h
  · obtain ⟨rfl, -⟩ := Exec.pure_some.mp h
    exact .inl ⟨‹_›, rfl⟩
  · obtain ⟨now, env₁, hnow, h⟩ := Exec.bind_some.mp h
    have hn := monotonicUs_now hnow
    refine .inr ⟨by omega, ?_⟩
    split at h
    · obtain ⟨rfl, rfl⟩ := Exec.pure_some.mp h
      omega
    · obtain ⟨rfl, rfl⟩ := Exec.pure_some.mp h
      split
      · exact ⟨fun h0 => absurd h0 (by decide), by decide, .inr rfl⟩
      · refine ⟨?_, ?_, .inl ?_⟩ <;> omega

/-- What a poll did: it failed with an error number, or it waited in vain, or an event came. -/
theorem poll_some {env env' : Env} {events : Nat} {timeoutMs rv : Int} {revents : Nat}
    (h : poll events timeoutMs env = some ((rv, revents), env')) :
    ∃ errno elapsed, Answer.poll rv revents errno elapsed ∈ env'.history ∧
      env'.now = env.now + elapsed ∧ (rv < 0 → env'.errno = errno) ∧
      (rv = 0 → 0 ≤ timeoutMs ∧ timeoutMs.toNat * 1000 ≤ elapsed) ∧
      (rv > 0 → revents &&& awaited events ≠ 0) := by
  obtain ⟨⟨rv', revents', errno, elapsed⟩, env₁, hask, h⟩ := Exec.bind_some.mp h
  obtain ⟨answer, rest, -, hsel, rfl⟩ := ask_some hask
  obtain ⟨_, env₂, helapse, h⟩ := Exec.bind_some.mp h
  obtain rfl := elapse_some.mp helapse
  obtain ⟨_, env₃, hwhen, h⟩ := Exec.bind_some.mp h
  obtain ⟨he, rfl⟩ := Exec.pure_some.mp h
  obtain ⟨rfl, rfl⟩ := Prod.mk.inj he
  cases answer with
  | poll rv₀ revents₀ errno₀ elapsed₀ =>
    simp only at hsel
    split at hsel
    · cases hsel
    · next hzero =>
      split at hsel
      · cases hsel
      · next hpos =>
        obtain ⟨rfl, rfl, rfl, rfl⟩ : rv₀ = rv' ∧ revents₀ = revents' ∧ errno₀ = errno ∧
            elapsed₀ = elapsed := by
          simpa only [Option.some.injEq, Prod.mk.injEq] using hsel
        refine ⟨errno₀, elapsed₀, ?_, ?_, ?_, fun h0 => ?_, fun h0 hw => hpos ⟨h0, hw⟩⟩
        · rcases Exec.when_some.mp hwhen with ⟨-, hset⟩ | ⟨-, rfl⟩
          · obtain rfl := setErrno_some.mp hset
            exact List.mem_append_right _ (List.mem_singleton_self _)
          · exact List.mem_append_right _ (List.mem_singleton_self _)
        · rcases Exec.when_some.mp hwhen with ⟨-, hset⟩ | ⟨-, rfl⟩
          · rw [setErrno_some.mp hset]
          · rfl
        · intro hneg
          rcases Exec.when_some.mp hwhen with ⟨-, hset⟩ | ⟨hnn, -⟩
          · rw [setErrno_some.mp hset]
          · exact absurd hneg hnn
        · constructor
          · by_contra hlt
            exact hzero ⟨h0, .inl (by omega)⟩
          · by_contra hlt
            exact hzero ⟨h0, .inr (by omega)⟩
  | _ => cases hsel

/-- A poll whose failure looks like an expiry left a spurious answer. -/
theorem elapsed_of_poll_errno {env : Env} {rv : Int} {revents errno elapsed deadline : Nat}
    (hmem : Answer.poll rv revents errno elapsed ∈ env.history) (hneg : rv < 0)
    (herrno : errno = Errno.eagain ∨ errno = Errno.etimedout) : env.Elapsed deadline := by
  refine .inr ⟨_, hmem, ?_⟩
  rcases herrno with rfl | rfl
  · simp [Answer.spurious, hneg]
  · simp [Answer.spurious, hneg]

/-- A failed wait whose error number looks like an expired deadline. -/
theorem pollLoop_expired {events deadline fuel : Nat} {env env' : Env}
    (h : pollLoop events deadline fuel env = some (false, env'))
    (herrno : env'.errno = Errno.eagain ∨ env'.errno = Errno.etimedout) (hpos : 0 < deadline) :
    env'.Elapsed deadline := by
  induction fuel generalizing env with
  | zero => exact (Exec.block_some.mp h).elim
  | succ fuel ih =>
    obtain ⟨timeoutMs, env₁, htimeout, h⟩ := Exec.bind_some.mp h
    obtain ⟨hzero, -⟩ | ⟨-, hnow, hnn, hlate⟩ := pollTimeoutMsForDeadline_some htimeout
    · omega
    · split at h
      · obtain ⟨_, env₂, hset, h⟩ := Exec.bind_some.mp h
        obtain rfl := setErrno_some.mp hset
        obtain ⟨-, rfl⟩ := Exec.pure_some.mp h
        exact .inl (hnow ‹_›)
      · obtain ⟨⟨rv, revents⟩, env₂, hpoll, h⟩ := Exec.bind_some.mp h
        obtain ⟨errno, elapsed, hmem, hel, herr, hwait, hev⟩ := poll_some hpoll
        simp only at h
        split at h
        · next hrv =>
          obtain ⟨hready, -⟩ := Exec.pure_some.mp h
          exact absurd (by simpa using hready) (hev hrv)
        · next hrv =>
          split at h
          · next hz =>
            obtain ⟨_, env₃, hset, h⟩ := Exec.bind_some.mp h
            obtain rfl := setErrno_some.mp hset
            obtain ⟨-, rfl⟩ := Exec.pure_some.mp h
            obtain ⟨-, hms⟩ := hwait hz
            rcases hlate with hl | rfl
            · exact .inl (by simp only; omega)
            · refine .inr ⟨_, hmem, ?_⟩
              have hle : intMax * 1000 ≤ elapsed := by simpa using hms
              simp [Answer.spurious, hz, hle]
          · next hz =>
            obtain ⟨env₃, env₄, hg, h⟩ := Exec.bind_some.mp h
            obtain ⟨rfl, rfl⟩ := Exec.get_some.mp hg
            split at h
            · obtain ⟨-, rfl⟩ := Exec.pure_some.mp h
              rw [herr (by omega)] at herrno
              exact elapsed_of_poll_errno hmem (by omega) herrno
            · exact ih h

/-- A wait that ended before the deadline without an event, by its error number. -/
theorem waitInTime_expired {events deadline : Nat} {env env' : Env}
    (h : waitInTime events deadline env = some (false, env'))
    (herrno : env'.errno = Errno.eagain ∨ env'.errno = Errno.etimedout) (hpos : 0 < deadline) :
    env'.Elapsed deadline := by
  obtain ⟨ready, env₁, hpoll, h⟩ := Exec.bind_some.mp h
  obtain ⟨env₀, env₂, hg, hpoll⟩ := Exec.bind_some.mp hpoll
  obtain ⟨rfl, rfl⟩ := Exec.get_some.mp hg
  cases ready with
  | false =>
    obtain ⟨-, rfl⟩ := Exec.pure_some.mp h
    exact pollLoop_expired hpoll herrno hpos
  | true =>
    obtain ⟨remaining, env₂, hrem, h⟩ := Exec.bind_some.mp h
    split at h
    · exact absurd (Exec.pure_some.mp h).1 (by simp)
    · obtain ⟨_, env₃, hset, h⟩ := Exec.bind_some.mp h
      obtain rfl := setErrno_some.mp hset
      obtain ⟨-, rfl⟩ := Exec.pure_some.mp h
      exact .inl (remainingTimeoutUsForDeadline_neg hrem (by omega)).2

end Env

end GrpcLite
