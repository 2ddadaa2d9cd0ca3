import Mathlib.Logic.Relation

/-!
# State computations that may block

A computation reads and changes a state and may block, which is having no
result. Completed runs of a sequence split into completed runs of its parts. A
computation stays `Within` a relation when all its completed runs do; for a
reflexive and transitive relation this is closed under sequencing. It `Yields` a
relation when its runs with a wanted result stay within it.
-/

namespace GrpcLite

/-- A computation on states of type `σ` that may block. -/
abbrev Exec (σ α : Type) := StateT σ Option α

/-- A sequence succeeds exactly when its parts do. -/
theorem except_bind_ok {ε α β : Type} {x : Except ε α} {f : α → Except ε β} {b : β} :
    x >>= f = .ok b ↔ ∃ a, x = .ok a ∧ f a = .ok b := by
  cases x with
  | error e => exact ⟨nofun, nofun⟩
  | ok a => exact ⟨fun h => ⟨a, rfl, h⟩, fun ⟨_, ha, hf⟩ => Except.ok.inj ha ▸ hf⟩

namespace Exec

variable {σ τ α β : Type}

/-- The computation that never completes. -/
def block : Exec σ α := fun _ => none

/-- Run a computation only under a condition. -/
def when (c : Prop) [Decidable c] (m : Exec σ Unit) : Exec σ Unit := if c then m else pure ()

/-- Run a computation on a part of the state. -/
def zoom (view : σ → τ) (put : τ → σ → σ) (m : Exec τ α) : Exec σ α := fun s =>
  (m (view s)).map fun r => (r.1, put r.2 s)

/-- A composed computation completes when both parts do. -/
theorem bind_some {x : Exec σ α} {f : α → Exec σ β} {s : σ} {r : β × σ} :
    (x >>= f) s = some r ↔ ∃ a s₁, x s = some (a, s₁) ∧ f a s₁ = some r := by
  change (x s).bind (fun p => f p.1 p.2) = some r ↔ _
  rw [Option.bind_eq_some_iff]
  exact ⟨fun ⟨p, hx, hf⟩ => ⟨p.1, p.2, hx, hf⟩, fun ⟨a, s₁, hx, hf⟩ => ⟨(a, s₁), hx, hf⟩⟩

/-- A value is returned in the same state. -/
theorem pure_some {a b : α} {s s' : σ} :
    (pure a : Exec σ α) s = some (b, s') ↔ a = b ∧ s = s' := by
  change some (a, s) = some (b, s') ↔ _
  rw [Option.some.injEq, Prod.mk.injEq]

/-- The state is returned. -/
theorem get_some {a s s' : σ} : (get : Exec σ σ) s = some (a, s') ↔ s = a ∧ s = s' := by
  change some (s, s) = some (a, s') ↔ _
  rw [Option.some.injEq, Prod.mk.injEq]

/-- The state is changed. -/
theorem modify_some {f : σ → σ} {u : PUnit} {s s' : σ} :
    (modify f : Exec σ PUnit) s = some (u, s') ↔ s' = f s := by
  change some (PUnit.unit, f s) = some (u, s') ↔ _
  rw [Option.some.injEq, Prod.mk.injEq]
  exact ⟨fun h => h.2.symm, fun h => ⟨rfl, h.symm⟩⟩

/-- The state is replaced. -/
theorem set_some {t : σ} {u : PUnit} {s s' : σ} :
    (set t : Exec σ PUnit) s = some (u, s') ↔ s' = t := by
  change some (PUnit.unit, t) = some (u, s') ↔ _
  rw [Option.some.injEq, Prod.mk.injEq]
  exact ⟨fun h => h.2.symm, fun h => ⟨rfl, h.symm⟩⟩

/-- A blocked computation does not complete. -/
theorem block_some {r : α × σ} {s : σ} : (block : Exec σ α) s = some r ↔ False := by
  simp only [block, reduceCtorEq]

/-- A computation on a part of the state. -/
theorem zoom_some {view : σ → τ} {put : τ → σ → σ} {m : Exec τ α} {s : σ} {a : α} {s' : σ} :
    zoom view put m s = some (a, s') ↔ ∃ t', m (view s) = some (a, t') ∧ s' = put t' s := by
  simp only [zoom, Option.map_eq_some_iff, Prod.mk.injEq]
  constructor
  · rintro ⟨⟨b, t'⟩, hm, rfl, rfl⟩
    exact ⟨t', hm, rfl⟩
  · rintro ⟨t', hm, rfl⟩
    exact ⟨(a, t'), hm, rfl, rfl⟩

/-- A conditional computation runs or leaves the state. -/
theorem when_some {c : Prop} [Decidable c] {m : Exec σ Unit} {u : Unit} {s s' : σ} :
    when c m s = some (u, s') ↔ (c ∧ m s = some (u, s')) ∨ (¬c ∧ s = s') := by
  unfold when
  split
  · next hc => simp only [hc, true_and, not_true_eq_false, false_and, or_false]
  · next hc =>
    rw [pure_some]
    simp only [hc, false_and, not_false_eq_true, true_and, false_or]

/-- A returned value is handed on. -/
theorem pure_bind_run {a : α} {f : α → Exec σ β} {s : σ} : (pure a >>= f) s = f a s := rfl

/-- The state is handed on. -/
theorem get_bind_run {f : σ → Exec σ β} {s : σ} : (get >>= f) s = f s s := rfl

/-! ## Relations kept by completed runs -/

/-- Every completed run relates its start to its end. -/
def Within (R : σ → σ → Prop) (m : Exec σ α) : Prop := ∀ s a s', m s = some (a, s') → R s s'

namespace Within

variable {R : σ → σ → Prop}

/-- A wider relation. -/
theorem mono {R' : σ → σ → Prop} {m : Exec σ α} (hm : Within R m)
    (h : ∀ s s', R s s' → R' s s') : Within R' m :=
  fun s a s' hrun => h s s' (hm s a s' hrun)

/-- A blocked computation relates anything. -/
protected theorem block : Within R (block : Exec σ α) :=
  fun _ _ _ h => (block_some.mp h).elim

/-- A returned value. -/
protected theorem pure [Std.Refl R] (a : α) : Within R (pure a : Exec σ α) := by
  intro s b s' h
  obtain ⟨-, rfl⟩ := pure_some.mp h
  exact Std.Refl.refl s

/-- A look at the state. -/
protected theorem get [Std.Refl R] : Within R (get : Exec σ σ) := by
  intro s b s' h
  obtain ⟨-, rfl⟩ := get_some.mp h
  exact Std.Refl.refl s

/-- A change that keeps the relation. -/
protected theorem modify {f : σ → σ} (h : ∀ s, R s (f s)) : Within R (modify f : Exec σ PUnit) := by
  intro s b s' hm
  rw [modify_some.mp hm]
  exact h s

/-- Two computations one after the other. -/
protected theorem bind [IsTrans σ R] {x : Exec σ α} {f : α → Exec σ β} (hx : Within R x)
    (hf : ∀ a, Within R (f a)) : Within R (x >>= f) := by
  intro s b s' h
  obtain ⟨a, s₁, h₁, h₂⟩ := bind_some.mp h
  exact trans_of R (hx s a s₁ h₁) (hf a s₁ b s' h₂)

/-- Both branches. -/
protected theorem ite {c : Prop} [Decidable c] {x y : Exec σ α} (hx : Within R x)
    (hy : Within R y) : Within R (if c then x else y) := by
  split
  · exact hx
  · exact hy

/-- A computation that may be left out. -/
protected theorem when [Std.Refl R] {c : Prop} [Decidable c] {m : Exec σ Unit} (h : c → Within R m) :
    Within R (when c m) := by
  unfold Exec.when
  split
  · next hc => exact h hc
  · exact .pure ()

end Within

/-- Every completed run with a wanted result relates its start to its end. -/
def Yields (P : α → Prop) (R : σ → σ → Prop) (m : Exec σ α) : Prop :=
  ∀ s a s', m s = some (a, s') → P a → R s s'

/-- What all completed runs keep, those with a given result keep. -/
theorem Within.yields {R : σ → σ → Prop} {m : Exec σ α} (h : Within R m) (P : α → Prop) :
    Yields P R m :=
  fun s a s' hm _ => h s a s' hm

namespace Yields

variable {P : α → Prop} {R : σ → σ → Prop}

/-- A result that is not wanted. -/
theorem refuse {a : α} (h : ¬P a) : Yields P R (pure a : Exec σ α) := by
  intro s b s' hm hb
  obtain ⟨rfl, -⟩ := pure_some.mp hm
  exact absurd hb h

/-- A computation behind which nothing wanted comes. -/
theorem refuse_after {x : Exec σ β} {a : α} (h : ¬P a) :
    Yields P R (x >>= fun _ => (pure a : Exec σ α)) := by
  intro s b s' hm hb
  obtain ⟨_, s₁, -, hm⟩ := bind_some.mp hm
  obtain ⟨rfl, -⟩ := pure_some.mp hm
  exact absurd hb h

/-- A blocked computation has no result. -/
protected theorem block : Yields P R (block : Exec σ α) := Within.block.yields P

/-- Each branch under its condition. -/
protected theorem ite {c : Prop} [Decidable c] {x y : Exec σ α} (hx : c → Yields P R x)
    (hy : ¬c → Yields P R y) : Yields P R (if c then x else y) := by
  split
  · next hc => exact hx hc
  · next hc => exact hy hc

/-- The last computation decides on the result. -/
protected theorem bind [IsTrans σ R] {x : Exec σ β} {f : β → Exec σ α} (hx : Within R x)
    (hf : ∀ b, Yields P R (f b)) : Yields P R (x >>= f) := by
  intro s a s' h ha
  obtain ⟨b, s₁, h₁, h₂⟩ := bind_some.mp h
  exact trans_of R (hx s b s₁ h₁) (hf b s₁ a s' h₂ ha)

/-- A first part whose unwanted results lead to none that is wanted. -/
theorem seq [IsTrans σ R] {Q : β → Prop} {x : Exec σ β} {f : β → Exec σ α} (hx : Yields Q R x)
    (hf : ∀ b, Q b → Yields P R (f b))
    (hno : ∀ b, ¬Q b → ∀ s a s', f b s = some (a, s') → ¬P a) : Yields P R (x >>= f) := by
  intro s a s' h ha
  obtain ⟨b, s₁, h₁, h₂⟩ := bind_some.mp h
  by_cases hb : Q b
  · exact trans_of R (hx s b s₁ h₁ hb) (hf b hb s₁ a s' h₂ ha)
  · exact absurd ha (hno b hb s₁ a s' h₂)

end Yields

end Exec

end GrpcLite
