import Mathlib.Data.List.Nodup
import Mathlib.Logic.Function.Basic

/-!
# Intrusive lists

A singly linked list whose nodes hold the link themselves. A node is taken off by a
search for its predecessor from the head on, and a walk that remembers the next node
may take off the one it stands on.
-/

namespace IntrusiveList

variable {ι : Type*}

/-- The head of a list and the link of every node. -/
structure Links (ι : Type*) where
  /-- The first node. -/
  head : Option ι
  /-- The node behind a node. -/
  next : ι → Option ι

/-- The nodes from a pointer on. -/
def Chain (next : ι → Option ι) : Option ι → List ι → Prop
  | p, [] => p = none
  | p, a :: as => p = some a ∧ Chain next (next a) as

/-- The links carry a list without repetition. -/
structure Represents (l : Links ι) (xs : List ι) : Prop where
  /-- The nodes are linked from the head on. -/
  chain : Chain l.next l.head xs
  /-- No node is there twice. -/
  nodup : xs.Nodup

/-- The part of the list behind a node starts at its link. -/
theorem Chain.behind {next : ι → Option ι} {p : Option ι} {before after : List ι} {a : ι}
    (h : Chain next p (before ++ a :: after)) : Chain next (next a) after := by
  induction before generalizing p with
  | nil => exact h.2
  | cons b before ih => exact ih h.2

variable [DecidableEq ι]

/-- The search for the predecessor of a node. -/
def previousOf (l : Links ι) (a : ι) : Nat → Option ι → Option ι
  | 0, _ => none
  | _ + 1, none => none
  | fuel + 1, some p => if l.next p = some a then some p else previousOf l a fuel (l.next p)

/-- Take a node off. -/
def unlink (fuel : Nat) (l : Links ι) (a : ι) : Links ι :=
  let relinked : Links ι :=
    if l.head = some a then { l with head := l.next a }
    else
      match previousOf l a fuel l.head with
      | none => l
      | some p => { l with next := Function.update l.next p (l.next a) }
  { relinked with next := Function.update relinked.next a none }

/-- The link of another node does not matter. -/
theorem Chain.update {next : ι → Option ι} {p : Option ι} {xs : List ι} (h : Chain next p xs)
    {b : ι} (hb : b ∉ xs) (q : Option ι) : Chain (Function.update next b q) p xs := by
  induction xs generalizing p with
  | nil => exact h
  | cons a as ih =>
    obtain ⟨hp, hrest⟩ := h
    rw [List.mem_cons, not_or] at hb
    refine ⟨hp, ?_⟩
    rw [Function.update_of_ne (fun heq => hb.1 heq.symm)]
    exact ih hrest hb.2

/-- A predecessor that skips its successor. -/
theorem Chain.skip {next : ι → Option ι} {p : Option ι} {before after : List ι} {q a : ι}
    (h : Chain next p (before ++ q :: a :: after)) (hnodup : (before ++ q :: a :: after).Nodup) :
    Chain (Function.update next q (next a)) p (before ++ q :: after) := by
  induction before generalizing p with
  | nil =>
    obtain ⟨hp, -, hafter⟩ := h
    have hq : q ∉ after := by
      intro hmem
      exact (List.nodup_cons.mp hnodup).1 (List.mem_cons_of_mem _ hmem)
    refine ⟨hp, ?_⟩
    rw [Function.update_self]
    exact hafter.update hq _
  | cons b before ih =>
    obtain ⟨hp, hrest⟩ := h
    rw [List.cons_append, List.nodup_cons] at hnodup
    have hbq : b ≠ q := by
      intro heq
      exact hnodup.1 (heq ▸ List.mem_append_right _ List.mem_cons_self)
    refine ⟨hp, ?_⟩
    rw [Function.update_of_ne hbq]
    exact ih hrest hnodup.2

/-- The search finds the predecessor. -/
theorem previousOf_eq {l : Links ι} {p : Option ι} {before after : List ι} {q a : ι}
    (h : Chain l.next p (before ++ q :: a :: after))
    (hnodup : (before ++ q :: a :: after).Nodup) {fuel : Nat} (hfuel : before.length < fuel) :
    previousOf l a fuel p = some q := by
  induction before generalizing p fuel with
  | nil =>
    obtain ⟨fuel, rfl⟩ := Nat.exists_eq_succ_of_ne_zero (Nat.ne_zero_of_lt hfuel)
    obtain ⟨rfl, hnext, -⟩ := h
    rw [previousOf, if_pos hnext]
  | cons b before ih =>
    obtain ⟨fuel, rfl⟩ := Nat.exists_eq_succ_of_ne_zero (Nat.ne_zero_of_lt hfuel)
    obtain ⟨rfl, hrest⟩ := h
    rw [List.cons_append, List.nodup_cons] at hnodup
    have hnext : l.next b ≠ some a := by
      -- The node behind this one comes before the predecessor or is the predecessor.
      intro heq
      cases before with
      | nil =>
        obtain rfl := Option.some.inj (hrest.1.symm.trans heq)
        exact (List.nodup_cons.mp hnodup.2).1 List.mem_cons_self
      | cons c before =>
        obtain rfl := Option.some.inj (hrest.1.symm.trans heq)
        refine (List.nodup_cons.mp hnodup.2).1 (List.mem_append_right _ ?_)
        exact List.mem_cons_of_mem _ List.mem_cons_self
    rw [previousOf, if_neg hnext]
    exact ih hrest hnodup.2 (Nat.lt_of_succ_lt_succ hfuel)

/-- A node is taken off wherever it stands, and what comes behind it can still be reached from
the link that it had. -/
theorem Represents.unlink {l : Links ι} {before after : List ι} {a : ι}
    (h : Represents l (before ++ a :: after)) {fuel : Nat} (hfuel : before.length ≤ fuel) :
    Represents (unlink fuel l a) (before ++ after) ∧
      Chain (IntrusiveList.unlink fuel l a).next (l.next a) after ∧
      (IntrusiveList.unlink fuel l a).next a = none := by
  have hbehind := h.chain.behind
  obtain ⟨hbefore, hcons, hdisjoint⟩ := List.nodup_append.mp h.nodup
  obtain ⟨ha, hafter⟩ := List.nodup_cons.mp hcons
  have hnodup : (before ++ after).Nodup :=
    List.nodup_append.mpr ⟨hbefore, hafter, fun b hb c hc =>
      hdisjoint b hb c (List.mem_cons_of_mem _ hc)⟩
  have habefore : a ∉ before := fun hmem => hdisjoint a hmem a List.mem_cons_self rfl
  have hnot : a ∉ before ++ after := by
    rw [List.mem_append, not_or]
    exact ⟨habefore, ha⟩
  unfold IntrusiveList.unlink
  dsimp only
  rcases List.eq_nil_or_concat before with rfl | ⟨before, q, rfl⟩
  · have hhead : l.head = some a := h.chain.1
    rw [if_pos hhead]
    exact ⟨⟨hbehind.update hnot none, hnodup⟩, hbehind.update ha none, Function.update_self ..⟩
  · rw [List.concat_eq_append] at *
    have hchain : Chain l.next l.head (before ++ q :: a :: after) := by
      simpa only [List.append_assoc, List.singleton_append] using h.chain
    have hall : (before ++ q :: a :: after).Nodup := by
      simpa only [List.append_assoc, List.singleton_append] using h.nodup
    have hhead : l.head ≠ some a := by
      intro heq
      cases before with
      | nil =>
        obtain rfl := Option.some.inj (hchain.1.symm.trans heq)
        exact (List.nodup_cons.mp hall).1 List.mem_cons_self
      | cons b before =>
        obtain rfl := Option.some.inj (hchain.1.symm.trans heq)
        exact habefore List.mem_cons_self
    have hprevious : previousOf l a fuel l.head = some q := by
      refine previousOf_eq hchain hall ?_
      rw [List.length_append, List.length_singleton] at hfuel
      exact hfuel
    have hqafter : q ∉ after := fun hmem =>
      hdisjoint q (List.mem_append_right _ List.mem_cons_self) q (List.mem_cons_of_mem _ hmem) rfl
    rw [if_neg hhead, hprevious]
    refine ⟨⟨?_, hnodup⟩, (hbehind.update hqafter _).update ha none, Function.update_self ..⟩
    rw [List.append_assoc, List.singleton_append] at hnot ⊢
    exact (hchain.skip hall).update hnot none

end IntrusiveList
