import Mathlib.Data.List.Nodup
import Mathlib.Data.List.Perm.Subperm
import Mathlib.Logic.Function.Basic

/-!
# Linked queues

A queue as singly linked nodes on a heap, with a pointer to its first and to its
last node. Nodes are added behind the last, removed in front and released at once.
-/

namespace LinkedQueue

variable {α : Type*}

/-- A node of the queue. -/
structure Node (α : Type*) where
  /-- What the node carries. -/
  payload : α
  /-- The node behind it. -/
  next : Option Nat

/-- The heap of nodes, with the next address to be allocated, and the two pointers. -/
structure Queue (α : Type*) where
  /-- The allocated nodes. -/
  heap : Nat → Option (Node α) := fun _ => none
  /-- Addresses from here on were never allocated. -/
  fresh : Nat := 0
  /-- The first node. -/
  head : Option Nat := none
  /-- The last node. -/
  tail : Option Nat := none

/-- Add a node behind the last one. -/
def push (q : Queue α) (x : α) : Queue α :=
  let heap := Function.update q.heap q.fresh (some ⟨x, none⟩)
  match q.tail with
  | none =>
    { heap := heap, fresh := q.fresh + 1, head := some q.fresh, tail := some q.fresh }
  | some last =>
    { heap := Function.update heap last
        ((heap last).map fun node => { node with next := some q.fresh })
      fresh := q.fresh + 1, head := q.head, tail := some q.fresh }

/-- Take the first node off and release it; an empty queue has none. -/
def pop (q : Queue α) : Option (α × Queue α) :=
  match q.head with
  | none => none
  | some first =>
    match q.heap first with
    | none => none
    | some node =>
      some (node.payload,
        { q with
          heap := Function.update q.heap first none
          head := node.next
          tail := if node.next = none then none else q.tail })

/-- Release nodes from the first on, until there is none. -/
def release : Nat → Queue α → Queue α
  | 0, q => q
  | fuel + 1, q =>
    match q.head with
    | none => q
    | some first =>
      match q.heap first with
      | none => q
      | some node =>
        release fuel { q with heap := Function.update q.heap first none, head := node.next }

/-- Release all nodes. -/
def clear (q : Queue α) : Queue α := { release q.fresh q with tail := none }

/-! ## The list of a queue -/

/-- The nodes from a pointer on carry a list. -/
def Chain (heap : Nat → Option (Node α)) : Option Nat → List Nat → List α → Prop
  | p, [], [] => p = none
  | p, a :: as, x :: xs => p = some a ∧ ∃ next, heap a = some ⟨x, next⟩ ∧ Chain heap next as xs
  | _, _, _ => False

/-- The queue carries a list in the nodes of the given addresses; the last of them is the tail,
and no other node is allocated. -/
structure Carries (q : Queue α) (addrs : List Nat) (xs : List α) : Prop where
  /-- The nodes are linked from the head on. -/
  chain : Chain q.heap q.head addrs xs
  /-- No node is there twice. -/
  nodup : addrs.Nodup
  /-- The nodes of the queue are the allocated ones. -/
  allocated : ∀ a, (q.heap a).isSome ↔ a ∈ addrs
  /-- New addresses are not in use. -/
  fresh : ∀ a ∈ addrs, a < q.fresh
  /-- The tail is the last node. -/
  tail : q.tail = addrs.getLast?

/-- The queue carries a list. -/
def Represents (q : Queue α) (xs : List α) : Prop := ∃ addrs, Carries q addrs xs

theorem Chain.length {heap : Nat → Option (Node α)} {p : Option Nat} {addrs : List Nat}
    {xs : List α} (h : Chain heap p addrs xs) : addrs.length = xs.length := by
  induction addrs generalizing p xs with
  | nil =>
    cases xs with
    | nil => rfl
    | cons x xs => exact absurd h (by simp [Chain])
  | cons a addrs ih =>
    cases xs with
    | nil => exact absurd h (by simp [Chain])
    | cons x xs =>
      obtain ⟨-, next, -, hrest⟩ := h
      rw [List.length_cons, List.length_cons, ih hrest]

/-- Other nodes do not matter. -/
theorem Chain.update {heap : Nat → Option (Node α)} {p : Option Nat} {addrs : List Nat}
    {xs : List α} (h : Chain heap p addrs xs) {b : Nat} (hb : b ∉ addrs)
    (node : Option (Node α)) : Chain (Function.update heap b node) p addrs xs := by
  induction addrs generalizing p xs with
  | nil =>
    cases xs with
    | nil => exact h
    | cons x xs => exact absurd h (by simp [Chain])
  | cons a addrs ih =>
    cases xs with
    | nil => exact absurd h (by simp [Chain])
    | cons x xs =>
      obtain ⟨hp, next, hnode, hrest⟩ := h
      have hne : a ≠ b := fun heq => hb (heq ▸ List.mem_cons_self)
      refine ⟨hp, next, ?_, ih hrest fun hmem => hb (List.mem_cons_of_mem _ hmem)⟩
      rw [Function.update_of_ne hne, hnode]

/-- A node linked behind the last one. -/
theorem Chain.concat {heap : Nat → Option (Node α)} {p : Option Nat} {addrs : List Nat}
    {xs : List α} (h : Chain heap p addrs xs) (hnodup : addrs.Nodup) {last b : Nat}
    (hlast : addrs.getLast? = some last) (hb : b ∉ addrs) (x : α)
    (hnew : heap b = some ⟨x, none⟩) :
    Chain (Function.update heap last ((heap last).map fun node => { node with next := some b })) p
      (addrs ++ [b]) (xs ++ [x]) := by
  induction addrs generalizing p xs with
  | nil => cases hlast
  | cons a addrs ih =>
    cases xs with
    | nil => exact absurd h (by simp [Chain])
    | cons y ys =>
      obtain ⟨hp, next, hnode, hrest⟩ := h
      have hba : b ≠ a := fun heq => hb (heq ▸ List.mem_cons_self)
      cases addrs with
      | nil =>
        cases ys with
        | cons z zs => exact absurd hrest (by simp [Chain])
        | nil =>
          obtain rfl : a = last := by simpa using hlast
          refine ⟨hp, some b, ?_, rfl, none, ?_, rfl⟩
          · rw [Function.update_self, hnode, Option.map_some]
          · rw [Function.update_of_ne hba, hnew]
      | cons a' addrs =>
        rw [List.getLast?_cons_cons] at hlast
        have hmem : last ∈ a' :: addrs := List.mem_of_getLast? hlast
        have hne : a ≠ last := fun heq => (List.nodup_cons.mp hnodup).1 (heq ▸ hmem)
        refine ⟨hp, next, ?_, ih hrest (List.nodup_cons.mp hnodup).2 hlast
          fun hmem => hb (List.mem_cons_of_mem _ hmem)⟩
        rw [Function.update_of_ne hne, hnode]

theorem represents_empty : Represents ({} : Queue α) [] :=
  ⟨[], rfl, List.nodup_nil, fun _ => by simp, fun _ h => absurd h List.not_mem_nil, rfl⟩

namespace Represents

variable {q : Queue α} {x : α} {xs : List α}

/-- The tail is null exactly for the empty list. -/
theorem tail_eq_none_iff (h : Represents q xs) : q.tail = none ↔ xs = [] := by
  obtain ⟨addrs, h⟩ := h
  rw [h.tail, List.getLast?_eq_none_iff, ← List.length_eq_zero_iff, h.chain.length,
    List.length_eq_zero_iff]

/-- The head is null exactly for the empty list. -/
theorem head_eq_none_iff (h : Represents q xs) : q.head = none ↔ xs = [] := by
  obtain ⟨addrs, h⟩ := h
  have hchain := h.chain
  cases addrs with
  | nil =>
    cases xs with
    | nil => exact ⟨fun _ => rfl, fun _ => hchain⟩
    | cons x xs => exact absurd hchain (by simp [Chain])
  | cons a addrs =>
    cases xs with
    | nil => exact absurd hchain (by simp [Chain])
    | cons x xs =>
      rw [hchain.1]
      constructor
      · exact fun hnone => absurd hnone (Option.some_ne_none a)
      · exact fun hnil => absurd hnil (List.cons_ne_nil x xs)

theorem push (h : Represents q xs) (x : α) : Represents (LinkedQueue.push q x) (xs ++ [x]) := by
  obtain ⟨addrs, h⟩ := h
  have hnew : q.fresh ∉ addrs := fun hmem => Nat.lt_irrefl _ (h.fresh _ hmem)
  have hfresh : ∀ a ∈ addrs ++ [q.fresh], a < q.fresh + 1 := by
    intro a ha
    rcases List.mem_append.mp ha with ha | ha
    · exact Nat.lt_succ_of_lt (h.fresh a ha)
    · rw [List.mem_singleton.mp ha]
      exact Nat.lt_succ_self _
  have hnodup : (addrs ++ [q.fresh]).Nodup := by
    refine List.nodup_append.mpr ⟨h.nodup, List.nodup_singleton _, fun a ha b hb heq => ?_⟩
    rw [heq, List.mem_singleton.mp hb] at ha
    exact hnew ha
  have hstored := h.chain.update hnew (some ⟨x, none⟩)
  refine ⟨addrs ++ [q.fresh], ?_⟩
  unfold LinkedQueue.push
  cases htail : q.tail with
  | none =>
    have haddrs : addrs = [] := List.getLast?_eq_none_iff.mp (h.tail.symm.trans htail)
    have hxs : xs = [] := by
      rw [← List.length_eq_zero_iff, ← h.chain.length, haddrs, List.length_nil]
    subst haddrs hxs
    refine ⟨⟨rfl, none, Function.update_self .., rfl⟩, hnodup, fun a => ?_, hfresh, rfl⟩
    dsimp only
    by_cases ha : a = q.fresh
    · rw [ha, Function.update_self]
      simp
    · rw [Function.update_of_ne ha, h.allocated]
      simp [ha]
  | some last =>
    have hlast := h.tail.symm.trans htail
    have hmem : last ∈ addrs := List.mem_of_getLast? hlast
    have hne : last ≠ q.fresh := fun heq => hnew (heq ▸ hmem)
    refine ⟨hstored.concat h.nodup hlast hnew x (Function.update_self ..), hnodup, fun a => ?_,
      hfresh, ?_⟩
    · dsimp only
      by_cases ha : a = last
      · rw [ha, Function.update_self, Function.update_of_ne hne, Option.isSome_map, h.allocated]
        simp [hmem]
      · rw [Function.update_of_ne ha]
        by_cases hb : a = q.fresh
        · rw [hb, Function.update_self]
          simp
        · rw [Function.update_of_ne hb, h.allocated]
          simp [hb]
    · rw [List.getLast?_append, List.getLast?_singleton, Option.some_or]

/-- The node behind the first becomes the first, and the released node is gone. -/
theorem pop (h : Represents q (x :: xs)) :
    ∃ q', LinkedQueue.pop q = some (x, q') ∧ Represents q' xs := by
  obtain ⟨addrs, h⟩ := h
  have hchain := h.chain
  cases addrs with
  | nil => exact absurd hchain (by simp [Chain])
  | cons a addrs =>
    obtain ⟨hhead, next, hnode, hrest⟩ := hchain
    obtain ⟨hnotin, hnodup⟩ := List.nodup_cons.mp h.nodup
    refine ⟨{ q with
        heap := Function.update q.heap a none
        head := next
        tail := if next = none then none else q.tail }, ?_, addrs, ?_⟩
    · simp only [LinkedQueue.pop, hhead, hnode]
    · refine ⟨hrest.update hnotin none, hnodup, fun b => ?_,
        fun b hb => h.fresh b (List.mem_cons_of_mem _ hb), ?_⟩
      · dsimp only
        by_cases hb : b = a
        · rw [hb, Function.update_self]
          simp [hnotin]
        · rw [Function.update_of_ne hb, h.allocated]
          simp [hb]
      · dsimp only
        cases addrs with
        | nil =>
          have hnext : next = none := by
            cases xs with
            | nil => exact hrest
            | cons y ys => exact absurd hrest (by simp [Chain])
          rw [if_pos hnext]
          rfl
        | cons b addrs =>
          have hnext : next = some b := by
            cases xs with
            | nil => exact absurd hrest (by simp [Chain])
            | cons y ys => exact hrest.1
          rw [if_neg (by rw [hnext]; exact Option.some_ne_none b), h.tail,
            List.getLast?_cons_cons]

end Represents

/-- Releasing walks the whole chain. -/
theorem release_chain (fuel : Nat) {q : Queue α} {addrs : List Nat} {xs : List α}
    (hchain : Chain q.heap q.head addrs xs) (hnodup : addrs.Nodup)
    (hallocated : ∀ a, (q.heap a).isSome ↔ a ∈ addrs) (hfuel : addrs.length ≤ fuel) :
    (release fuel q).head = none ∧ (∀ a, (release fuel q).heap a = none) ∧
      (release fuel q).fresh = q.fresh := by
  induction fuel generalizing q addrs xs with
  | zero =>
    obtain rfl := List.length_eq_zero_iff.mp (Nat.le_zero.mp hfuel)
    cases xs with
    | cons x xs => exact absurd hchain (by simp [Chain])
    | nil => exact ⟨hchain, fun a => by simpa [release] using hallocated a, rfl⟩
  | succ fuel ih =>
    cases addrs with
    | nil =>
      cases xs with
      | cons x xs => exact absurd hchain (by simp [Chain])
      | nil =>
        have hhead : q.head = none := hchain
        simp only [release, hhead]
        exact ⟨trivial, fun a => by simpa using hallocated a, trivial⟩
    | cons a addrs =>
      cases xs with
      | nil => exact absurd hchain (by simp [Chain])
      | cons x xs =>
        obtain ⟨hhead, next, hnode, hrest⟩ := hchain
        obtain ⟨hnotin, hnodup⟩ := List.nodup_cons.mp hnodup
        simp only [release, hhead, hnode]
        have hrun := ih (q := { q with heap := Function.update q.heap a none, head := next })
          (hrest.update hnotin none) hnodup (fun b => ?_) (Nat.le_of_succ_le_succ hfuel)
        · exact hrun
        · dsimp only
          by_cases hb : b = a
          · rw [hb, Function.update_self]
            simp [hnotin]
          · rw [Function.update_of_ne hb, hallocated]
            simp [hb]

/-- Clearing leaves an empty queue and no node. -/
theorem Represents.clear {q : Queue α} {xs : List α} (h : Represents q xs) :
    Represents (LinkedQueue.clear q) [] := by
  obtain ⟨addrs, h⟩ := h
  have hlength : addrs.length ≤ q.fresh := by
    have hsub : addrs ⊆ List.range q.fresh := fun a ha => List.mem_range.mpr (h.fresh a ha)
    have hle := (List.subperm_of_subset h.nodup hsub).length_le
    rwa [List.length_range] at hle
  obtain ⟨hhead, hheap, -⟩ := release_chain q.fresh h.chain h.nodup h.allocated hlength
  refine ⟨[], hhead, List.nodup_nil, fun a => ?_, fun _ ha => absurd ha List.not_mem_nil, rfl⟩
  rw [LinkedQueue.clear]
  dsimp only
  rw [hheap a]
  simp

end LinkedQueue
