import Mathlib.Data.List.Nodup

/-!
# Ordered maps

A map as a list of entries with distinct keys. A new key goes to the end, and a new
value for a known key takes the place of the old one, so the keys stay in the order
in which they came first.
-/

/-- Entries with distinct keys. -/
structure OrderedMap (κ α : Type*) where
  /-- The entries in order. -/
  entries : List (κ × α)
  /-- No key comes twice. -/
  nodup : (entries.map Prod.fst).Nodup
  deriving DecidableEq

namespace OrderedMap

variable {κ α : Type*}

/-- The map without entries. -/
def empty : OrderedMap κ α := ⟨[], List.nodup_nil⟩

/-- The keys in order. -/
def keys (map : OrderedMap κ α) : List κ := map.entries.map Prod.fst

/-- The entries whose keys satisfy a test. -/
def restrict (map : OrderedMap κ α) (p : κ → Bool) : OrderedMap κ α where
  entries := map.entries.filter fun entry => p entry.1
  nodup := map.nodup.sublist (List.filter_sublist.map Prod.fst)

variable [DecidableEq κ]

/-- The value in the first entry with a key. -/
def findIn (key : κ) : List (κ × α) → Option α
  | [] => none
  | (k, value) :: rest => if k = key then some value else findIn key rest

/-- The value of a key. -/
def find (map : OrderedMap κ α) (key : κ) : Option α := findIn key map.entries

/-- Replace the value in the first entry with a key, or add an entry. -/
def updateIn (key : κ) (value : α) : List (κ × α) → List (κ × α)
  | [] => [(key, value)]
  | (k, old) :: rest => if k = key then (k, value) :: rest else (k, old) :: updateIn key value rest

theorem keys_updateIn (key : κ) (value : α) (entries : List (κ × α)) :
    (updateIn key value entries).map Prod.fst =
      if key ∈ entries.map Prod.fst then entries.map Prod.fst
      else entries.map Prod.fst ++ [key] := by
  induction entries with
  | nil => rfl
  | cons entry rest ih =>
    obtain ⟨k, old⟩ := entry
    by_cases hk : k = key
    · simp [updateIn, hk]
    · have hk' : key ≠ k := fun h => hk h.symm
      simp only [updateIn, hk, if_false, List.map_cons, ih, List.mem_cons, hk', false_or]
      split <;> simp

theorem nodup_updateIn (key : κ) (value : α) {entries : List (κ × α)}
    (h : (entries.map Prod.fst).Nodup) : ((updateIn key value entries).map Prod.fst).Nodup := by
  rw [keys_updateIn]
  split
  · exact h
  · next hnew => exact List.nodup_append.mpr ⟨h, List.nodup_singleton key, by
      intro a ha b hb
      obtain rfl := List.mem_singleton.mp hb
      exact fun heq => hnew (heq ▸ ha)⟩

/-- Give a key a value. -/
def update (map : OrderedMap κ α) (key : κ) (value : α) : OrderedMap κ α where
  entries := updateIn key value map.entries
  nodup := nodup_updateIn key value map.nodup

theorem findIn_updateIn (key : κ) (value : α) (entries : List (κ × α)) (other : κ) :
    findIn other (updateIn key value entries) =
      if other = key then some value else findIn other entries := by
  induction entries with
  | nil => simp only [updateIn, findIn, eq_comm]
  | cons entry rest ih =>
    obtain ⟨k, old⟩ := entry
    by_cases hk : k = key
    · subst hk
      simp only [updateIn, if_true, findIn, eq_comm]
      split <;> simp_all
    · simp only [updateIn, hk, if_false, findIn, ih]
      by_cases hother : k = other
      · subst hother
        simp [hk]
      · simp [hother]

@[simp] theorem find_update (map : OrderedMap κ α) (key : κ) (value : α) (other : κ) :
    (map.update key value).find other = if other = key then some value else map.find other :=
  findIn_updateIn key value map.entries other

@[simp] theorem keys_update (map : OrderedMap κ α) (key : κ) (value : α) :
    (map.update key value).keys = if key ∈ map.keys then map.keys else map.keys ++ [key] :=
  keys_updateIn key value map.entries

theorem findIn_eq_none_iff {key : κ} {entries : List (κ × α)} :
    findIn key entries = none ↔ key ∉ entries.map Prod.fst := by
  induction entries with
  | nil => simp [findIn]
  | cons entry rest ih =>
    obtain ⟨k, value⟩ := entry
    by_cases hk : k = key
    · simp [findIn, hk]
    · have hk' : key ≠ k := fun h => hk h.symm
      simp [findIn, hk, hk', ih]

end OrderedMap
