import GrpcLite.Correctness.Decoding
import GrpcLite.Exchange.Metadata

/-!
# Binary metadata comes back

Values sent under a `-bin` key and delivered by the peer as separate fields, or
joined by commas in any grouping, are read back as the list that was sent, as long
as the fields are within the limits on response metadata.
-/

namespace GrpcLite

namespace Metadata

/-! ## Commas -/

theorem splitCommas_append (piece xs rest : Bytes) (h : 44 ∉ xs) :
    splitCommas piece (xs ++ rest) = splitCommas (piece ++ xs) rest := by
  induction xs generalizing piece with
  | nil => rw [List.nil_append, List.append_nil]
  | cons b xs ih =>
    have hb : b ≠ 44 := fun he => h (he ▸ List.mem_cons_self)
    rw [List.cons_append, splitCommas, if_neg hb, ih _ fun hx => h (List.mem_cons_of_mem _ hx),
      List.append_assoc]
    rfl

/-- Splitting undoes joining, empty pieces at either end included. -/
theorem splitCommas_intercalate {pieces : List Bytes} (hne : pieces ≠ [])
    (h : ∀ piece ∈ pieces, 44 ∉ piece) :
    splitCommas [] ([44].intercalate pieces) = pieces := by
  induction pieces with
  | nil => exact absurd rfl hne
  | cons piece pieces ih =>
    have hpiece := h piece List.mem_cons_self
    cases pieces with
    | nil =>
      have hsplit := splitCommas_append [] piece [] hpiece
      rw [List.append_nil] at hsplit
      rw [List.intercalate_singleton, hsplit]
      rfl
    | cons next pieces =>
      rw [List.intercalate_cons_cons, List.append_assoc, splitCommas_append _ _ _ hpiece,
        List.singleton_append, splitCommas, if_pos rfl,
        ih (List.cons_ne_nil _ _) fun p hp => h p (List.mem_cons_of_mem _ hp)]
      rfl

/-! ## The map -/

theorem find_addMetadataValueToMap (map : Map) (key value : Bytes) :
    (addMetadataValueToMap map key value).find key = some ((map.find key).getD [] ++ [value]) := by
  unfold addMetadataValueToMap
  cases hfind : map.find key with
  | none =>
    simp only [Map.find] at hfind ⊢
    rw [List.lookup_append, hfind]
    simp only [List.lookup_cons, BEq.rfl, Option.none_or, Option.getD_none, List.nil_append]
  | some values =>
    simp only [Map.find] at hfind ⊢
    induction map with
    | nil => exact absurd hfind (by simp)
    | cons entry map ih =>
      by_cases hkey : key = entry.1
      · subst hkey
        rw [List.lookup_cons, BEq.rfl] at hfind
        obtain rfl := Option.some.inj hfind
        simp only [List.map_cons, if_true, List.lookup_cons, BEq.rfl, Option.getD_some]
      · have hbeq : (key == entry.1) = false := beq_false_of_ne hkey
        rw [List.lookup_cons, hbeq] at hfind
        rw [List.map_cons, if_neg (Ne.symm hkey), List.lookup_cons, hbeq]
        exact ih hfind

theorem find_addMetadataValueToMap_ne (map : Map) {key other : Bytes} (value : Bytes)
    (h : key ≠ other) : (addMetadataValueToMap map other value).find key = map.find key := by
  have hbeq : (key == other) = false := beq_false_of_ne h
  unfold addMetadataValueToMap
  cases map.find other with
  | none =>
    simp only [Map.find, List.lookup_append, List.lookup_cons, hbeq, List.lookup_nil,
      Option.or_none]
  | some values =>
    simp only [Map.find]
    induction map with
    | nil => rfl
    | cons entry map ih =>
      rw [List.map_cons, List.lookup_cons, List.lookup_cons, ih]
      by_cases hother : entry.1 = other
      · have hbeq' : (key == entry.1) = false := by rw [hother, hbeq]
        rw [if_pos hother, hbeq']
      · rw [if_neg hother]

/-- Values added under one key are appended to its list. -/
theorem find_foldl_add (map : Map) (key : Bytes) (values : List Bytes) :
    ((values.foldl (fun map value => addMetadataValueToMap map key value) map).find key).getD [] =
      (map.find key).getD [] ++ values := by
  induction values generalizing map with
  | nil => exact (List.append_nil _).symm
  | cons value values ih =>
    rw [List.foldl_cons, ih, find_addMetadataValueToMap, Option.getD_some, List.append_assoc]
    rfl

/-- A field of another key leaves the values of a key alone. -/
theorem find_addFieldToMap_ne (map : Map) {key other : Bytes} (field : Bytes) (h : key ≠ other) :
    (addFieldToMap map other field).find key = map.find key := by
  unfold addFieldToMap addBinaryMetadataValuesToMap
  split
  · generalize splitCommas [] field = pieces
    induction pieces generalizing map with
    | nil => rfl
    | cons piece pieces ih => rw [List.foldl_cons, ih, find_addMetadataValueToMap_ne map _ h]
  · exact find_addMetadataValueToMap_ne map field h

/-- The wire form of a binary value has no comma and passes its check. -/
theorem wireValue_binary {key : Bytes} (hbin : isBinaryMetadataHeader key = true) (value : Bytes) :
    44 ∉ wireValue key value ∧ isInvalidWireValue key (wireValue key value) = false := by
  have hchars : ∀ c ∈ wireValue key value, Base64.isDigit c = true ∨ c = 61 := by
    intro c hc
    rw [wireValue, if_pos hbin] at hc
    exact Base64.mem_encode value c (Base64.mem_trimPadding hc)
  refine ⟨fun hmem => ?_, ?_⟩
  · rcases hchars 44 hmem with h | h
    · exact absurd h (by decide)
    · exact absurd h (by decide)
  · rw [isInvalidWireValue, if_pos hbin, isInvalidBinaryRequestHeaderValue, List.any_eq_false]
    intro c hc
    rcases hchars c hc with h | h
    · simp [h]
    · simp [h]

/-- A group of values as one field. -/
def joined (key : Bytes) (group : List Bytes) : Bytes := [44].intercalate (group.map (wireValue key))

/-- A field of joined values adds these values. -/
theorem addFieldToMap_joined (map : Map) {key : Bytes} (hbin : isBinaryMetadataHeader key = true)
    {group : List Bytes} (hne : group ≠ []) : addFieldToMap map key (joined key group) =
      group.foldl (fun map value => addMetadataValueToMap map key value) map := by
  have hsplit : splitCommas [] (joined key group) = group.map (wireValue key) := by
    refine splitCommas_intercalate (fun h => hne (List.map_eq_nil_iff.mp h)) fun piece hp => ?_
    obtain ⟨value, -, rfl⟩ := List.mem_map.mp hp
    exact (wireValue_binary hbin value).1
  rw [addFieldToMap, if_pos hbin, addBinaryMetadataValuesToMap, hsplit, List.foldl_map]
  congr 1
  funext map value
  rw [wireValue, if_pos hbin, Base64.decode_trimPadding_encode]

/-- All fields of a key, in any grouping of its values. -/
theorem find_foldl_joined (map : Map) {key : Bytes} (hbin : isBinaryMetadataHeader key = true)
    (groups : List (List Bytes)) (hne : ∀ group ∈ groups, group ≠ []) :
    (((groups.map (joined key)).foldl (fun map field => addFieldToMap map key field) map).find
      key).getD [] = (map.find key).getD [] ++ groups.flatten := by
  induction groups generalizing map with
  | nil => exact (List.append_nil _).symm
  | cons group groups ih =>
    rw [List.map_cons, List.foldl_cons, ih _ fun g hg => hne g (List.mem_cons_of_mem _ hg),
      addFieldToMap_joined map hbin (hne group List.mem_cons_self), find_foldl_add,
      List.flatten_cons, List.append_assoc]

/-- Fields of other keys leave the values of a key alone. -/
theorem find_foldl_addFieldToMap_ne {key : Bytes} (map : Map) (fields : List (Bytes × Bytes))
    (h : ∀ field ∈ fields, key ≠ field.1) :
    Map.find (fields.foldl (fun map field => addFieldToMap map field.1 field.2) map) key =
      map.find key := by
  induction fields generalizing map with
  | nil => rfl
  | cons field fields ih =>
    rw [List.foldl_cons, ih _ fun f hf => h f (List.mem_cons_of_mem _ hf),
      find_addFieldToMap_ne map _ (h field List.mem_cons_self)]

end Metadata

/-- Fields stored behind the others are added to the map behind the others. -/
theorem GrpcCall.copyMetadataMap_append {call call' : GrpcCall} {key : Bytes} {trailing : Bool}
    {fields : List Bytes}
    (h : call'.metadata = call.metadata ++ fields.map fun field => ⟨key, field, trailing⟩) :
    call'.copyMetadataMap trailing = fields.foldl
      (fun map field => Metadata.addFieldToMap map key field) (call.copyMetadataMap trailing) := by
  have hnew : (fields.map fun field => (⟨key, field, trailing⟩ : MetadataEntry)).filter
      (fun entry => entry.trailing == trailing) = fields.map fun field => ⟨key, field, trailing⟩ := by
    rw [List.filter_eq_self]
    intro entry hentry
    obtain ⟨field, -, rfl⟩ := List.mem_map.mp hentry
    exact BEq.rfl
  rw [copyMetadataMap, metadataMap, h, List.filter_append, hnew, List.map_append, List.foldl_append,
    List.map_map, List.foldl_map]
  rfl

namespace CallbackState

open Metadata

/-- Fields of one key arrive in order. -/
def deliverFields (s : CallbackState) (key : Bytes) (trailing : Bool) (fields : List Bytes) :
    CallbackState :=
  fields.foldl (fun s field => (s.addResponseMetadataEntry key field trailing).1) s

/-- The fields are within the limits on response metadata. -/
structure Admits (call : GrpcCall) (key : Bytes) (fields : List Bytes) : Prop where
  /-- The limits were not exceeded before. -/
  fine : call.metadataTooLarge = false
  /-- The number of stored fields is within the limit. -/
  count : call.metadataEntryCount + fields.length ≤ maxResponseMetadataEntries
  /-- The stored bytes are within the limit. -/
  bytes : call.metadataBytes + (fields.map fun field => key.length + field.length).sum ≤
    call.maxResponseMetadataBytes

/-- One field within the limits is stored. -/
theorem addResponseMetadataEntry_admits (s : CallbackState) {key field : Bytes} (trailing : Bool)
    (hkey : key ≠ [] ∧ key.head? ≠ some 58) (h : Admits s.call key [field]) :
    (s.addResponseMetadataEntry key field trailing).1.call =
      { s.call with
        metadata := s.call.metadata ++ [⟨key, field, trailing⟩]
        metadataEntryCount := s.call.metadataEntryCount + 1
        metadataBytes := s.call.metadataBytes + (key.length + field.length) } := by
  obtain ⟨hfine, hcount, hbytes⟩ := h
  have hlen : key.length ≠ 0 := fun h0 => hkey.1 (List.length_eq_zero_iff.mp h0)
  rw [List.map_singleton, List.sum_singleton] at hbytes
  rw [List.length_singleton] at hcount
  unfold addResponseMetadataEntry
  rw [if_neg (by simp only [hlen, hkey.2, or_self, not_false_eq_true]), if_neg]
  simp only [hfine, Bool.false_eq_true, false_or, not_or]
  omega

/-- One field above the limits raises the flag. -/
theorem addResponseMetadataEntry_tooLarge (s : CallbackState) {key field : Bytes} (trailing : Bool)
    (hkey : key ≠ [] ∧ key.head? ≠ some 58) (h : ¬Admits s.call key [field]) :
    (s.addResponseMetadataEntry key field trailing).1.call.metadataTooLarge = true := by
  have hlen : key.length ≠ 0 := fun h0 => hkey.1 (List.length_eq_zero_iff.mp h0)
  unfold addResponseMetadataEntry
  rw [if_neg (by simp only [hlen, hkey.2, or_self, not_false_eq_true]), if_pos]
  · dsimp only
    split
    · rw [submitRstStream_call]
      rfl
    · rfl
  · by_contra hnot
    simp only [not_or, Bool.not_eq_true] at hnot
    refine h ⟨hnot.1, ?_, ?_⟩
    · rw [List.length_singleton]
      omega
    · rw [List.map_singleton, List.sum_singleton]
      omega

/-- Once the limits are exceeded, they stay so. -/
theorem deliverFields_tooLarge (s : CallbackState) {key : Bytes} (trailing : Bool)
    (fields : List Bytes) (hkey : key ≠ [] ∧ key.head? ≠ some 58)
    (h : s.call.metadataTooLarge = true) :
    (s.deliverFields key trailing fields).call.metadataTooLarge = true := by
  induction fields generalizing s with
  | nil => exact h
  | cons field fields ih =>
    refine ih _ (addResponseMetadataEntry_tooLarge s trailing hkey fun hadm => ?_)
    exact absurd (hadm.fine.symm.trans h) Bool.false_ne_true

/-- Fields within the limits are stored behind the others; otherwise the limits are exceeded. -/
theorem deliverFields_metadata (s : CallbackState) {key : Bytes} (trailing : Bool)
    (fields : List Bytes) (hkey : key ≠ [] ∧ key.head? ≠ some 58) :
    (Admits s.call key fields → (s.deliverFields key trailing fields).call.metadata =
      s.call.metadata ++ fields.map fun field => ⟨key, field, trailing⟩) ∧
    (¬Admits s.call key fields → fields ≠ [] →
      (s.deliverFields key trailing fields).call.metadataTooLarge = true) := by
  induction fields generalizing s with
  | nil => exact ⟨fun _ => (List.append_nil _).symm, fun _ h => absurd rfl h⟩
  | cons field fields ih =>
    by_cases hone : Admits s.call key [field]
    · have hcall := addResponseMetadataEntry_admits s trailing hkey hone
      obtain ⟨hstored, hflag⟩ := ih (s.addResponseMetadataEntry key field trailing).1
      have hiff : Admits (s.addResponseMetadataEntry key field trailing).1.call key fields ↔
          Admits s.call key (field :: fields) := by
        rw [hcall]
        constructor
        · rintro ⟨hfine, hcount, hbytes⟩
          refine ⟨hfine, ?_, ?_⟩
          · rw [List.length_cons]
            dsimp only at hcount
            omega
          · rw [List.map_cons, List.sum_cons]
            dsimp only at hbytes
            omega
        · rintro ⟨hfine, hcount, hbytes⟩
          rw [List.length_cons] at hcount
          rw [List.map_cons, List.sum_cons] at hbytes
          exact ⟨hfine, by dsimp only; omega, by dsimp only; omega⟩
      refine ⟨fun hall => ?_, fun hnot _ => ?_⟩
      · have hmeta := hstored (hiff.mpr hall)
        rw [hcall] at hmeta
        rw [List.map_cons]
        refine hmeta.trans ?_
        rw [List.append_assoc]
        rfl
      · cases fields with
        | nil => exact absurd hone hnot
        | cons next fields => exact hflag (fun h => hnot (hiff.mp h)) (List.cons_ne_nil _ _)
    · refine ⟨fun hall => absurd ?_ hone, fun _ _ => ?_⟩
      · obtain ⟨hfine, hcount, hbytes⟩ := hall
        rw [List.length_cons] at hcount
        rw [List.map_cons, List.sum_cons] at hbytes
        refine ⟨hfine, ?_, ?_⟩
        · rw [List.length_singleton]
          omega
        · rw [List.map_singleton, List.sum_singleton]
          omega
      · exact deliverFields_tooLarge _ trailing fields hkey
          (addResponseMetadataEntry_tooLarge s trailing hkey hone)

/-- A call with the default limit on response metadata. -/
private def freshCall : CallbackState := ⟨{ maxResponseMetadataBytes := 65536 }, [], []⟩

end CallbackState

end GrpcLite
