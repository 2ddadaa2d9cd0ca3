import GrpcLite.Core.Admission
import GrpcLite.Correctness.BinaryMetadata
import GrpcLite.Refinement.Inputs

/-!
# The store of response metadata

The stored fields of a call are the received ones up to the first that exceeds the
limits, with exact counters beside them. The two maps that the user reads divide
the stored fields: each field is in one of them, under its key, in order of arrival.
-/

namespace GrpcLite

open Admission

/-- Name and value of a stored field. -/
def MetadataEntry.field (entry : MetadataEntry) : Bytes × Bytes := (entry.key, entry.value)

/-- A stored field as part of the trailing metadata. -/
def MetadataEntry.asTrailing (entry : MetadataEntry) : MetadataEntry := { entry with trailing := true }

/-- Name and value bytes of a field. -/
def fieldBytes (field : Bytes × Bytes) : Nat := field.1.length + field.2.length

/-- The name of a field that is metadata of the user: no pseudo-header, and neither the status
nor its message. A field always has a name. -/
def isMetadataName (name : Bytes) : Bool :=
  decide (name ≠ []) && decide (name.head? ≠ some 58) && decide (name ≠ HeaderName.grpcStatus) &&
    decide (name ≠ HeaderName.grpcMessage)

/-- The metadata field that an input brings. -/
def CallInput.field : CallInput → Option (Bytes × Bytes)
  | .event _ _ (.header _ name value) => if isMetadataName name then some (name, value) else none
  | _ => none

/-- The input is a header callback. -/
def CallInput.isHeader : CallInput → Bool
  | .event _ _ (.header _ _ _) => true
  | _ => false

/-- The metadata fields among the inputs of a call. -/
def receivedFields (inputs : List CallInput) : List (Bytes × Bytes) :=
  inputs.filterMap CallInput.field

/-! ## The store -/

/-- The part of a call that stores response metadata, and the status that decides on its map. -/
structure MetadataStore where
  /-- The stored fields. -/
  entries : List MetadataEntry
  /-- Counter of the entries. -/
  count : Nat
  /-- Counter of their bytes. -/
  bytes : Nat
  /-- A field was rejected. -/
  tooLarge : Bool
  /-- Limit of the bytes. -/
  limit : Nat
  /-- The last parsed grpc-status. -/
  status : Int

/-- The store of a call. -/
def GrpcCall.store (call : GrpcCall) : MetadataStore where
  entries := call.metadata
  count := call.metadataEntryCount
  bytes := call.metadataBytes
  tooLarge := call.metadataTooLarge
  limit := call.maxResponseMetadataBytes
  status := call.grpcStatus

namespace MetadataStore

/-- A field of a response is kept with the trailing metadata. -/
def isTrailing (m : MetadataStore) (cat : HeaderCategory) (name : Bytes) : Bool :=
  decide (cat ≠ .response) || decide (m.status ≥ 0) ||
    decide (name = HeaderName.grpcStatusDetailsBin)

/-- The store has no room for the field. -/
def Refuses (m : MetadataStore) (field : Bytes × Bytes) : Prop :=
  m.tooLarge = true ∨ m.count ≥ CallbackState.maxResponseMetadataEntries ∨
    fieldBytes field > m.limit ∨ m.bytes > m.limit - fieldBytes field

instance (m : MetadataStore) (field : Bytes × Bytes) : Decidable (m.Refuses field) :=
  inferInstanceAs (Decidable (_ ∨ _))

/-- A field behind the others. -/
def add (m : MetadataStore) (field : Bytes × Bytes) (trailing : Bool) : MetadataStore :=
  if m.Refuses field then { m with tooLarge := true }
  else
    { m with
      entries := m.entries ++ [⟨field.1, field.2, trailing⟩]
      count := m.count + 1
      bytes := m.bytes + fieldBytes field }

/-- What a header callback does to the store. -/
def onHeader (m : MetadataStore) (cat : HeaderCategory) (name value : Bytes) : MetadataStore :=
  if name = HeaderName.grpcStatus then
    { m with
      entries := if cat = .response then m.entries.map MetadataEntry.asTrailing else m.entries
      status := Protocol.parseStatusValue value }
  else if isMetadataName name then m.add (name, value) (m.isTrailing cat name)
  else m

end MetadataStore

namespace CallbackState

/-- A status is a field for the store. -/
theorem headerGrpcStatus_store (cat : HeaderCategory) (value : Bytes) (call : GrpcCall) :
    (headerGrpcStatus cat value call).store =
      call.store.onHeader cat HeaderName.grpcStatus value := by
  unfold headerGrpcStatus MetadataStore.onHeader
  rw [if_pos rfl]
  cases cat with
  | response => simp only [if_true]; split <;> split <;> rfl
  | headers => simp only [reduceCtorEq, if_false]; split <;> split <;> rfl
  | other => simp only [reduceCtorEq, if_false]; split <;> split <;> rfl

/-- Other fields that are interpreted leave the store alone. -/
theorem headerField_store (cat : HeaderCategory) (name value : Bytes) (call : GrpcCall) :
    (headerField cat name value call).store = call.store := by
  unfold headerField
  split
  · split <;> rfl
  split
  · rfl
  split
  · simp only
    split <;> rfl
  split <;> rfl

/-- Fields with a name that is no pseudo-header are offered to the store. -/
theorem addResponseMetadataEntry_store (s : CallbackState) (name value : Bytes) (trailing : Bool) :
    (s.addResponseMetadataEntry name value trailing).1.call.store =
      if name.length = 0 ∨ name.head? = some 58 then s.call.store
      else s.call.store.add (name, value) trailing := by
  unfold addResponseMetadataEntry
  dsimp only
  split
  · rfl
  unfold MetadataStore.add
  split
  · next hfull =>
    rw [if_pos (show s.call.store.Refuses (name, value) from hfull)]
    split
    · rw [submitRstStream_call]
      rfl
    · rfl
  · next hroom =>
    rw [if_neg (show ¬s.call.store.Refuses (name, value) from hroom)]
    rfl

/-- A header callback changes the store of its call as the model of the store says. -/
theorem onHeader_store (s : CallbackState) (cat : HeaderCategory) (name value : Bytes) :
    (onHeader s cat name value).1.call.store = s.call.store.onHeader cat name value := by
  unfold onHeader
  dsimp only
  split
  · next hname => rw [hname, headerGrpcStatus_store]
  next hstatus =>
  unfold MetadataStore.onHeader
  rw [if_neg hstatus]
  split
  · next hname =>
    have hnone : isMetadataName name = false := by rw [hname]; decide
    rw [hnone, if_neg Bool.false_ne_true]
    split <;> rfl
  · next hmessage =>
    rw [addResponseMetadataEntry_store]
    dsimp only
    rw [headerField_store]
    by_cases hpseudo : name.length = 0 ∨ name.head? = some 58
    · have hnone : isMetadataName name = false := by
        rcases hpseudo with h | h
        · simp [isMetadataName, List.length_eq_zero_iff.mp h]
        · simp [isMetadataName, h]
      rw [if_pos hpseudo, hnone, if_neg Bool.false_ne_true]
    · have hsome : isMetadataName name = true := by
        rw [not_or, List.length_eq_zero_iff] at hpseudo
        simp [isMetadataName, hpseudo, hstatus, hmessage]
      rw [if_neg hpseudo, if_pos hsome]
      rfl

end CallbackState

namespace GrpcCall

/-- The callback for a field is that of the store. -/
theorem apply_header_store (call : GrpcCall) (ra : ReadAhead) (answers : List Int)
    (cat : HeaderCategory) (name value : Bytes) :
    (call.apply (.event ra answers (.header cat name value))).store =
      call.store.onHeader cat name value :=
  CallbackState.onHeader_store ⟨call, answers, []⟩ cat name value

/-- Any other input leaves the store alone; the user's cancellation sets the status. -/
theorem apply_store_eq {call : GrpcCall} (h : call.Direct) {i : CallInput}
    (hi : i.isHeader = false) (hcancel : i ≠ .userCancelled) :
    (call.apply i).store = call.store := by
  cases i with
  | event ra answers event =>
    cases event with
    | header cat name value => cases hi
    | headersEnd cat endStream =>
      simp only [apply, CallbackState.onEvent, CallbackState.onHeadersFrame]
      cases cat with
      | response =>
        dsimp only
        split <;> split <;> rfl
      | headers =>
        dsimp only
        split <;> rfl
      | other => rfl
    | data bytes => exact call.apply_data_field h ra answers bytes store (fun _ => rfl) fun _ => rfl
    | rstStream code => rfl
    | pushPromise =>
      simp only [apply, CallbackState.onEvent, CallbackState.onPushPromise,
        CallbackState.submitRstStream_call]
      rfl
    | closed code => rfl
  | connectionBroken errno detail =>
    simp only [apply]
    split <;> rfl
  | dequeue =>
    simp only [apply, dequeueResponsePayload]
    cases call.responseQueue <;> rfl
  | take =>
    simp only [apply, unaryTakeResponsePayload]
    cases call.responseQueue <;> rfl
  | userCancelled => exact absurd rfl hcancel
  | refused | submitted | registered | unregistered | ownerCleared | timedOut | ioError
  | locallyCancelled | freeQueue | truncated | requestSent => rfl

/-- Any other input leaves the stored fields and their counters alone. -/
theorem apply_store {call : GrpcCall} (h : call.Direct) {i : CallInput}
    (hi : i.isHeader = false) :
    ∃ status, (call.apply i).store = { call.store with status := status } := by
  by_cases hcancel : i = .userCancelled
  · rw [hcancel]
    exact ⟨Status.cancelled, rfl⟩
  · exact ⟨call.grpcStatus, apply_store_eq h hi hcancel⟩

end GrpcCall

/-! ## Stored fields and counters -/

namespace MetadataStore

/-- The store holds the admitted part of the received fields, with exact counters. -/
structure Holds (m : MetadataStore) (received : List (Bytes × Bytes)) : Prop where
  /-- The counter of the entries is exact. -/
  count : m.count = m.entries.length
  /-- The counter of the bytes is exact. -/
  bytes : m.bytes = ((m.entries.map MetadataEntry.field).map fieldBytes).sum
  /-- The fields are stored in order up to the first that exceeds the limits. -/
  fields : m.entries.map MetadataEntry.field =
    admitted fieldBytes CallbackState.maxResponseMetadataEntries m.limit received
  /-- The flag tells whether a field was rejected. -/
  tooLarge : m.tooLarge = true ↔
    ¬Within fieldBytes CallbackState.maxResponseMetadataEntries m.limit received

variable {m : MetadataStore} {received : List (Bytes × Bytes)}

/-- While nothing is rejected, everything received is stored. -/
theorem Holds.all (h : m.Holds received) (hfine : m.tooLarge = false) :
    m.entries.map MetadataEntry.field = received := by
  rw [h.fields, admitted_eq_self_iff]
  by_contra hnot
  exact absurd (h.tooLarge.mpr hnot) (Bool.eq_false_iff.mp hfine)

/-- The limits hold for what is stored. -/
theorem Holds.within (h : m.Holds received) :
    m.entries.length ≤ CallbackState.maxResponseMetadataEntries ∧ m.bytes ≤ m.limit := by
  have hin : Within fieldBytes CallbackState.maxResponseMetadataEntries m.limit
      (admitted fieldBytes CallbackState.maxResponseMetadataEntries m.limit received) :=
    within_admitted _ _ _
  rw [← h.fields] at hin
  exact ⟨List.length_map MetadataEntry.field ▸ hin.length, h.bytes ▸ hin.weight⟩

/-- The guarded subtraction of the test decides whether the next field is within the limits. -/
theorem Holds.refuses_iff (h : m.Holds received) (field : Bytes × Bytes) :
    m.Refuses field ↔ ¬Within fieldBytes CallbackState.maxResponseMetadataEntries m.limit
      (received ++ [field]) := by
  cases hflag : m.tooLarge with
  | true =>
    have hnot := h.tooLarge.mp hflag
    exact ⟨fun _ hall => hnot hall.of_append, fun _ => .inl hflag⟩
  | false =>
    have hall := h.all hflag
    have hcount := h.count
    have hbytes := h.bytes
    rw [hall] at hbytes
    rw [← List.length_map MetadataEntry.field, hall] at hcount
    unfold Refuses
    rw [hflag, hcount, hbytes]
    constructor
    · rintro (hfalse | hrest) ⟨hlength, hweight⟩
      · cases hfalse
      · rw [List.length_append, List.length_singleton] at hlength
        rw [List.map_append, List.sum_append, List.map_singleton, List.sum_singleton] at hweight
        omega
    · intro hnot
      by_contra hrefuse
      rw [not_or, not_or, not_or] at hrefuse
      refine hnot ⟨?_, ?_⟩
      · rw [List.length_append, List.length_singleton]
        omega
      · rw [List.map_append, List.sum_append, List.map_singleton, List.sum_singleton]
        omega

/-- A field that is offered to the store is received. -/
theorem Holds.add (h : m.Holds received) (field : Bytes × Bytes) (trailing : Bool) :
    (m.add field trailing).Holds (received ++ [field]) := by
  have hiff := h.refuses_iff field
  unfold MetadataStore.add
  by_cases hrefuse : m.Refuses field
  · have hnot := hiff.mp hrefuse
    rw [if_pos hrefuse]
    refine ⟨h.count, h.bytes, h.fields.trans ?_, fun _ => hnot, fun _ => rfl⟩
    by_cases hold : Within fieldBytes CallbackState.maxResponseMetadataEntries m.limit received
    · rw [admitted_concat field hold, if_neg hnot, admitted_eq_self_iff.mpr hold]
    · exact (admitted_append_of_not_within [field] hold).symm
  · have hall := not_not.mp (mt hiff.mpr hrefuse)
    have hfine : m.tooLarge = false := Bool.eq_false_iff.mpr fun hflag => hrefuse (.inl hflag)
    have hnew : (m.entries ++ [(⟨field.1, field.2, trailing⟩ : MetadataEntry)]).map
        MetadataEntry.field = received ++ [field] := by
      rw [List.map_append, h.all hfine]
      rfl
    rw [if_neg hrefuse]
    refine ⟨?_, ?_, ?_, fun hflag => ?_, fun hnot => absurd hall hnot⟩
    · rw [List.length_append, ← h.count]
      rfl
    · dsimp only
      rw [hnew, h.bytes, h.all hfine, List.map_append, List.sum_append]
      rfl
    · exact hnew.trans (admitted_eq_self_iff.mpr hall).symm
    · exact absurd (hflag.symm.trans hfine) (by decide)

/-- Neither the maps of the entries nor the status matter for what is held. -/
theorem Holds.retag (h : m.Holds received) {entries : List MetadataEntry}
    (hfields : entries.map MetadataEntry.field = m.entries.map MetadataEntry.field)
    (status : Int) : Holds { m with entries := entries, status := status } received := by
  refine ⟨?_, ?_, hfields.trans h.fields, h.tooLarge⟩
  · dsimp only
    rw [h.count, ← List.length_map MetadataEntry.field, ← hfields, List.length_map]
  · dsimp only
    rw [h.bytes, hfields]

/-- Trailing fields have the same names and values. -/
theorem map_field_asTrailing (entries : List MetadataEntry) :
    (entries.map MetadataEntry.asTrailing).map MetadataEntry.field =
      entries.map MetadataEntry.field := by
  rw [List.map_map]
  rfl

/-- A field that is no metadata is not offered. -/
theorem Holds.onHeader (h : m.Holds received) (cat : HeaderCategory) (name value : Bytes) :
    (m.onHeader cat name value).Holds
      (received ++ (if isMetadataName name then [(name, value)] else [])) := by
  unfold MetadataStore.onHeader
  split
  · next hname =>
    have hnone : isMetadataName name = false := by rw [hname]; decide
    rw [hnone, if_neg Bool.false_ne_true, List.append_nil]
    refine h.retag ?_ _
    split
    · exact map_field_asTrailing m.entries
    · rfl
  · split
    · exact h.add _ _
    · rw [List.append_nil]
      exact h

end MetadataStore

/-- The last input brings its field. -/
theorem receivedFields_concat (inputs : List CallInput) (i : CallInput) :
    receivedFields (inputs ++ [i]) = receivedFields inputs ++ i.field.toList := by
  rw [receivedFields, List.filterMap_append]
  cases hfield : i.field with
  | none => rw [List.filterMap_cons_none hfield]; rfl
  | some field => rw [List.filterMap_cons_some hfield]; rfl

/-- Behind any inputs, the store of a call holds the admitted part of the fields among them. -/
theorem GrpcCall.holds_applyAll {start : GrpcCall} (hdirect : start.Direct)
    (hstart : start.store.Holds []) (inputs : List CallInput) :
    (start.applyAll inputs).store.Holds (receivedFields inputs) := by
  induction inputs using List.reverseRecOn with
  | nil => exact hstart
  | append_singleton inputs i ih =>
    rw [applyAll_append, receivedFields_concat]
    change ((start.applyAll inputs).apply i).store.Holds _
    by_cases hi : i.isHeader = true
    · cases i with
      | event ra answers event =>
        cases event with
        | header cat name value =>
          rw [apply_header_store]
          have hstep := ih.onHeader cat name value
          rw [CallInput.field]
          split at hstep
          · next hname => rw [if_pos hname]; exact hstep
          · next hname => rw [if_neg hname]; exact hstep
        | _ => cases hi
      | _ => cases hi
    · rw [Bool.not_eq_true] at hi
      obtain ⟨status, hstore⟩ := (start.applyAll inputs).apply_store (hdirect.applyAll inputs) hi
      have hfield : i.field = none := by
        cases i with
        | event ra answers event =>
          cases event with
          | header cat name value => cases hi
          | _ => rfl
        | _ => rfl
      rw [hstore, hfield, Option.toList_none, List.append_nil]
      exact ih.retag rfl status

/-! ## After a rejection -/

/-- Behind a rejected field the list stays, but for a grpc-status of the response, which moves all
of it to the trailing metadata. -/
theorem MetadataStore.onHeader_entries_of_tooLarge {m : MetadataStore} (h : m.tooLarge = true)
    (cat : HeaderCategory) (name value : Bytes) :
    (m.onHeader cat name value).tooLarge = true ∧
      ((m.onHeader cat name value).entries = m.entries ∨
        (m.onHeader cat name value).entries = m.entries.map MetadataEntry.asTrailing) := by
  unfold onHeader
  split
  · refine ⟨h, ?_⟩
    dsimp only
    split
    · exact .inr rfl
    · exact .inl rfl
  split
  · rw [add, if_pos (show m.Refuses (name, value) from .inl h)]
    exact ⟨rfl, .inl rfl⟩
  · exact ⟨h, .inl rfl⟩

/-- A trailing field stays trailing. -/
theorem map_asTrailing_twice (entries : List MetadataEntry) :
    (entries.map MetadataEntry.asTrailing).map MetadataEntry.asTrailing =
      entries.map MetadataEntry.asTrailing := by
  rw [List.map_map]
  rfl

/-- Behind a rejected field an input divides the list at most. -/
theorem GrpcCall.apply_metadata_of_tooLarge {call : GrpcCall} (hdirect : call.Direct)
    (h : call.metadataTooLarge = true) (i : CallInput) :
    (call.apply i).metadataTooLarge = true ∧ ((call.apply i).metadata = call.metadata ∨
      (call.apply i).metadata = call.metadata.map MetadataEntry.asTrailing) := by
  by_cases hi : i.isHeader = true
  · cases i with
    | event ra answers event =>
      cases event with
      | header cat name value =>
        have hstep := MetadataStore.onHeader_entries_of_tooLarge (m := call.store) h cat name value
        rw [← apply_header_store call ra answers cat name value] at hstep
        exact hstep
      | _ => cases hi
    | _ => cases hi
  · obtain ⟨status, hstore⟩ := call.apply_store hdirect (Bool.not_eq_true _ ▸ hi)
    exact ⟨(congrArg MetadataStore.tooLarge hstore).trans h,
      .inl (congrArg MetadataStore.entries hstore)⟩

/-- So does any number of inputs. -/
theorem GrpcCall.applyAll_metadata_of_tooLarge {call : GrpcCall} (hdirect : call.Direct)
    (h : call.metadataTooLarge = true) (later : List CallInput) :
    (call.applyAll later).metadata = call.metadata ∨
      (call.applyAll later).metadata = call.metadata.map MetadataEntry.asTrailing := by
  induction later generalizing call with
  | nil => exact .inl rfl
  | cons i later ih =>
    obtain ⟨hflag, hstep⟩ := call.apply_metadata_of_tooLarge hdirect h i
    have hrest := ih (hdirect.apply i) hflag
    rcases hstep with hstep | hstep
    · rw [hstep] at hrest
      exact hrest
    · rw [hstep, map_asTrailing_twice, or_self] at hrest
      exact .inr hrest

/-! ## The maps -/

namespace Metadata

/-- The values that one field stands for. -/
def fieldValues (field : Bytes × Bytes) : List Bytes :=
  if isBinaryMetadataHeader field.1 then (splitCommas [] field.2).map Base64.decode else [field.2]

/-- The values of a key among fields, in order of arrival. -/
def valuesOf (fields : List (Bytes × Bytes)) (key : Bytes) : List Bytes :=
  (fields.filter fun field => field.1 = key).flatMap fieldValues

/-- A field adds its values one by one. -/
theorem addFieldToMap_eq (map : Map) (field : Bytes × Bytes) :
    addFieldToMap map field.1 field.2 =
      (fieldValues field).foldl (fun map value => addMetadataValueToMap map field.1 value) map := by
  unfold addFieldToMap fieldValues addBinaryMetadataValuesToMap
  split
  · rw [List.foldl_map]
  · rfl

/-- A field has a value. -/
theorem fieldValues_ne_nil (field : Bytes × Bytes) : fieldValues field ≠ [] := by
  have hsplit : ∀ piece rest : Bytes, splitCommas piece rest ≠ [] := by
    intro piece rest
    induction rest generalizing piece with
    | nil => exact List.cons_ne_nil _ _
    | cons b rest ih =>
      rw [splitCommas]
      split
      · exact List.cons_ne_nil _ _
      · exact ih _
  unfold fieldValues
  split
  · exact fun h => hsplit _ _ (List.map_eq_nil_iff.mp h)
  · exact List.cons_ne_nil _ _

/-- The keys of a map stay distinct, and no key is without a value. -/
structure Map.Proper (map : Map) : Prop where
  /-- The keys are distinct. -/
  keys : (map.map Prod.fst).Nodup
  /-- Every key has a value. -/
  values : ∀ entry ∈ map, entry.2 ≠ []

/-- A key without values is not in the map. -/
theorem Map.find_eq_none_iff {map : Map} {key : Bytes} :
    map.find key = none ↔ key ∉ map.map Prod.fst := by
  simp only [Map.find, List.lookup_eq_none_iff, bne_iff_ne, List.mem_map, not_exists, not_and]
  constructor
  · intro h entry hentry heq
    exact h entry hentry heq.symm
  · intro h entry hentry heq
    exact h entry hentry heq.symm

/-- A value keeps the keys of a map distinct and their values non-empty. -/
theorem Map.Proper.add {map : Map} (h : map.Proper) (key value : Bytes) :
    (addMetadataValueToMap map key value).Proper := by
  unfold addMetadataValueToMap
  cases hfind : map.find key with
  | none =>
    refine ⟨?_, ?_⟩
    · rw [List.map_append, List.nodup_append]
      refine ⟨h.keys, List.nodup_singleton key, ?_⟩
      intro a ha b hb heq
      rw [List.map_singleton, List.mem_singleton] at hb
      rw [heq, hb] at ha
      exact Map.find_eq_none_iff.mp hfind ha
    · intro entry hentry
      rcases List.mem_append.mp hentry with hold | hnew
      · exact h.values entry hold
      · rw [List.mem_singleton.mp hnew]
        exact List.cons_ne_nil _ _
  | some values =>
    refine ⟨?_, ?_⟩
    · have hkeys : (map.map fun entry =>
          if entry.1 = key then (entry.1, entry.2 ++ [value]) else entry).map Prod.fst =
            map.map Prod.fst := by
        rw [List.map_map]
        refine List.map_congr_left fun entry _ => ?_
        dsimp only [Function.comp]
        split <;> rfl
      exact hkeys ▸ h.keys
    · intro entry hentry
      obtain ⟨old, hold, rfl⟩ := List.mem_map.mp hentry
      split
      · exact List.append_ne_nil_of_right_ne_nil _ (List.cons_ne_nil _ _)
      · exact h.values old hold

/-- So do the values of a field. -/
theorem Map.Proper.foldl_add {map : Map} (h : map.Proper) (key : Bytes) (values : List Bytes) :
    (values.foldl (fun map value => addMetadataValueToMap map key value) map).Proper := by
  induction values generalizing map with
  | nil => exact h
  | cons value values ih => exact ih (h.add key value)

/-- Building a map keeps it proper. -/
theorem Map.Proper.fields {map : Map} (h : map.Proper) (fields : List (Bytes × Bytes)) :
    Map.Proper (fields.foldl (fun map field => addFieldToMap map field.1 field.2) map) := by
  induction fields generalizing map with
  | nil => exact h
  | cons field fields ih =>
    rw [List.foldl_cons]
    refine ih ?_
    rw [addFieldToMap_eq]
    exact h.foldl_add field.1 _

/-- Building a map appends to each key the values of its fields. -/
theorem find_foldl_addFieldToMap (map : Map) (fields : List (Bytes × Bytes)) (key : Bytes) :
    (Map.find (fields.foldl (fun map field => addFieldToMap map field.1 field.2) map) key).getD [] =
      (map.find key).getD [] ++ valuesOf fields key := by
  induction fields generalizing map with
  | nil => exact (List.append_nil _).symm
  | cons field fields ih =>
    rw [List.foldl_cons, ih]
    by_cases hkey : field.1 = key
    · have hvalues : valuesOf (field :: fields) key = fieldValues field ++ valuesOf fields key := by
        rw [valuesOf, List.filter_cons_of_pos (by simpa using hkey), List.flatMap_cons]
        rfl
      rw [hvalues, addFieldToMap_eq, hkey, find_foldl_add, List.append_assoc]
    · have hvalues : valuesOf (field :: fields) key = valuesOf fields key := by
        rw [valuesOf, List.filter_cons_of_neg (by simpa using hkey)]
        rfl
      rw [hvalues, find_addFieldToMap_ne map _ (Ne.symm hkey)]

/-- Every key of a map has a value. -/
theorem Map.Proper.find_ne_nil {map : Map} (h : map.Proper) (key : Bytes) :
    map.find key ≠ some [] := by
  intro hfind
  induction map with
  | nil => cases hfind
  | cons entry map ih =>
    rw [Map.find, List.lookup_cons] at hfind
    split at hfind
    · exact h.values entry List.mem_cons_self (Option.some.inj hfind)
    · refine ih ⟨?_, fun e he => h.values e (List.mem_cons_of_mem _ he)⟩ hfind
      exact (List.nodup_cons.mp h.keys).2

end Metadata

/-- A map has the values of each key in order of arrival, and no other key. -/
theorem GrpcCall.copyMetadataMap_find (call : GrpcCall) (trailing : Bool) (key : Bytes) :
    (call.copyMetadataMap trailing).find key =
      if Metadata.valuesOf (call.metadataMap trailing) key = [] then none
      else some (Metadata.valuesOf (call.metadataMap trailing) key) := by
  have hempty : Metadata.Map.Proper [] := ⟨List.nodup_nil, fun _ h => absurd h List.not_mem_nil⟩
  have hproper : (call.copyMetadataMap trailing).Proper := hempty.fields _
  have hvalues : ((call.copyMetadataMap trailing).find key).getD [] =
      Metadata.valuesOf (call.metadataMap trailing) key :=
    Metadata.find_foldl_addFieldToMap [] _ key
  rw [← hvalues]
  cases hfind : (call.copyMetadataMap trailing).find key with
  | none => rw [Option.getD_none, if_pos rfl]
  | some values =>
    have hne : values ≠ [] := fun h => hproper.find_ne_nil key (h ▸ hfind)
    rw [Option.getD_some, if_neg hne]

/-! ## The whole store -/

/-- The test and the new sum of `grpc_protocol_add_response_metadata_entry` in the arithmetic of
`size_t`; `none` is a rejected field. -/
def storeBytes64 (limit bytes nameLen valueLen : BitVec 64) : Option (BitVec 64) :=
  let entryBytes := nameLen + valueLen
  if entryBytes > limit ∨ bytes > limit - entryBytes then none else some (bytes + entryBytes)

/-- For the lengths of two buffers of one address space nothing wraps around. -/
theorem storeBytes64_exact {limit bytes n v : Nat} (hlimit : limit < 2 ^ 64)
    (hbytes : bytes ≤ limit) (hlengths : n + v < 2 ^ 64) :
    (storeBytes64 (.ofNat 64 limit) (.ofNat 64 bytes) (.ofNat 64 n) (.ofNat 64 v)).map
        BitVec.toNat =
      if bytes + (n + v) ≤ limit then some (bytes + (n + v)) else none := by
  have hentry : (BitVec.ofNat 64 n + BitVec.ofNat 64 v).toNat = n + v := by
    rw [BitVec.toNat_add, BitVec.toNat_ofNat, BitVec.toNat_ofNat]
    omega
  have hl : (BitVec.ofNat 64 limit).toNat = limit := by
    rw [BitVec.toNat_ofNat]
    omega
  have hb : (BitVec.ofNat 64 bytes).toNat = bytes := by
    rw [BitVec.toNat_ofNat]
    omega
  unfold storeBytes64
  dsimp only
  simp only [gt_iff_lt, BitVec.lt_def, BitVec.toNat_sub, hentry, hl, hb]
  by_cases hfits : bytes + (n + v) ≤ limit
  · rw [if_neg (by omega), if_pos hfits, Option.map_some, BitVec.toNat_add, hentry, hb]
    congr 1
    omega
  · rw [if_pos (by omega), if_neg hfits]
    rfl

/-- The store of a call behind some inputs is in order. -/
structure MetadataInOrder (start : GrpcCall) (inputs : List CallInput) : Prop where
  /-- The counter of the entries is their number. -/
  count : (start.applyAll inputs).metadataEntryCount = (start.applyAll inputs).metadata.length
  /-- The number of the entries is within its limit. -/
  countLe : (start.applyAll inputs).metadataEntryCount ≤ 128
  /-- The counter of the bytes is the sum of the name and value lengths. -/
  bytes : (start.applyAll inputs).metadataBytes =
    ((start.applyAll inputs).metadata.map fun entry => entry.key.length + entry.value.length).sum
  /-- The bytes are within their limit. -/
  bytesLe : (start.applyAll inputs).metadataBytes ≤ start.maxResponseMetadataBytes
  /-- The test for the next field and its new sum do not wrap around in `size_t`. -/
  exact : ∀ name value : Bytes, name.length + value.length < 2 ^ 64 →
    (storeBytes64 (.ofNat 64 start.maxResponseMetadataBytes)
      (.ofNat 64 (start.applyAll inputs).metadataBytes) (.ofNat 64 name.length)
      (.ofNat 64 value.length)).map BitVec.toNat =
        if (start.applyAll inputs).metadataBytes + (name.length + value.length) ≤
            start.maxResponseMetadataBytes then
          some ((start.applyAll inputs).metadataBytes + (name.length + value.length))
        else none
  /-- Behind a rejected field the list and its counters stay; only a later status of the response
  moves the entries to the trailing metadata. -/
  frozen : (start.applyAll inputs).metadataTooLarge = true → ∀ later : List CallInput,
    ((start.applyAll (inputs ++ later)).metadata = (start.applyAll inputs).metadata ∨
      (start.applyAll (inputs ++ later)).metadata =
        (start.applyAll inputs).metadata.map MetadataEntry.asTrailing) ∧
    (start.applyAll (inputs ++ later)).metadataEntryCount =
      (start.applyAll inputs).metadataEntryCount ∧
    (start.applyAll (inputs ++ later)).metadataBytes = (start.applyAll inputs).metadataBytes
  /-- While nothing is rejected, the entries are the received fields in order of arrival. -/
  complete : (start.applyAll inputs).metadataTooLarge = false →
    (start.applyAll inputs).metadata.map MetadataEntry.field = receivedFields inputs
  /-- A map has the values of its entries under their keys, in order of arrival. -/
  maps : ∀ (trailing : Bool) (key : Bytes),
    ((start.applyAll inputs).copyMetadataMap trailing).find key =
      if Metadata.valuesOf ((start.applyAll inputs).metadataMap trailing) key = [] then none
      else some (Metadata.valuesOf ((start.applyAll inputs).metadataMap trailing) key)
  /-- While nothing is rejected, every received field is in exactly one of the two maps. -/
  partition : (start.applyAll inputs).metadataTooLarge = false →
    ((start.applyAll inputs).metadataMap false ++ (start.applyAll inputs).metadataMap true).Perm
      (receivedFields inputs)
  /-- Either map has its fields in order of arrival. -/
  inOrder : (start.applyAll inputs).metadataTooLarge = false → ∀ trailing : Bool,
    ((start.applyAll inputs).metadataMap trailing).Sublist (receivedFields inputs)
  /-- Under every key the two maps together have the values that were received for it. -/
  values : (start.applyAll inputs).metadataTooLarge = false → ∀ key : Bytes,
    ((((start.applyAll inputs).copyMetadataMap false).find key).getD [] ++
      (((start.applyAll inputs).copyMetadataMap true).find key).getD []).Perm
        (Metadata.valuesOf (receivedFields inputs) key)

/-- The fields of the two maps together are the stored ones. -/
theorem GrpcCall.metadataMap_perm (call : GrpcCall) :
    (call.metadataMap false ++ call.metadataMap true).Perm
      (call.metadata.map MetadataEntry.field) := by
  have htrailing : (call.metadata.filter fun entry => entry.trailing == true) =
      call.metadata.filter fun entry => !(entry.trailing == false) :=
    List.filter_congr fun entry _ => by cases entry.trailing <;> rfl
  unfold metadataMap
  rw [htrailing, ← List.map_append]
  exact (List.filter_append_perm _ _).map MetadataEntry.field

/-- The fields of a map are stored in their order. -/
theorem GrpcCall.metadataMap_sublist (call : GrpcCall) (trailing : Bool) :
    (call.metadataMap trailing).Sublist (call.metadata.map MetadataEntry.field) :=
  List.filter_sublist.map MetadataEntry.field

/-- The values of two parts. -/
theorem Metadata.valuesOf_append (left right : List (Bytes × Bytes)) (key : Bytes) :
    valuesOf (left ++ right) key = valuesOf left key ++ valuesOf right key := by
  unfold valuesOf
  rw [List.filter_append, List.flatMap_append]

/-- The values of a key do not depend on how the fields of both maps are divided. -/
theorem Metadata.valuesOf_perm {left right : List (Bytes × Bytes)} (h : left.Perm right)
    (key : Bytes) : (valuesOf left key).Perm (valuesOf right key) :=
  (h.filter _).flatMap_right _

/-- What a map has under a key. -/
theorem GrpcCall.copyMetadataMap_getD (call : GrpcCall) (trailing : Bool) (key : Bytes) :
    ((call.copyMetadataMap trailing).find key).getD [] =
      Metadata.valuesOf (call.metadataMap trailing) key := by
  rw [copyMetadataMap_find]
  split
  · next hnone => exact hnone.symm
  · rfl

/-- A call of the drivers has received nothing. -/
theorem GrpcCall.Started.holds {start : GrpcCall} {k : ConnId} (h : start.Started k) :
    start.store.Holds [] := by
  have hfresh : start.store.entries = [] ∧ start.store.count = 0 ∧ start.store.bytes = 0 ∧
      start.store.tooLarge = false := by
    obtain ⟨req, retryAttempt, rfl | rfl⟩ := h
    · exact ⟨rfl, rfl, rfl, rfl⟩
    · exact ⟨rfl, rfl, rfl, rfl⟩
  obtain ⟨hentries, hcount, hbytes, hflag⟩ := hfresh
  refine ⟨?_, ?_, ?_, ?_⟩
  · rw [hcount, hentries, List.length_nil]
  · rw [hbytes, hentries, List.map_nil, List.map_nil, List.sum_nil]
  · rw [hentries, List.map_nil, admitted]
  · rw [hflag]
    exact ⟨fun h => absurd h Bool.false_ne_true, fun h => absurd (.nil _ _) h⟩

/-- A request with room for eight bytes of response metadata. -/
private def smallMetadataRequest : CallRequest := { key := [], maxResponseMetadataBytes := 8 }

/-- The callback for a field of the response headers. -/
private def responseField (name value : String) : CallInput :=
  .event ⟨false, 32, 8388608⟩ [] (.header .response (ascii name.toList) (ascii value.toList))

end GrpcLite
