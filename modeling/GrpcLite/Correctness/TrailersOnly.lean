import GrpcLite.Correctness.ResponseMetadata

/-!
# Trailers-only responses

A grpc-status among the first response headers moves what is stored so far to the
trailing metadata. What is stored behind it follows only if the status is a valid
one, so the order of the fields matters for an invalid one.
-/

namespace GrpcLite

open Admission

/-- The callbacks for the fields of one header block; the answers to resets do not reach the
call. -/
def GrpcCall.onBlock (call : GrpcCall) (cat : HeaderCategory) (block : List (Bytes × Bytes)) :
    GrpcCall :=
  block.foldl
    (fun call field => (CallbackState.onHeader ⟨call, [], []⟩ cat field.1 field.2).1.call) call

/-- The metadata fields of a block. -/
def metadataFields (block : List (Bytes × Bytes)) : List (Bytes × Bytes) :=
  block.filter fun field => isMetadataName field.1

/-- The fields of a first block that are within the limits. -/
def storedFields (limit : Nat) (block : List (Bytes × Bytes)) : List (Bytes × Bytes) :=
  admitted fieldBytes CallbackState.maxResponseMetadataEntries limit (metadataFields block)

theorem metadataFields_cons (field : Bytes × Bytes) (block : List (Bytes × Bytes)) :
    metadataFields (field :: block) =
      (if isMetadataName field.1 then [(field.1, field.2)] else []) ++ metadataFields block := by
  simp only [metadataFields, List.filter_cons]
  split <;> rfl

theorem isMetadataName_grpcStatus : isMetadataName HeaderName.grpcStatus = false := by decide

namespace MetadataStore

/-- The fields of a block arrive. -/
def onBlock (m : MetadataStore) (cat : HeaderCategory) (block : List (Bytes × Bytes)) :
    MetadataStore :=
  block.foldl (fun m field => m.onHeader cat field.1 field.2) m

theorem onBlock_append (m : MetadataStore) (cat : HeaderCategory) (xs ys : List (Bytes × Bytes)) :
    m.onBlock cat (xs ++ ys) = (m.onBlock cat xs).onBlock cat ys := List.foldl_append

theorem Holds.onBlock {m : MetadataStore} {received : List (Bytes × Bytes)} (h : m.Holds received)
    (cat : HeaderCategory) (block : List (Bytes × Bytes)) :
    (m.onBlock cat block).Holds (received ++ metadataFields block) := by
  induction block generalizing m received with
  | nil =>
    rw [metadataFields, List.filter_nil, List.append_nil]
    exact h
  | cons field block ih =>
    have hstep := ih (h.onHeader cat field.1 field.2)
    rw [List.append_assoc, ← metadataFields_cons] at hstep
    exact hstep

@[simp] theorem onHeader_limit (m : MetadataStore) (cat : HeaderCategory) (name value : Bytes) :
    (m.onHeader cat name value).limit = m.limit := by
  unfold onHeader add
  split
  · rfl
  split
  · split <;> rfl
  · rfl

theorem onBlock_limit (m : MetadataStore) (cat : HeaderCategory) (block : List (Bytes × Bytes)) :
    (m.onBlock cat block).limit = m.limit := by
  induction block generalizing m with
  | nil => rfl
  | cons field block ih => exact (ih _).trans (m.onHeader_limit cat field.1 field.2)

/-- The map of a field of the response headers behind a given status. -/
def followsStatus (status : Int) (entry : MetadataEntry) : Prop :=
  entry.trailing = (decide (status ≥ 0) || decide (entry.key = HeaderName.grpcStatusDetailsBin))

/-- A field other than the status is stored behind the others, if at all. -/
theorem onHeader_response (m : MetadataStore) {name : Bytes} (value : Bytes)
    (hname : name ≠ HeaderName.grpcStatus) :
    ∃ new, (m.onHeader .response name value).entries = m.entries ++ new ∧
      (∀ entry ∈ new, followsStatus m.status entry) ∧
      (m.onHeader .response name value).status = m.status := by
  unfold onHeader add
  rw [if_neg hname]
  split
  · split
    · exact ⟨[], (List.append_nil _).symm, fun _ h => absurd h List.not_mem_nil, rfl⟩
    · refine ⟨[⟨name, value, m.isTrailing .response name⟩], rfl, fun entry hentry => ?_, rfl⟩
      rw [List.mem_singleton.mp hentry]
      rfl
  · exact ⟨[], (List.append_nil _).symm, fun _ h => absurd h List.not_mem_nil, rfl⟩

/-- Fields behind the last status are stored behind the others; the status decides on their
map. -/
theorem onBlock_response (m : MetadataStore) {block : List (Bytes × Bytes)}
    (hblock : ∀ field ∈ block, field.1 ≠ HeaderName.grpcStatus) :
    ∃ new, (m.onBlock .response block).entries = m.entries ++ new ∧
      ∀ entry ∈ new, followsStatus m.status entry := by
  induction block generalizing m with
  | nil => exact ⟨[], (List.append_nil _).symm, fun _ h => absurd h List.not_mem_nil⟩
  | cons field block ih =>
    obtain ⟨first, hfirst, htags, hstatus⟩ :=
      m.onHeader_response field.2 (hblock field List.mem_cons_self)
    obtain ⟨rest, hrest, htags'⟩ :=
      ih (m.onHeader .response field.1 field.2) fun f hf => hblock f (List.mem_cons_of_mem _ hf)
    refine ⟨first ++ rest, hrest.trans ?_, fun entry hentry => ?_⟩
    · rw [hfirst, List.append_assoc]
    · rcases List.mem_append.mp hentry with h | h
      · exact htags entry h
      · exact hstatus ▸ htags' entry h

end MetadataStore

theorem GrpcCall.onBlock_store (call : GrpcCall) (cat : HeaderCategory)
    (block : List (Bytes × Bytes)) :
    (call.onBlock cat block).store = call.store.onBlock cat block := by
  induction block generalizing call with
  | nil => rfl
  | cons field block ih =>
    refine (ih _).trans ?_
    rw [CallbackState.onHeader_store]
    rfl

/-! ## The last status of the block -/

/-- The entries behind a block with a status: those stored up to its last status are trailing, and
the last status decides on the others, which are the stored fields behind it. -/
theorem onBlock_entries {m : MetadataStore} (hfresh : m.Holds []) (pre : List (Bytes × Bytes))
    (value : Bytes) {post : List (Bytes × Bytes)}
    (hpost : ∀ field ∈ post, field.1 ≠ HeaderName.grpcStatus) :
    ∃ old new, (m.onBlock .response (pre ++ (HeaderName.grpcStatus, value) :: post)).entries =
        old ++ new ∧ (∀ entry ∈ old, entry.trailing = true) ∧
      (∀ entry ∈ new, MetadataStore.followsStatus (Protocol.parseStatusValue value) entry) ∧
      new.map MetadataEntry.field =
        (storedFields m.limit (pre ++ (HeaderName.grpcStatus, value) :: post)).drop
          (metadataFields pre).length := by
  have hpre := hfresh.onBlock .response pre
  rw [List.nil_append] at hpre
  have hlimit := m.onBlock_limit .response pre
  obtain ⟨new, hentries, htags⟩ := MetadataStore.onBlock_response
    ((m.onBlock .response pre).onHeader .response HeaderName.grpcStatus value) hpost
  have hmarked : ((m.onBlock .response pre).onHeader .response HeaderName.grpcStatus value).entries =
      (m.onBlock .response pre).entries.map MetadataEntry.asTrailing := rfl
  have hrun : (m.onBlock .response (pre ++ (HeaderName.grpcStatus, value) :: post)).entries =
      (m.onBlock .response pre).entries.map MetadataEntry.asTrailing ++ new := by
    rw [MetadataStore.onBlock_append, ← hmarked]
    exact hentries
  refine ⟨_, new, hrun, fun entry hentry => ?_, htags, ?_⟩
  · obtain ⟨old, -, rfl⟩ := List.mem_map.mp hentry
    rfl
  -- The stored fields are those of the entries, so the new ones are what follows the old.
  have hall := (hfresh.onBlock .response (pre ++ (HeaderName.grpcStatus, value) :: post)).fields
  rw [MetadataStore.onBlock_limit, List.nil_append] at hall
  change _ = storedFields m.limit _ at hall
  have hfields : metadataFields (pre ++ (HeaderName.grpcStatus, value) :: post) =
      metadataFields pre ++ metadataFields post := by
    rw [metadataFields, List.filter_append]
    change _ ++ metadataFields _ = _
    rw [metadataFields_cons, isMetadataName_grpcStatus]
    rfl
  rw [hrun, List.map_append, MetadataStore.map_field_asTrailing, hpre.fields, hlimit] at hall
  rw [← hall]
  by_cases hwithin : Within fieldBytes CallbackState.maxResponseMetadataEntries m.limit
      (metadataFields pre)
  · rw [admitted_eq_self_iff.mpr hwithin, List.drop_left]
  · -- nothing is stored behind the first rejected field
    have hnone : new.map MetadataEntry.field = [] := by
      have hsame := admitted_append_of_not_within (metadataFields post) hwithin
      rw [storedFields, hfields, hsame] at hall
      exact List.append_right_eq_self.mp hall
    rw [hnone, List.append_nil, List.drop_eq_nil_of_le (admitted_isPrefix _ _ _).length_le]

/-- Every stored field is in the trailing map and none is in the initial one. -/
structure AllTrailing (call : GrpcCall) (stored : List (Bytes × Bytes)) : Prop where
  /-- The initial map is empty. -/
  initial : call.copyMetadataMap false = []
  /-- The trailing map has the values of all stored fields. -/
  trailing : ∀ key, (call.copyMetadataMap true).find key =
    if Metadata.valuesOf stored key = [] then none else some (Metadata.valuesOf stored key)

/-- The last grpc-status of the block is a valid one, or what is stored behind it is
grpc-status-details-bin only. -/
def StatusSettles (limit : Nat) (block : List (Bytes × Bytes)) : Prop :=
  ∃ pre value post, block = pre ++ (HeaderName.grpcStatus, value) :: post ∧
    (∀ field ∈ post, field.1 ≠ HeaderName.grpcStatus) ∧
    (0 ≤ Protocol.parseStatusValue value ∨
      ∀ field ∈ (storedFields limit block).drop (metadataFields pre).length,
        field.1 = HeaderName.grpcStatusDetailsBin)

/-- A block with a status has a last one. -/
theorem exists_last_status {block : List (Bytes × Bytes)}
    (h : ∃ value, (HeaderName.grpcStatus, value) ∈ block) :
    ∃ pre value post, block = pre ++ (HeaderName.grpcStatus, value) :: post ∧
      ∀ field ∈ post, field.1 ≠ HeaderName.grpcStatus := by
  induction block with
  | nil =>
    obtain ⟨value, hmem⟩ := h
    exact absurd hmem List.not_mem_nil
  | cons field block ih =>
    by_cases hlater : ∃ value, (HeaderName.grpcStatus, value) ∈ block
    · obtain ⟨pre, value, post, rfl, hpost⟩ := ih hlater
      exact ⟨field :: pre, value, post, rfl, hpost⟩
    · obtain ⟨value, hmem⟩ := h
      rcases List.mem_cons.mp hmem with rfl | hmem
      · refine ⟨[], value, block, rfl, fun f hf heq => hlater ⟨f.2, ?_⟩⟩
        rw [← heq]
        exact hf
      · exact absurd ⟨value, hmem⟩ hlater

/-- There is only one last status. -/
theorem last_status_unique {pre pre' post post' : List (Bytes × Bytes)} {value value' : Bytes}
    (h : pre ++ (HeaderName.grpcStatus, value) :: post =
      pre' ++ (HeaderName.grpcStatus, value') :: post')
    (hpost : ∀ field ∈ post, field.1 ≠ HeaderName.grpcStatus)
    (hpost' : ∀ field ∈ post', field.1 ≠ HeaderName.grpcStatus) : pre = pre' ∧ value = value' := by
  rcases List.append_eq_append_iff.mp h with ⟨mid, hpre, hrest⟩ | ⟨mid, hpre, hrest⟩
  · cases mid with
    | nil =>
      rw [List.append_nil] at hpre
      injection hrest with hfield _
      exact ⟨hpre.symm, congrArg Prod.snd hfield⟩
    | cons first mid =>
      injection hrest with _ hpostEq
      refine absurd rfl (hpost (HeaderName.grpcStatus, value') ?_)
      rw [hpostEq]
      exact List.mem_append_right _ List.mem_cons_self
  · cases mid with
    | nil =>
      rw [List.append_nil] at hpre
      injection hrest with hfield _
      exact ⟨hpre, (congrArg Prod.snd hfield).symm⟩
    | cons first mid =>
      injection hrest with _ hpostEq
      refine absurd rfl (hpost' (HeaderName.grpcStatus, value) ?_)
      rw [hpostEq]
      exact List.mem_append_right _ List.mem_cons_self

theorem valuesOf_ne_nil {fields : List (Bytes × Bytes)} {field : Bytes × Bytes} (h : field ∈ fields) :
    Metadata.valuesOf fields field.1 ≠ [] := by
  obtain ⟨value, hvalue⟩ := List.exists_mem_of_ne_nil _ (Metadata.fieldValues_ne_nil field)
  refine List.ne_nil_of_mem (a := value) (List.mem_flatMap.mpr ⟨field, ?_, hvalue⟩)
  exact List.mem_filter.mpr ⟨h, decide_eq_true rfl⟩

/-- The maps show whether all entries are trailing. -/
theorem allTrailing_iff {call : GrpcCall} {stored : List (Bytes × Bytes)}
    (hstored : call.metadata.map MetadataEntry.field = stored) :
    AllTrailing call stored ↔ ∀ entry ∈ call.metadata, entry.trailing = true := by
  constructor
  · rintro ⟨hinitial, -⟩ entry hentry
    by_contra hfalse
    rw [Bool.not_eq_true] at hfalse
    have hmem : entry.field ∈ call.metadataMap false := by
      refine List.mem_map.mpr ⟨entry, List.mem_filter.mpr ⟨hentry, ?_⟩, rfl⟩
      rw [hfalse]
      rfl
    have hfind := call.copyMetadataMap_find false entry.field.1
    rw [hinitial, if_neg (valuesOf_ne_nil hmem)] at hfind
    cases hfind
  · intro hall
    have hnone : call.metadataMap false = [] := by
      refine List.map_eq_nil_iff.mpr (List.filter_eq_nil_iff.mpr fun entry hentry => ?_)
      rw [hall entry hentry]
      decide
    have hsame : call.metadataMap true = stored := by
      rw [← hstored]
      refine congrArg (List.map _) (List.filter_eq_self.mpr fun entry hentry => ?_)
      rw [hall entry hentry]
      rfl
    refine ⟨?_, fun key => ?_⟩
    · rw [GrpcCall.copyMetadataMap, hnone, List.foldl_nil]
    · rw [← hsame]
      exact call.copyMetadataMap_find true key

/-- A block as the first one of a call: what is stored of it, and on which side. -/
theorem onBlock_allTrailing_iff {call : GrpcCall} (hfresh : call.store.Holds [])
    {block : List (Bytes × Bytes)} (hstatus : ∃ value, (HeaderName.grpcStatus, value) ∈ block) :
    AllTrailing (call.onBlock .response block)
        (storedFields call.maxResponseMetadataBytes block) ↔
      StatusSettles call.maxResponseMetadataBytes block := by
  have hstore := call.onBlock_store .response block
  have hholds := hfresh.onBlock .response block
  rw [← hstore, List.nil_append] at hholds
  have hfields : (call.onBlock .response block).metadata.map MetadataEntry.field =
      storedFields call.maxResponseMetadataBytes block := by
    refine hholds.fields.trans ?_
    rw [hstore, call.store.onBlock_limit]
    rfl
  rw [allTrailing_iff hfields]
  obtain ⟨pre, value, post, rfl, hpost⟩ := exists_last_status hstatus
  obtain ⟨old, new, hentries, hold, hnew, hbehind⟩ :=
    onBlock_entries hfresh pre value hpost
  rw [← hstore] at hentries
  change GrpcCall.metadata _ = _ at hentries
  rw [hentries]
  constructor
  · intro hall
    refine ⟨pre, value, post, rfl, hpost, ?_⟩
    by_cases hvalid : 0 ≤ Protocol.parseStatusValue value
    · exact .inl hvalid
    · refine .inr fun field hfield => ?_
      rw [show call.maxResponseMetadataBytes = call.store.limit from rfl, ← hbehind] at hfield
      obtain ⟨entry, hentry, rfl⟩ := List.mem_map.mp hfield
      have htag := hnew entry hentry
      rw [MetadataStore.followsStatus, hall entry (List.mem_append_right _ hentry),
        decide_eq_false hvalid, Bool.false_or, eq_comm, decide_eq_true_eq] at htag
      exact htag
  · rintro ⟨pre', value', post', heq, hpost', hsettles⟩ entry hentry
    obtain ⟨rfl, rfl⟩ := last_status_unique heq hpost hpost'
    rcases List.mem_append.mp hentry with h | h
    · exact hold entry h
    · rw [hnew entry h]
      rcases hsettles with hvalid | hdetails
      · rw [decide_eq_true hvalid, Bool.true_or]
      · have hmem : entry.field ∈ new.map MetadataEntry.field := List.mem_map_of_mem h
        rw [hbehind] at hmem
        have hkey : entry.key = HeaderName.grpcStatusDetailsBin := hdetails entry.field hmem
        rw [decide_eq_true hkey, Bool.or_true]

/-- The same values under each key, in any order. -/
def SameUpToOrder (map map' : Metadata.Map) : Prop :=
  ∀ key, Option.Rel List.Perm (map.find key) (map'.find key)

theorem AllTrailing.sameUpToOrder {call call' : GrpcCall} {stored stored' : List (Bytes × Bytes)}
    (h : AllTrailing call stored) (h' : AllTrailing call' stored') (hperm : stored.Perm stored')
    (trailing : Bool) :
    SameUpToOrder (call.copyMetadataMap trailing) (call'.copyMetadataMap trailing) := by
  intro key
  cases trailing with
  | false =>
    rw [h.initial, h'.initial]
    exact .none
  | true =>
    have hvalues : (Metadata.valuesOf stored key).Perm (Metadata.valuesOf stored' key) :=
      (hperm.filter _).flatMap_right _
    rw [h.trailing, h'.trailing]
    by_cases hnil : Metadata.valuesOf stored key = []
    · rw [if_pos hnil, if_pos (List.nil_perm.mp (hnil ▸ hvalues))]
      exact .none
    · have hnil' : Metadata.valuesOf stored' key ≠ [] := fun h => hnil (List.perm_nil.mp (h ▸ hvalues))
      rw [if_neg hnil, if_neg hnil']
      exact .some hvalues

/-- For every first response block with a grpc-status: all its stored fields are trailing exactly
when its last status is valid or only grpc-status-details-bin is stored behind that status. Two
orderings of a block within the limits that are both so give the same maps up to the order of
values within a key. -/
theorem trailersOnly_iff {start : GrpcCall} {k : ConnId} (hstart : start.Started k)
    {before : List CallInput} (hfirst : ∀ i ∈ before, i.isHeader = false)
    (block : List (Bytes × Bytes)) (hstatus : ∃ value, (HeaderName.grpcStatus, value) ∈ block) :
    (AllTrailing ((start.applyAll before).onBlock .response block)
        (storedFields start.maxResponseMetadataBytes block) ↔
      StatusSettles start.maxResponseMetadataBytes block) ∧
    ∀ block' : List (Bytes × Bytes), block.Perm block' →
      Within fieldBytes CallbackState.maxResponseMetadataEntries start.maxResponseMetadataBytes
        (metadataFields block) →
      StatusSettles start.maxResponseMetadataBytes block →
      StatusSettles start.maxResponseMetadataBytes block' → ∀ trailing,
      SameUpToOrder (((start.applyAll before).onBlock .response block).copyMetadataMap trailing)
        (((start.applyAll before).onBlock .response block').copyMetadataMap trailing) := by
  have hnone : receivedFields before = [] := by
    refine List.filterMap_eq_nil_iff.mpr fun i hi => ?_
    have hheader := hfirst i hi
    cases i with
    | event ra answers event =>
      cases event with
      | header cat name value => cases hheader
      | _ => rfl
    | _ => rfl
  have hfresh := GrpcCall.holds_applyAll hstart.direct hstart.holds before
  rw [hnone] at hfresh
  have hlimit : (start.applyAll before).maxResponseMetadataBytes = start.maxResponseMetadataBytes :=
    congrArg (fun call => call.maxResponseMetadataBytes) (start.applyAll_config before)
  have hiff : ∀ block : List (Bytes × Bytes), (∃ value, (HeaderName.grpcStatus, value) ∈ block) →
      (AllTrailing ((start.applyAll before).onBlock .response block)
        (storedFields start.maxResponseMetadataBytes block) ↔
          StatusSettles start.maxResponseMetadataBytes block) := by
    intro block hstatus
    rw [← hlimit]
    exact onBlock_allTrailing_iff hfresh hstatus
  refine ⟨hiff block hstatus, fun block' hperm hwithin hsettles hsettles' trailing => ?_⟩
  have hstatus' : ∃ value, (HeaderName.grpcStatus, value) ∈ block' := by
    obtain ⟨value, hmem⟩ := hstatus
    exact ⟨value, hperm.mem_iff.mp hmem⟩
  have hfields : (metadataFields block).Perm (metadataFields block') := hperm.filter _
  refine ((hiff block hstatus).mpr hsettles).sameUpToOrder
    ((hiff block' hstatus').mpr hsettles') ?_ trailing
  rw [storedFields, storedFields, admitted_eq_self_iff.mpr hwithin,
    admitted_eq_self_iff.mpr (hwithin.perm hfields)]
  exact hfields

/-- A request with the default limit on response metadata. -/
private def trailersRequest : CallRequest := { key := [] }

/-- A field of a block. -/
private def textField (name value : String) : Bytes × Bytes :=
  (ascii name.toList, ascii value.toList)

/-- A valid status between two fields moves both. -/
theorem trailersOnly_valid :
    (∃ value, (HeaderName.grpcStatus, value) ∈
      [textField "x" "1", textField "grpc-status" "5", textField "y" "2"]) ∧
    AllTrailing (((trailersRequest.unaryCall 0 0).applyAll []).onBlock .response
        [textField "x" "1", textField "grpc-status" "5", textField "y" "2"])
      (storedFields 65536 [textField "x" "1", textField "grpc-status" "5", textField "y" "2"]) := by
  have hstatus : ∃ value, (HeaderName.grpcStatus, value) ∈
      [textField "x" "1", textField "grpc-status" "5", textField "y" "2"] :=
    ⟨ascii ['5'], by decide⟩
  refine ⟨hstatus, (trailersOnly_iff ⟨trailersRequest, 0, .inl rfl⟩ (by decide) _ hstatus).1.mpr ?_⟩
  refine ⟨[textField "x" "1"], ascii ['5'], [textField "y" "2"], rfl, by decide, .inl (by decide)⟩

/-- A field behind an invalid status stays in the initial map, and the other order of the block
moves it. -/
theorem trailersOnly_invalid_status :
    ((trailersRequest.unaryCall 0 0).onBlock .response
      [textField "grpc-status" "abc", textField "x" "1"]).copyMetadataMap false =
        [(ascii ['x'], [ascii ['1']])] ∧
    ((trailersRequest.unaryCall 0 0).onBlock .response
      [textField "x" "1", textField "grpc-status" "abc"]).copyMetadataMap false = [] := by
  decide +kernel

end GrpcLite
