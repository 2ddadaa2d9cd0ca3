import GrpcLite.Surface.CallMetadata

/-!
# Merged metadata

Behind the merge every key has the values of the call followed by those of the
plugin, in whatever shape either side holds them. The keys of the call come first,
then the new ones of the plugin. The parts of `x-goog-api-client` end up in one value
with the same words in the same order.
-/

namespace GrpcLite

/-- A string or a list of strings. -/
def MetadataValue.Textual (value : MetadataValue) : Prop := ∀ v ∈ value.values, v.isSome

namespace MetadataMap

/-- All values are strings or lists of strings. -/
def Textual (map : MetadataMap) : Prop := ∀ entry ∈ map.entries, entry.2.Textual

/-- The values of a key, none of them for a missing one. -/
def valuesOf (map : MetadataMap) (key : ArrayKey) : List (Option Bytes) :=
  (map.find key).elim [] MetadataValue.values

/-- The non-empty words between spaces. -/
def words (text : Bytes) : List Bytes := (text.splitOn 32).filter fun word => word ≠ []

/-- The words of several parts. -/
def wordsOf (parts : List (Option Bytes)) : List Bytes := parts.flatMap fun part =>
  words (part.getD [])

/-! ## Words -/

theorem words_nil : words [] = [] := rfl

/-- A space divides the words. -/
theorem words_space (left right : Bytes) : words (left ++ 32 :: right) = words left ++ words right := by
  rw [words, List.splitOn_append_cons_self, List.filter_append]
  rfl

/-- A part appends its words. -/
theorem appendXGoogApiClientPart_words (buffer : Option Bytes) (value : Bytes) :
    ∃ text, appendXGoogApiClientPart buffer (some value) = some (some text) ∧
      words text = words (buffer.getD []) ++ words value := by
  cases buffer with
  | none => exact ⟨value, rfl, by rw [Option.getD_none, words_nil, List.nil_append]⟩
  | some text =>
    refine ⟨_, rfl, ?_⟩
    rw [Option.getD_some]
    cases text with
    | nil => rw [words_nil, List.nil_append, List.length_nil, if_neg (Nat.lt_irrefl 0)]; rfl
    | cons b text =>
      rw [List.length_cons, if_pos (Nat.succ_pos _), List.append_assoc, List.singleton_append,
        words_space]

/-- The loop over the parts of one value; the buffer is there behind the first part. -/
theorem foldlM_appendXGoogApiClientPart {parts : List (Option Bytes)}
    (hparts : ∀ part ∈ parts, part.isSome) (buffer : Option Bytes) :
    ∃ buffer', parts.foldlM appendXGoogApiClientPart buffer = some buffer' ∧
      words (buffer'.getD []) = words (buffer.getD []) ++ wordsOf parts ∧
      (parts ≠ [] ∨ buffer.isSome → buffer'.isSome) := by
  induction parts generalizing buffer with
  | nil =>
    refine ⟨buffer, rfl, (List.append_nil _).symm, ?_⟩
    rintro (h | h)
    · exact absurd rfl h
    · exact h
  | cons part parts ih =>
    obtain ⟨value, rfl⟩ := Option.isSome_iff_exists.mp (hparts part List.mem_cons_self)
    obtain ⟨text, htext, hwords⟩ := appendXGoogApiClientPart_words buffer value
    obtain ⟨buffer', hrest, hmore, hsome⟩ :=
      ih (fun other hmem => hparts other (List.mem_cons_of_mem _ hmem)) (some text)
    refine ⟨buffer', ?_, ?_, fun _ => hsome (.inr rfl)⟩
    · rw [List.foldlM_cons, htext]
      exact hrest
    · rw [hmore, Option.getD_some, hwords, List.append_assoc]
      rfl

theorem appendXGoogApiClientParts_eq (buffer : Option Bytes) (value : MetadataValue) :
    appendXGoogApiClientParts buffer value =
      value.values.foldlM appendXGoogApiClientPart buffer := by
  cases value with
  | array values => rfl
  | string text =>
    obtain ⟨result, hresult, -⟩ := appendXGoogApiClientPart_words buffer text
    simp only [appendXGoogApiClientParts, MetadataValue.values, List.foldlM_cons, List.foldlM_nil,
      hresult, Option.bind_eq_bind, Option.bind_some, Option.pure_def]
  | other => rfl

/-! ## One entry -/

theorem Textual.find {map : MetadataMap} (h : map.Textual) {key : ArrayKey} {value : MetadataValue}
    (hfind : map.find key = some value) : value.Textual := by
  have hmem : ∀ entries : List (ArrayKey × MetadataValue),
      OrderedMap.findIn key entries = some value → (key, value) ∈ entries := by
    intro entries hin
    induction entries with
    | nil => cases hin
    | cons entry rest ih =>
      obtain ⟨k, v⟩ := entry
      by_cases hk : k = key
      · subst hk
        rw [OrderedMap.findIn, if_pos rfl, Option.some.injEq] at hin
        exact hin ▸ List.mem_cons_self
      · rw [OrderedMap.findIn, if_neg hk] at hin
        exact List.mem_cons_of_mem _ (ih hin)
  exact h _ (hmem _ hfind)

/-- The parts of both sides are folded into one value. -/
theorem foldXGoogApiClient_folds {map : MetadataMap} {value : MetadataValue}
    (hmap : ∀ old, map.find (.name xGoogApiClient) = some old → old.Textual)
    (hvalue : value.Textual) (hparts : value.values ≠ []) :
    ∃ text, map.foldXGoogApiClient (some xGoogApiClient) value =
        some (map.update (.name xGoogApiClient) (.array [some text])) ∧
      words text = wordsOf (map.valuesOf (.name xGoogApiClient) ++ value.values) := by
  have hbuffer : ∃ buffer, map.existingXGoogApiClientParts = some buffer ∧
      words (buffer.getD []) = wordsOf (map.valuesOf (.name xGoogApiClient)) := by
    rw [existingXGoogApiClientParts, valuesOf]
    cases hfind : map.find (.name xGoogApiClient) with
    | none => exact ⟨none, rfl, rfl⟩
    | some old =>
      obtain ⟨buffer, hfold, hwords, -⟩ := foldlM_appendXGoogApiClientPart (hmap old hfind) none
      exact ⟨buffer, (appendXGoogApiClientParts_eq none old).trans hfold, hwords⟩
  obtain ⟨buffer, hold, hwords⟩ := hbuffer
  obtain ⟨buffer', hfold, hmore, hsome⟩ := foldlM_appendXGoogApiClientPart hvalue buffer
  obtain ⟨text, rfl⟩ := Option.isSome_iff_exists.mp (hsome (.inl hparts))
  refine ⟨text, ?_, ?_⟩
  · simp only [foldXGoogApiClient, ne_eq, not_true_eq_false, if_false, hold,
      appendXGoogApiClientParts_eq, hfold]
  · rw [Option.getD_some] at hmore
    rw [hmore, hwords, wordsOf, wordsOf, wordsOf, List.flatMap_append]

/-- Other keys are not folded. -/
theorem foldXGoogApiClient_other {map : MetadataMap} {key : Option Bytes}
    (h : key ≠ some xGoogApiClient) (value : MetadataValue) :
    map.foldXGoogApiClient key value = none := by
  rw [foldXGoogApiClient, if_pos h]

/-- Whatever an entry does, it gives its own key a value. -/
theorem mergeEntry_updates (map : MetadataMap) (name : Bytes) (value : MetadataValue) :
    ∃ merged, map.mergeEntry (.name name, value) = map.update (.name name) merged := by
  unfold mergeEntry
  split
  · next folded hfold =>
    unfold foldXGoogApiClient at hfold
    split at hfold
    · cases hfold
    · next hkey =>
      obtain rfl := Option.some.inj (not_not.mp hkey)
      split at hfold
      · cases hfold
      · split at hfold
        · cases hfold
        · cases hfold
        · exact ⟨_, (Option.some.inj hfold).symm⟩
  · simp only [ArrayKey.string, appendMetadataZval]
    split
    · exact ⟨_, rfl⟩
    · exact ⟨_, rfl⟩

theorem mergeEntry_index (map : MetadataMap) (n : Int) (value : MetadataValue) :
    map.mergeEntry (.index n, value) = map := by
  rw [mergeEntry, foldXGoogApiClient_other (by simp [ArrayKey.string])]
  rfl

/-- Values are appended in order. -/
theorem foldl_addNextIndex (values existing : List (Option Bytes)) :
    values.foldl addNextIndex existing = existing ++ values := by
  induction values generalizing existing with
  | nil => exact (List.append_nil existing).symm
  | cons value values ih => rw [List.foldl_cons, ih, addNextIndex, List.append_assoc]; rfl

/-- The values of the entry follow those of the map. -/
theorem mergeEntry_values (map : MetadataMap) {name : Bytes} (h : name ≠ xGoogApiClient)
    (value : MetadataValue) :
    (map.mergeEntry (.name name, value)).valuesOf (.name name) =
      map.valuesOf (.name name) ++ value.values := by
  have hkey : ArrayKey.string (.name name) ≠ some xGoogApiClient := by
    simpa [ArrayKey.string] using h
  rw [mergeEntry, foldXGoogApiClient_other hkey]
  simp only [ArrayKey.string, appendMetadataZval, valuesOf]
  cases hfind : map.find (.name name) with
  | none => simp
  | some existing =>
    simp only [OrderedMap.find_update, if_true, Option.elim_some]
    cases existing <;> cases value <;> simp [MetadataValue.values, foldl_addNextIndex, addNextIndex]

/-- An entry is merged under its own key. -/
theorem mergeEntry_find_other {map : MetadataMap} {key other : ArrayKey} (h : other ≠ key)
    (value : MetadataValue) : (map.mergeEntry (key, value)).find other = map.find other := by
  cases key with
  | index n => rw [mergeEntry_index]
  | name name =>
    obtain ⟨merged, hmerged⟩ := map.mergeEntry_updates name value
    rw [hmerged, OrderedMap.find_update, if_neg h]

/-- The key takes part in the merge and is new. -/
def isNew (map : MetadataMap) (key : ArrayKey) : Bool :=
  key.string.isSome && decide (key ∉ map.keys)

/-- A key is new or has its place already. -/
theorem mergeEntry_keys (map : MetadataMap) (key : ArrayKey) (value : MetadataValue) :
    (map.mergeEntry (key, value)).keys = map.keys ++ if map.isNew key then [key] else [] := by
  cases key with
  | index n =>
    rw [mergeEntry_index]
    exact (List.append_nil _).symm
  | name name =>
    obtain ⟨merged, hmerged⟩ := map.mergeEntry_updates name value
    rw [hmerged, OrderedMap.keys_update]
    by_cases hmem : ArrayKey.name name ∈ map.keys
    · simp [isNew, hmem]
    · simp [isNew, hmem, ArrayKey.string]

/-! ## All entries -/

variable {entries : List (ArrayKey × MetadataValue)}

/-- Other keys stay. -/
theorem foldl_mergeEntry_find_other {key : ArrayKey} (h : key ∉ entries.map Prod.fst)
    (map : MetadataMap) : (entries.foldl mergeEntry map).find key = map.find key := by
  induction entries generalizing map with
  | nil => rfl
  | cons entry rest ih =>
    obtain ⟨k, value⟩ := entry
    rw [List.map_cons, List.mem_cons, not_or] at h
    rw [List.foldl_cons, ih h.2, mergeEntry_find_other h.1]

theorem foldl_mergeEntry_index (n : Int) (map : MetadataMap) :
    (entries.foldl mergeEntry map).find (.index n) = map.find (.index n) := by
  induction entries generalizing map with
  | nil => rfl
  | cons entry rest ih =>
    obtain ⟨k, value⟩ := entry
    rw [List.foldl_cons, ih]
    cases k with
    | index m => rw [mergeEntry_index]
    | name name => rw [mergeEntry_find_other (by simp)]

/-- The entry of a key is the only one that changes it. -/
theorem foldl_mergeEntry_split {key : ArrayKey} {value : MetadataValue}
    (hnodup : (entries.map Prod.fst).Nodup) (hfind : OrderedMap.findIn key entries = some value)
    (map : MetadataMap) :
    ∃ before : MetadataMap, before.find key = map.find key ∧
      (entries.foldl mergeEntry map).find key = (before.mergeEntry (key, value)).find key := by
  induction entries generalizing map with
  | nil => cases hfind
  | cons entry rest ih =>
    obtain ⟨k, v⟩ := entry
    rw [List.map_cons, List.nodup_cons] at hnodup
    by_cases hk : k = key
    · subst hk
      rw [OrderedMap.findIn, if_pos rfl, Option.some.injEq] at hfind
      subst hfind
      exact ⟨map, rfl, by rw [List.foldl_cons, foldl_mergeEntry_find_other hnodup.1]⟩
    · rw [OrderedMap.findIn, if_neg hk] at hfind
      obtain ⟨before, hbefore, hfold⟩ := ih hnodup.2 hfind (map.mergeEntry (k, v))
      refine ⟨before, hbefore.trans (mergeEntry_find_other (fun h => hk h.symm) v), ?_⟩
      rw [List.foldl_cons]
      exact hfold

/-- New keys follow the old ones in order. -/
theorem foldl_mergeEntry_keys (hnodup : (entries.map Prod.fst).Nodup) (map : MetadataMap) :
    (entries.foldl mergeEntry map).keys =
      map.keys ++ (entries.map Prod.fst).filter map.isNew := by
  induction entries generalizing map with
  | nil => exact (List.append_nil _).symm
  | cons entry rest ih =>
    obtain ⟨k, v⟩ := entry
    rw [List.map_cons, List.nodup_cons] at hnodup
    have hsame : (rest.map Prod.fst).filter (map.mergeEntry (k, v)).isNew =
        (rest.map Prod.fst).filter map.isNew := by
      apply List.filter_congr
      intro key hkey
      have hne : key ≠ k := fun h => hnodup.1 (h ▸ hkey)
      have hmem : key ∈ (map.mergeEntry (k, v)).keys ↔ key ∈ map.keys := by
        rw [mergeEntry_keys]
        split <;> simp [hne]
      simp only [isNew, hmem]
    rw [List.foldl_cons, ih hnodup.2, hsame, mergeEntry_keys, List.map_cons, List.append_assoc]
    congr 1
    by_cases hnew : map.isNew k
    · rw [if_pos hnew, List.filter_cons_of_pos hnew, List.singleton_append]
    · rw [if_neg hnew, List.filter_cons_of_neg hnew, List.nil_append]

theorem foldl_mergeEntry_named (map : MetadataMap) :
    (entries.filter fun entry => entry.1.string.isSome).foldl mergeEntry map =
      entries.foldl mergeEntry map := by
  induction entries generalizing map with
  | nil => rfl
  | cons entry rest ih =>
    obtain ⟨k, v⟩ := entry
    cases k with
    | index n =>
      rw [List.filter_cons_of_neg (by simp [ArrayKey.string]), List.foldl_cons, mergeEntry_index]
      exact ih map
    | name name =>
      rw [List.filter_cons_of_pos rfl, List.foldl_cons, List.foldl_cons]
      exact ih _

/-- What a merge of a plugin's metadata into that of a call has to give. -/
structure Appended (metadata source merged : MetadataMap) : Prop where
  /-- The values of the source follow those of the call. -/
  values : ∀ name, name ≠ xGoogApiClient →
    merged.valuesOf (.name name) = metadata.valuesOf (.name name) ++ source.valuesOf (.name name)
  /-- The keys of the call keep their order, and the new string keys follow in theirs. -/
  keys : merged.keys = metadata.keys ++
    source.keys.filter fun key => key.string.isSome && decide (key ∉ metadata.keys)
  /-- Integer keys of the call keep their values. -/
  index : ∀ n, merged.find (.index n) = metadata.find (.index n)
  /-- Integer keys of the source change nothing. -/
  named : metadata.mergeMetadataAppendValues (source.restrict fun key => key.string.isSome) = merged
  /-- The parts of `x-goog-api-client` are in one value. -/
  folded : source.valuesOf (.name xGoogApiClient) ≠ [] → ∃ text,
    merged.find (.name xGoogApiClient) = some (.array [some text]) ∧
      words text = wordsOf (metadata.valuesOf (.name xGoogApiClient) ++
        source.valuesOf (.name xGoogApiClient))

/-- The values of a key are appended. -/
theorem mergeMetadataAppendValues_values (metadata source : MetadataMap) {name : Bytes}
    (h : name ≠ xGoogApiClient) :
    (metadata.mergeMetadataAppendValues source).valuesOf (.name name) =
      metadata.valuesOf (.name name) ++ source.valuesOf (.name name) := by
  cases hfind : source.find (.name name) with
  | none =>
    have habsent := OrderedMap.findIn_eq_none_iff.mp hfind
    rw [valuesOf, mergeMetadataAppendValues, foldl_mergeEntry_find_other habsent, valuesOf,
      valuesOf, hfind]
    exact (List.append_nil _).symm
  | some value =>
    obtain ⟨before, hbefore, hfold⟩ := foldl_mergeEntry_split source.nodup hfind metadata
    rw [valuesOf, mergeMetadataAppendValues, hfold]
    refine (before.mergeEntry_values h value).trans ?_
    rw [valuesOf, valuesOf, valuesOf, hbefore, hfind]
    rfl

/-- The words of both sides are in one text. -/
theorem mergeMetadataAppendValues_folded {metadata source : MetadataMap}
    (hmetadata : metadata.Textual) (hsource : source.Textual)
    (hparts : source.valuesOf (.name xGoogApiClient) ≠ []) :
    ∃ text, (metadata.mergeMetadataAppendValues source).find (.name xGoogApiClient) =
        some (.array [some text]) ∧
      words text = wordsOf (metadata.valuesOf (.name xGoogApiClient) ++
        source.valuesOf (.name xGoogApiClient)) := by
  cases hfind : source.find (.name xGoogApiClient) with
  | none =>
    rw [valuesOf, hfind] at hparts
    exact absurd rfl hparts
  | some value =>
    have hvalues : source.valuesOf (.name xGoogApiClient) = value.values := by
      rw [valuesOf, hfind]
      rfl
    rw [hvalues] at hparts ⊢
    obtain ⟨before, hbefore, hfold⟩ := foldl_mergeEntry_split source.nodup hfind metadata
    obtain ⟨text, htext, hwords⟩ := @foldXGoogApiClient_folds before value
      (fun old hold => hmetadata.find (hbefore ▸ hold)) (hsource.find hfind) hparts
    refine ⟨text, ?_, ?_⟩
    · rw [mergeMetadataAppendValues, hfold, mergeEntry]
      simp only [ArrayKey.string, htext, OrderedMap.find_update, if_true]
    · rw [hwords, valuesOf, valuesOf, hbefore]

/-- Whatever shapes the values on both sides have, the merge appends. -/
theorem mergeMetadataAppendValues_appends {metadata source : MetadataMap}
    (hmetadata : metadata.Textual) (hsource : source.Textual) :
    Appended metadata source (metadata.mergeMetadataAppendValues source) :=
  ⟨fun _ h => metadata.mergeMetadataAppendValues_values source h,
    foldl_mergeEntry_keys source.nodup metadata, fun n => foldl_mergeEntry_index n metadata,
    foldl_mergeEntry_named metadata, mergeMetadataAppendValues_folded hmetadata hsource⟩

/-- A string and a list under one key, an integer key, a new key, and two parts for a key that
the call has already. -/
theorem mergeMetadataAppendValues_appends_mixed :
    (MetadataMap.mergeMetadataAppendValues
      ⟨[(.name xGoogApiClient, .string [97]), (.name [107], .string [1])], by decide⟩
      ⟨[(.name [107], .array [some [2], some [3]]), (.index 0, .string [9]), (.name [110], .array []),
        (.name xGoogApiClient, .array [some [], some [98]])], by decide⟩).entries =
      [(.name xGoogApiClient, .array [some [97, 32, 32, 98]]),
        (.name [107], .array [some [1], some [2], some [3]]), (.name [110], .array [])] ∧
    Appended
      ⟨[(.name xGoogApiClient, .string [97]), (.name [107], .string [1])], by decide⟩
      ⟨[(.name [107], .array [some [2], some [3]]), (.index 0, .string [9]), (.name [110], .array []),
        (.name xGoogApiClient, .array [some [], some [98]])], by decide⟩
      (MetadataMap.mergeMetadataAppendValues
        ⟨[(.name xGoogApiClient, .string [97]), (.name [107], .string [1])], by decide⟩
        ⟨[(.name [107], .array [some [2], some [3]]), (.index 0, .string [9]),
          (.name [110], .array []), (.name xGoogApiClient, .array [some [], some [98]])],
          by decide⟩) :=
  ⟨by decide +kernel, mergeMetadataAppendValues_appends (by simp [Textual, MetadataValue.Textual,
    MetadataValue.values]) (by simp [Textual, MetadataValue.Textual, MetadataValue.values])⟩

end MetadataMap

end GrpcLite
