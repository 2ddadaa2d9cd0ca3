import GrpcLite.Correctness.RequestHeaders
import GrpcLite.Correctness.Timeouts

/-!
# The growing header array

The three counters of the builder stay below its capacity through every growth,
and the capacity has room for the fields of the library with all metadata values
that the count admits. So valid metadata is appended as a whole or refused.
-/

namespace GrpcLite

open Metadata

namespace H2RequestHeaders

/-- The counters fit into the arrays, and the arrays are not larger than allowed. -/
structure Roomy (headers : H2RequestHeaders) : Prop where
  /-- The fields fit. -/
  len : headers.nva.length ≤ headers.capacity
  /-- The names fit. -/
  names : headers.nameCount ≤ headers.capacity
  /-- The values fit. -/
  values : headers.valueCount ≤ headers.capacity
  /-- The hard limit. -/
  capacity : headers.capacity ≤ maxRequestMetadataValues + requestFixedHeaderCount

/-- One change of the builder. -/
inductive BuilderStep (headers : H2RequestHeaders) : H2RequestHeaders → Prop
  /-- The arrays grow. -/
  | grow : BuilderStep headers headers.growRequestHeaders
  /-- The string of the timeout is kept alive. -/
  | timeout : BuilderStep headers { headers with valueCount := headers.valueCount + 1 }
  /-- A field of the library is appended. -/
  | field (name value : Bytes) :
    BuilderStep headers (headers.appendRequestHeaderUnchecked name value)
  /-- A metadata value is appended. -/
  | custom (name value : Bytes) :
    BuilderStep headers { headers.appendRequestHeaderUnchecked name value with
      nameCount := headers.nameCount + 1
      valueCount := headers.valueCount + 1
      customValueCount := headers.customValueCount + 1 }

/-- A change that keeps the earlier fields and stays within the arrays. -/
def SafeStep (headers headers' : H2RequestHeaders) : Prop :=
  BuilderStep headers headers' ∧ headers'.Roomy ∧ headers.nva <+: headers'.nva

/-- The counters of a builder behind the fields of the library and some metadata values. -/
structure Counts (fixed custom : Nat) (headers : H2RequestHeaders) : Prop where
  /-- Metadata values so far. -/
  count : headers.customValueCount = custom
  /-- Fields so far. -/
  len : headers.nva.length = fixed + custom
  /-- Every metadata value keeps its name alive. -/
  names : headers.nameCount = custom
  /-- Every metadata value keeps its value alive, and the timeout does. -/
  values : headers.valueCount ≤ custom + 1
  /-- The fields fit. -/
  room : headers.nva.length ≤ headers.capacity
  /-- The arrays never shrink below the inline ones. -/
  least : 16 ≤ headers.capacity
  /-- The hard limit. -/
  most : headers.capacity ≤ maxRequestMetadataValues + requestFixedHeaderCount

section

variable {headers : H2RequestHeaders} {fixed custom : Nat}

theorem Counts.roomy (h : Counts fixed custom headers) (hfixed : 1 ≤ fixed) : headers.Roomy := by
  have hlen := h.len
  have hroom := h.room
  have hvalues := h.values
  refine ⟨hroom, ?_, ?_, h.most⟩
  · rw [h.names]
    omega
  · omega

/-- The arrays are full when the fields fill them. -/
theorem Counts.full_iff (h : Counts fixed custom headers) (hfixed : 2 ≤ fixed) :
    headers.full = true ↔ headers.nva.length = headers.capacity := by
  have hlen := h.len
  have hroom := h.room
  have hvalues := h.values
  have hnames := h.names
  simp only [full, Bool.or_eq_true, decide_eq_true_eq]
  omega

/-- Growing makes room as long as the metadata count admits another value. -/
theorem Counts.grow (h : Counts fixed custom headers) (hfixed : fixed ≤ requestFixedHeaderCount)
    (hcustom : custom < maxRequestMetadataValues) :
    Counts fixed custom headers.growRequestHeaders ∧
      headers.growRequestHeaders.nva.length < headers.growRequestHeaders.capacity := by
  have hlen := h.len
  have hroom := h.room
  have hleast := h.least
  have hmost := h.most
  have hcapacity : headers.growRequestHeaders.capacity = max headers.capacity
    (min (headers.capacity * 2) (maxRequestMetadataValues + requestFixedHeaderCount)) := rfl
  refine ⟨⟨h.count, h.len, h.names, h.values, ?_, ?_, ?_⟩, ?_⟩
  · rw [hcapacity]
    exact Nat.le_trans hroom (Nat.le_max_left _ _)
  · rw [hcapacity]
    exact Nat.le_trans hleast (Nat.le_max_left _ _)
  · rw [hcapacity]
    omega
  · have hlt : headers.nva.length < headers.growRequestHeaders.capacity := by
      rw [hcapacity]
      omega
    exact hlt

theorem Counts.makeRoom (h : Counts fixed custom headers) (hfixed : 2 ≤ fixed)
    (hfixed' : fixed ≤ requestFixedHeaderCount) (hcustom : custom < maxRequestMetadataValues) :
    Relation.ReflTransGen SafeStep headers headers.makeRoom ∧
      Counts fixed custom headers.makeRoom ∧ headers.makeRoom.full = false := by
  unfold H2RequestHeaders.makeRoom
  split
  · obtain ⟨hgrown, hlt⟩ := h.grow hfixed' hcustom
    refine ⟨.single ⟨.grow, hgrown.roomy (by omega), List.prefix_rfl⟩, hgrown, ?_⟩
    rw [← Bool.not_eq_true, hgrown.full_iff hfixed]
    exact Nat.ne_of_lt hlt
  · next hfull => exact ⟨.refl, h, Bool.not_eq_true _ ▸ hfull⟩

/-- A valid value is appended while the count admits it. -/
theorem Counts.append (h : Counts fixed custom headers) (hfixed : 2 ≤ fixed)
    (hfixed' : fixed ≤ requestFixedHeaderCount) (hcustom : custom < maxRequestMetadataValues)
    {key bytes : Bytes} (hvalid : isInvalidWireValue key (wireValue key bytes) = false) :
    ∃ headers', headers.appendCustomRequestHeaderValue key (some bytes) = .ok headers' ∧
      Relation.ReflTransGen SafeStep headers headers' ∧ Counts fixed (custom + 1) headers' := by
  obtain ⟨hsteps, hroom, hfull⟩ := h.makeRoom hfixed hfixed' hcustom
  have hcount : ¬headers.customValueCount ≥ maxRequestMetadataValues := by
    rw [h.count]
    omega
  have hlt : headers.makeRoom.nva.length < headers.makeRoom.capacity := by
    refine Nat.lt_of_le_of_ne hroom.room fun heq => ?_
    rw [(hroom.full_iff hfixed).mpr heq] at hfull
    exact absurd hfull (by decide)
  have hcounts : Counts fixed (custom + 1)
      { headers.makeRoom.appendRequestHeaderUnchecked key (wireValue key bytes) with
        nameCount := headers.makeRoom.nameCount + 1
        valueCount := headers.makeRoom.valueCount + 1
        customValueCount := headers.makeRoom.customValueCount + 1 } := by
    have hlen : (headers.makeRoom.nva ++ [(⟨key, wireValue key bytes⟩ : Header)]).length =
        headers.makeRoom.nva.length + 1 := by simp only [List.length_append, List.length_singleton]
    refine ⟨congrArg (· + 1) hroom.count, ?_, congrArg (· + 1) hroom.names,
      Nat.add_le_add_right hroom.values 1, ?_, hroom.least, hroom.most⟩
    · exact hlen.trans (congrArg (· + 1) hroom.len)
    · exact hlen.trans_le hlt
  refine ⟨_, ?_, hsteps.tail ⟨.custom key (wireValue key bytes), hcounts.roomy (by omega), ?_⟩,
    hcounts⟩
  · have hsame : headers.makeRoom.nameCount = headers.nameCount ∧
        headers.makeRoom.valueCount = headers.valueCount ∧
        headers.makeRoom.customValueCount = headers.customValueCount := by
      unfold H2RequestHeaders.makeRoom
      split
      · exact ⟨rfl, rfl, rfl⟩
      · exact ⟨rfl, rfl, rfl⟩
    simp only [appendCustomRequestHeaderValue, if_neg hcount, hfull, hvalid, Bool.false_eq_true,
      if_false, hsame]
  · exact List.prefix_append _ _

/-- The value is a string that passes the check of its key. -/
def ValidValue (key : Bytes) (value : Option Bytes) : Prop :=
  ∃ bytes, value = some bytes ∧ isInvalidWireValue key (wireValue key bytes) = false

/-- Valid values are appended as a whole, or the count refuses one of them. -/
theorem Counts.appendValues {key : Bytes} {values : List (Option Bytes)}
    (h : Counts fixed custom headers) (hfixed : 2 ≤ fixed)
    (hfixed' : fixed ≤ requestFixedHeaderCount) (hcustom : custom ≤ maxRequestMetadataValues)
    (hvalid : ∀ value ∈ values, ValidValue key value) :
    (custom + values.length ≤ maxRequestMetadataValues →
      ∃ headers', headers.appendCustomRequestHeaderValues key values = .ok headers' ∧
        Relation.ReflTransGen SafeStep headers headers' ∧
        Counts fixed (custom + values.length) headers') ∧
      (maxRequestMetadataValues < custom + values.length →
        headers.appendCustomRequestHeaderValues key values = .error .tooMany) := by
  induction values generalizing headers custom with
  | nil =>
    refine ⟨fun _ => ⟨headers, rfl, .refl, h⟩, fun hover => ?_⟩
    exact absurd hover (Nat.not_lt.mpr hcustom)
  | cons value values ih =>
    obtain ⟨bytes, rfl, hbytes⟩ := hvalid value List.mem_cons_self
    simp only [List.length_cons, appendCustomRequestHeaderValues]
    by_cases hlt : custom < maxRequestMetadataValues
    · obtain ⟨headers₁, happend, hsteps, hcounts⟩ := h.append hfixed hfixed' hlt hbytes
      obtain ⟨hfits, hover⟩ := ih hcounts hlt fun v hv => hvalid v (List.mem_cons_of_mem _ hv)
      rw [happend]
      refine ⟨fun hle => ?_, fun hgt => hover (by omega)⟩
      obtain ⟨headers', hrest, hsteps', hcounts'⟩ := hfits (by omega)
      refine ⟨headers', hrest, hsteps.trans hsteps', ?_⟩
      rw [Nat.add_comm values.length, ← Nat.add_assoc]
      exact hcounts'
    · refine ⟨fun hle => absurd hle (by omega), fun _ => ?_⟩
      have hfull : headers.customValueCount ≥ maxRequestMetadataValues := by
        rw [h.count]
        omega
      simp only [appendCustomRequestHeaderValue, if_pos hfull]
      rfl

/-- The key is skipped, or it is allowed and its values are valid. -/
def ValidEntry (entry : Option Bytes × MetadataValue) : Prop :=
  isUserAgentCustomRequestHeader entry.1 = true ∨
    ∃ key, entry.1 = some key ∧ isForbiddenCustomRequestHeader (some key) = false ∧
      ∀ value ∈ entry.2.values, ValidValue key value

/-- Valid values stand for one field each. -/
theorem length_filterMap_valid {key : Bytes} {values : List (Option Bytes)}
    (h : ∀ value ∈ values, ValidValue key value) :
    (values.filterMap fun value => value.map fun bytes =>
      (⟨key, wireValue key bytes⟩ : Header)).length = values.length := by
  induction values with
  | nil => rfl
  | cons value values ih =>
    obtain ⟨bytes, rfl, -⟩ := h value List.mem_cons_self
    simp only [List.filterMap_cons, Option.map_some, List.length_cons]
    rw [ih fun v hv => h v (List.mem_cons_of_mem _ hv)]

/-- Valid metadata is appended as a whole, or the count refuses one of its values. -/
theorem Counts.appendMetadata {metadata : MetadataArray} (h : Counts fixed custom headers)
    (hfixed : 2 ≤ fixed) (hfixed' : fixed ≤ requestFixedHeaderCount)
    (hcustom : custom ≤ maxRequestMetadataValues) (hvalid : ∀ entry ∈ metadata, ValidEntry entry) :
    (custom + (customHeaders metadata).length ≤ maxRequestMetadataValues →
      ∃ headers', headers.appendCustomRequestHeaders metadata = .ok headers' ∧
        Relation.ReflTransGen SafeStep headers headers' ∧
        Counts fixed (custom + (customHeaders metadata).length) headers') ∧
      (maxRequestMetadataValues < custom + (customHeaders metadata).length →
        headers.appendCustomRequestHeaders metadata = .error .tooMany) := by
  induction metadata generalizing headers custom with
  | nil =>
    refine ⟨fun _ => ⟨headers, rfl, .refl, h⟩, fun hover => ?_⟩
    exact absurd hover (Nat.not_lt.mpr hcustom)
  | cons entry rest ih =>
    obtain ⟨key, value⟩ := entry
    have hrest := fun e he => hvalid e (List.mem_cons_of_mem _ he)
    by_cases hagent : isUserAgentCustomRequestHeader key = true
    · have hskip : customHeaders ((key, value) :: rest) = customHeaders rest := by
        simp only [customHeaders, List.flatMap_cons, hagent, if_true, List.nil_append]
      simp only [appendCustomRequestHeaders, hagent, if_true, hskip]
      exact ih h hcustom hrest
    · obtain ⟨key, rfl, hallowed, hvalues⟩ := (hvalid _ List.mem_cons_self).resolve_left hagent
      simp only at hvalues
      have hcons : (customHeaders ((some key, value) :: rest)).length =
          value.values.length + (customHeaders rest).length := by
        rw [← length_filterMap_valid hvalues, ← List.length_append]
        simp only [customHeaders, List.flatMap_cons, hagent, Bool.false_eq_true, if_false,
          Option.getD_some]
      obtain ⟨hfits, hover⟩ := h.appendValues hfixed hfixed' hcustom hvalues
      simp only [appendCustomRequestHeaders, hagent, hallowed, Bool.false_eq_true, if_false,
        Option.getD_some, hcons]
      by_cases hle : custom + value.values.length ≤ maxRequestMetadataValues
      · obtain ⟨headers₁, happend, hsteps, hcounts⟩ := hfits hle
        obtain ⟨hfits', hover'⟩ := ih hcounts hle hrest
        rw [happend]
        refine ⟨fun hle' => ?_, fun hgt => hover' (by omega)⟩
        obtain ⟨headers', hmore, hsteps', hcounts'⟩ := hfits' (by omega)
        refine ⟨headers', hmore, hsteps.trans hsteps', ?_⟩
        rw [← Nat.add_assoc]
        exact hcounts'
      · rw [hover (by omega)]
        exact ⟨fun hle' => absurd hle' (by omega), fun _ => rfl⟩

/-- The metadata in two parts. -/
theorem appendCustomRequestHeaders_append (headers : H2RequestHeaders)
    (left right : MetadataArray) :
    headers.appendCustomRequestHeaders (left ++ right) =
      (headers.appendCustomRequestHeaders left).bind (·.appendCustomRequestHeaders right) := by
  induction left generalizing headers with
  | nil => rfl
  | cons entry left ih =>
    obtain ⟨key, value⟩ := entry
    simp only [List.cons_append, appendCustomRequestHeaders]
    by_cases hagent : isUserAgentCustomRequestHeader key = true
    · rw [if_pos hagent, if_pos hagent]
      exact ih headers
    rw [if_neg hagent, if_neg hagent]
    by_cases hforbidden : isForbiddenCustomRequestHeader key = true
    · rw [if_pos hforbidden, if_pos hforbidden]
      rfl
    rw [if_neg hforbidden, if_neg hforbidden]
    cases headers.appendCustomRequestHeaderValues (key.getD []) value.values with
    | error e => rfl
    | ok headers₁ => exact ih headers₁

theorem customHeaders_append (left right : MetadataArray) :
    customHeaders (left ++ right) = customHeaders left ++ customHeaders right :=
  List.flatMap_append

end

/-! ## The whole list -/

theorem inline_le : 16 ≤ maxRequestMetadataValues + requestFixedHeaderCount := by decide

/-- A field of the library goes into the inline arrays. -/
theorem safeStep_inline {nva : List Header} {valueCount : Nat} (name value : Bytes)
    (hlen : nva.length < 16) (hvalues : valueCount ≤ 16) :
    SafeStep { nva := nva, valueCount := valueCount }
      (({ nva := nva, valueCount := valueCount } : H2RequestHeaders).appendRequestHeader name
        value) := by
  rw [appendRequestHeader_inline nva valueCount hlen]
  refine ⟨.field name value, ⟨?_, Nat.zero_le _, hvalues, ?_⟩, List.prefix_append _ _⟩
  · simp only [List.length_append, List.length_singleton]
    omega
  · exact inline_le

/-- The builder behind the fields of the library. -/
def withFixed (tls : Bool) (authority path : Bytes) (remainingTimeoutUs : Int)
    (primaryUserAgent : Option Bytes) : H2RequestHeaders where
  nva := fixedHeaders tls authority path remainingTimeoutUs primaryUserAgent
  valueCount := if (formatTimeoutUs remainingTimeoutUs).length = 0 then 0 else 1

theorem build_eq (tls : Bool) (authority path : Bytes) (remainingTimeoutUs : Int)
    (primaryUserAgent : Option Bytes) (metadata : MetadataArray) :
    build tls authority path remainingTimeoutUs primaryUserAgent metadata =
      (withFixed tls authority path remainingTimeoutUs primaryUserAgent).appendCustomRequestHeaders
        metadata := by
  refine congrArg (fun headers : H2RequestHeaders => headers.appendCustomRequestHeaders metadata) ?_
  rw [withFixed, fixedHeaders, appendUserAgentRequestHeader, appendGrpcTimeoutRequestHeader]
  split
  · simp only [appendRequestHeader_inline, List.length_nil, List.length_cons, List.nil_append,
      List.cons_append, Nat.reduceAdd, Nat.reduceLT]
  · simp only [appendRequestHeader_inline, List.length_nil, List.length_cons, List.nil_append,
      List.cons_append, Nat.reduceAdd, Nat.reduceLT, if_true]

theorem length_formatTimeoutUs_eq_zero (remainingTimeoutUs : Int) :
    (formatTimeoutUs remainingTimeoutUs).length = 0 ↔ remainingTimeoutUs ≤ 0 := by
  refine ⟨fun hzero => ?_, fun hle => ?_⟩
  · by_contra hpos
    obtain ⟨timeout, rfl⟩ := Int.eq_ofNat_of_zero_le (by omega : 0 ≤ remainingTimeoutUs)
    have hpositive : 0 < timeout := by omega
    have hlen := congrArg List.length (formatTimeoutUs_eq hpositive)
    rw [List.length_append, hzero] at hlen
    simp at hlen
  · simp only [formatTimeoutUs, if_pos hle, List.length_nil]

theorem length_fixedHeaders (tls : Bool) (authority path : Bytes) (remainingTimeoutUs : Int)
    (primaryUserAgent : Option Bytes) :
    (fixedHeaders tls authority path remainingTimeoutUs primaryUserAgent).length =
      if 0 < remainingTimeoutUs then 8 else 7 := by
  have hzero := length_formatTimeoutUs_eq_zero remainingTimeoutUs
  simp only [fixedHeaders, List.length_append, List.length_cons, List.length_nil]
  split
  · next h => rw [if_neg (by omega), List.length_nil]
  · next h => rw [if_pos (by omega), List.length_singleton]

/-- The fields of the library are appended to the inline arrays. -/
theorem withFixed_steps (tls : Bool) (authority path : Bytes) (remainingTimeoutUs : Int)
    (primaryUserAgent : Option Bytes) : Relation.ReflTransGen SafeStep {}
      (withFixed tls authority path remainingTimeoutUs primaryUserAgent) := by
  -- Every prefix of a list shorter than the inline arrays is reached.
  have hreach : ∀ (fields before : List Header) (valueCount : Nat), valueCount ≤ 16 →
      before.length + fields.length ≤ 16 →
      Relation.ReflTransGen SafeStep { nva := before, valueCount := valueCount }
        { nva := before ++ fields, valueCount := valueCount } := by
    intro fields
    induction fields with
    | nil =>
      intro before valueCount _ _
      rw [List.append_nil]
    | cons field fields ih =>
      intro before valueCount hvalues hlen
      rw [List.length_cons] at hlen
      have hroom : before.length < 16 := by omega
      have hstep := safeStep_inline field.name field.value hroom hvalues
      rw [appendRequestHeader_inline before valueCount (by omega)] at hstep
      refine .head hstep ?_
      have hmore := ih (before ++ [field]) valueCount hvalues (by
        simp only [List.length_append, List.length_singleton]
        omega)
      rw [List.append_assoc, List.singleton_append] at hmore
      exact hmore
  have hstart : Relation.ReflTransGen SafeStep {} { nva := [], valueCount :=
      if (formatTimeoutUs remainingTimeoutUs).length = 0 then 0 else 1 } := by
    split
    · exact .refl
    · refine .single ⟨.timeout, ⟨?_, ?_, ?_, ?_⟩, List.prefix_rfl⟩ <;> decide
  refine hstart.trans (hreach _ [] _ ?_ ?_)
  · split <;> decide
  · have hlen := length_fixedHeaders tls authority path remainingTimeoutUs primaryUserAgent
    rw [List.length_nil, Nat.zero_add]
    refine hlen.trans_le ?_
    split <;> decide

/-- The counters behind the fields of the library. -/
theorem withFixed_counts (tls : Bool) (authority path : Bytes) (remainingTimeoutUs : Int)
    (primaryUserAgent : Option Bytes) :
    Counts (fixedHeaders tls authority path remainingTimeoutUs primaryUserAgent).length 0
      (withFixed tls authority path remainingTimeoutUs primaryUserAgent) := by
  refine ⟨rfl, rfl, rfl, ?_, ?_, Nat.le_refl _, inline_le⟩
  · simp only [withFixed]
    split <;> decide
  · simp only [withFixed, length_fixedHeaders]
    split <;> decide

/-- Valid metadata with at most 256 values follows the fields of the library unchanged, with
more values the builder fails, and it never leaves its arrays on the way. The way is that of the
builder: what it has built of the first entries lies on it, for any number of them, and between two
entries there are their growths and values. -/
theorem build_complete (tls : Bool) (authority path : Bytes) (remainingTimeoutUs : Int)
    (primaryUserAgent : Option Bytes) {metadata : MetadataArray}
    (hvalid : ∀ entry ∈ metadata, ValidEntry entry) :
    (fixedHeaders tls authority path remainingTimeoutUs primaryUserAgent).length =
        (if 0 < remainingTimeoutUs then 8 else 7) ∧
      ((customHeaders metadata).length ≤ maxRequestMetadataValues →
        ∃ headers, build tls authority path remainingTimeoutUs primaryUserAgent metadata =
            .ok headers ∧
          headers.nva = fixedHeaders tls authority path remainingTimeoutUs primaryUserAgent ++
            customHeaders metadata ∧
          Relation.ReflTransGen SafeStep {} headers ∧
          ∀ first rest, metadata = first ++ rest → ∃ headers₁,
            build tls authority path remainingTimeoutUs primaryUserAgent first = .ok headers₁ ∧
            Relation.ReflTransGen SafeStep {} headers₁ ∧
            Relation.ReflTransGen SafeStep headers₁ headers) ∧
      (maxRequestMetadataValues < (customHeaders metadata).length →
        build tls authority path remainingTimeoutUs primaryUserAgent metadata =
          .error .tooMany) := by
  have hlen := length_fixedHeaders tls authority path remainingTimeoutUs primaryUserAgent
  have hcounts := withFixed_counts tls authority path remainingTimeoutUs primaryUserAgent
  have hstart := withFixed_steps tls authority path remainingTimeoutUs primaryUserAgent
  have hbounds : 2 ≤ (fixedHeaders tls authority path remainingTimeoutUs primaryUserAgent).length ∧
      (fixedHeaders tls authority path remainingTimeoutUs primaryUserAgent).length ≤
        requestFixedHeaderCount := by
    rw [hlen]
    split <;> decide
  refine ⟨hlen, fun hle => ?_, fun hgt => ?_⟩
  · obtain ⟨headers, happend, hsteps, -⟩ := (hcounts.appendMetadata hbounds.1 hbounds.2
      (Nat.zero_le _) hvalid).1 ((Nat.zero_add _).trans_le hle)
    have hbuild := (build_eq tls authority path remainingTimeoutUs primaryUserAgent
      metadata).trans happend
    refine ⟨headers, hbuild, (build_ok hbuild).1, hstart.trans hsteps, ?_⟩
    rintro first rest rfl
    rw [customHeaders_append, List.length_append] at hle
    obtain ⟨headers₁, hfirst, hsteps₁, hcounts₁⟩ := (hcounts.appendMetadata hbounds.1 hbounds.2
      (Nat.zero_le _) fun e he => hvalid e (List.mem_append_left _ he)).1 (by omega)
    obtain ⟨headers₂, hrest, hsteps₂, -⟩ := (hcounts₁.appendMetadata hbounds.1 hbounds.2
      (by omega) fun e he => hvalid e (List.mem_append_right _ he)).1 (by omega)
    rw [appendCustomRequestHeaders_append, hfirst] at happend
    obtain rfl : headers₂ = headers := Except.ok.inj (hrest.symm.trans happend)
    exact ⟨headers₁, (build_eq _ _ _ _ _ _).trans hfirst, hstart.trans hsteps₁, hsteps₂⟩
  · rw [build_eq]
    exact (hcounts.appendMetadata hbounds.1 hbounds.2 (Nat.zero_le _) hvalid).2
      ((Nat.zero_add _).symm ▸ hgt)

/-- A key with two values, one of them binary, and a skipped user agent. -/
theorem build_complete_mixed : ∃ headers, build true (ascii "h:1".toList) (ascii "/a/b".toList) 5
      none [(some userAgent, .other), (some (ascii "k-bin".toList), .string [1, 2]),
        (some (ascii "k".toList), .array [some [97], some [98]])] = .ok headers ∧
    headers.nva.length = 8 + 3 ∧ Relation.ReflTransGen SafeStep {} headers := by
  have hvalid : ∀ entry ∈ [(some userAgent, MetadataValue.other),
      (some (ascii "k-bin".toList), .string [1, 2]),
      (some (ascii "k".toList), .array [some [97], some [98]])], ValidEntry entry := by
    intro entry hentry
    simp only [List.mem_cons, List.not_mem_nil, or_false] at hentry
    rcases hentry with rfl | rfl | rfl
    · exact .inl (by decide)
    · refine .inr ⟨_, rfl, by decide, fun value hvalue => ?_⟩
      obtain rfl := List.mem_singleton.mp hvalue
      exact ⟨_, rfl, by decide⟩
    · refine .inr ⟨_, rfl, by decide, fun value hvalue => ?_⟩
      simp only [MetadataValue.values, List.mem_cons, List.not_mem_nil, or_false] at hvalue
      rcases hvalue with rfl | rfl
      · exact ⟨_, rfl, by decide⟩
      · exact ⟨_, rfl, by decide⟩
  obtain ⟨hlen, hfits, -⟩ := build_complete true (ascii "h:1".toList) (ascii "/a/b".toList) 5 none
    hvalid
  obtain ⟨headers, hbuild, hnva, hsteps, -⟩ := hfits (by decide)
  refine ⟨headers, hbuild, ?_, hsteps⟩
  rw [hnva, List.length_append, hlen]
  decide

end H2RequestHeaders

end GrpcLite
