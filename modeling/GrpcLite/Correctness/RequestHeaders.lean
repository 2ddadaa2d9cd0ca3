import GrpcLite.Core.Exec
import GrpcLite.Surface.Channel

/-!
# The shape of request headers

Which of the guarantees on the header list hold for every input that the
constructors and the metadata checks let through. Two inputs get through that
should not: a user agent option with control characters, and the metadata key
that consists of the reserved start of names alone.
-/

namespace GrpcLite

open Metadata H2RequestHeaders

/-- The fields that the metadata stands for, in order. -/
def customHeaders (metadata : MetadataArray) : List Header :=
  metadata.flatMap fun entry =>
    if isUserAgentCustomRequestHeader entry.1 then []
    else entry.2.values.filterMap fun value =>
      value.map fun bytes => ⟨entry.1.getD [], wireValue (entry.1.getD []) bytes⟩

/-- A metadata field that passed the checks on its key and its value. -/
structure Header.Checked (header : Header) : Prop where
  /-- The key is not forbidden. -/
  key : isForbiddenCustomRequestHeader (some header.name) = false
  /-- The key is not the user agent. -/
  notUserAgent : header.name ≠ userAgent
  /-- The value is acceptable. -/
  value : isInvalidWireValue header.name header.value = false

namespace H2RequestHeaders

theorem makeRoom_nva (headers : H2RequestHeaders) : headers.makeRoom.nva = headers.nva := by
  unfold makeRoom
  split <;> rfl

/-- A value that is appended is a valid string. -/
theorem appendCustomRequestHeaderValue_ok {headers headers' : H2RequestHeaders} {key : Bytes}
    {value : Option Bytes} (h : headers.appendCustomRequestHeaderValue key value = .ok headers') :
    ∃ bytes, value = some bytes ∧ isInvalidWireValue key (wireValue key bytes) = false ∧
      headers'.nva = headers.nva ++ [⟨key, wireValue key bytes⟩] := by
  cases value with
  | none => cases h
  | some bytes =>
    simp only [appendCustomRequestHeaderValue] at h
    split at h
    · cases h
    · split at h
      · cases h
      · split at h
        · cases h
        · next hvalid =>
          obtain rfl := Except.ok.inj h
          refine ⟨bytes, rfl, Bool.not_eq_true _ ▸ hvalid, ?_⟩
          simp only [appendRequestHeaderUnchecked, makeRoom_nva]

/-- All values of one key are checked and appended. -/
theorem appendCustomRequestHeaderValues_ok {headers headers' : H2RequestHeaders} {key : Bytes}
    {values : List (Option Bytes)}
    (h : headers.appendCustomRequestHeaderValues key values = .ok headers') :
    headers'.nva = headers.nva ++ (values.filterMap fun value =>
        value.map fun bytes => ⟨key, wireValue key bytes⟩) ∧
      ∀ value ∈ values, ∃ bytes, value = some bytes ∧
        isInvalidWireValue key (wireValue key bytes) = false := by
  induction values generalizing headers with
  | nil =>
    obtain rfl := Except.ok.inj h
    exact ⟨(List.append_nil _).symm, fun _ hb => absurd hb List.not_mem_nil⟩
  | cons value values ih =>
    simp only [appendCustomRequestHeaderValues] at h
    cases hone : headers.appendCustomRequestHeaderValue key value with
    | error e =>
      rw [hone] at h
      cases h
    | ok headers₁ =>
      rw [hone] at h
      obtain ⟨bytes, rfl, hvalid, hnva⟩ := appendCustomRequestHeaderValue_ok hone
      obtain ⟨hrest, hall⟩ := ih h
      refine ⟨?_, fun v hv => ?_⟩
      · rw [hrest, hnva, List.append_assoc]
        rfl
      · rcases List.mem_cons.mp hv with rfl | hv
        · exact ⟨bytes, rfl, hvalid⟩
        · exact hall v hv

/-- Accepted metadata is checked and appended as a whole. -/
theorem appendCustomRequestHeaders_ok {headers headers' : H2RequestHeaders}
    {metadata : MetadataArray} (h : headers.appendCustomRequestHeaders metadata = .ok headers') :
    headers'.nva = headers.nva ++ customHeaders metadata ∧
      (∀ header ∈ customHeaders metadata, header.Checked) ∧
      ∀ entry ∈ metadata, isUserAgentCustomRequestHeader entry.1 = false →
        ∀ value ∈ entry.2.values, value.isSome = true := by
  induction metadata generalizing headers with
  | nil =>
    obtain rfl := Except.ok.inj h
    exact ⟨(List.append_nil _).symm, fun _ hb => absurd hb List.not_mem_nil,
      fun _ he => absurd he List.not_mem_nil⟩
  | cons entry rest ih =>
    obtain ⟨key, value⟩ := entry
    simp only [appendCustomRequestHeaders] at h
    split at h
    · next hua =>
      obtain ⟨hnva, hall, hstrings⟩ := ih h
      have hskip : customHeaders ((key, value) :: rest) = customHeaders rest := by
        simp only [customHeaders, List.flatMap_cons, hua, if_true, List.nil_append]
      rw [hskip]
      refine ⟨hnva, hall, fun entry he hne => ?_⟩
      rcases List.mem_cons.mp he with rfl | he
      · exact absurd (hne.symm.trans hua) Bool.false_ne_true
      · exact hstrings entry he hne
    · next hua =>
      split at h
      · cases h
      · next hforbidden =>
        cases key with
        | none => exact absurd rfl hforbidden
        | some key =>
        cases hvalues : headers.appendCustomRequestHeaderValues key value.values with
        | error e =>
          simp only [Option.getD_some, hvalues] at h
          cases h
        | ok headers₁ =>
          simp only [Option.getD_some, hvalues] at h
          obtain ⟨hnva₁, hvalid⟩ := appendCustomRequestHeaderValues_ok hvalues
          obtain ⟨hnva, hall, hstrings⟩ := ih h
          have hcons : customHeaders ((some key, value) :: rest) = (value.values.filterMap
              fun value => value.map fun bytes => ⟨key, wireValue key bytes⟩) ++
                customHeaders rest := by
            simp only [customHeaders, List.flatMap_cons, hua, Bool.false_eq_true, if_false,
              Option.getD_some]
          rw [hcons]
          refine ⟨by rw [hnva, hnva₁, List.append_assoc], fun header hmem => ?_,
            fun entry he hne v hv => ?_⟩
          · rcases List.mem_append.mp hmem with hmem | hmem
            · obtain ⟨v, hv, hheader⟩ := List.mem_filterMap.mp hmem
              obtain ⟨bytes, hbytes, hok⟩ := hvalid v hv
              rw [hbytes] at hheader
              obtain rfl := Option.some.inj hheader
              refine ⟨Bool.not_eq_true _ ▸ hforbidden, fun hname => hua ?_, hok⟩
              have hkey : key = userAgent := hname
              rw [hkey]
              decide
            · exact hall header hmem
          · rcases List.mem_cons.mp he with rfl | he
            · obtain ⟨bytes, rfl, -⟩ := hvalid v hv
              rfl
            · exact hstrings entry he hne v hv

/-- The fields of the library itself. -/
def fixedHeaders (tls : Bool) (authority path : Bytes) (remainingTimeoutUs : Int)
    (primaryUserAgent : Option Bytes) : List Header :=
  [⟨ascii ":method".toList, ascii "POST".toList⟩,
    ⟨ascii ":scheme".toList, if tls then ascii "https".toList else ascii "http".toList⟩,
    ⟨ascii ":authority".toList, authority⟩, ⟨ascii ":path".toList, path⟩,
    ⟨ascii "content-type".toList, ascii "application/grpc".toList⟩,
    ⟨ascii "te".toList, ascii "trailers".toList⟩] ++
  (if (formatTimeoutUs remainingTimeoutUs).length = 0 then []
    else [⟨ascii "grpc-timeout".toList, formatTimeoutUs remainingTimeoutUs⟩]) ++
  [⟨userAgent, userAgentValue primaryUserAgent⟩]

/-- The inline array has room for the fields of the library. -/
theorem appendRequestHeader_inline (nva : List Header) (valueCount : Nat) {name value : Bytes}
    (h : nva.length < 16) :
    ({ nva := nva, valueCount := valueCount } : H2RequestHeaders).appendRequestHeader name value =
      { nva := nva ++ [⟨name, value⟩], valueCount := valueCount } :=
  if_neg (Nat.not_le_of_lt h)

/-- Nothing is dropped: the list is the fields of the library and then the metadata. -/
theorem build_ok {tls : Bool} {authority path : Bytes} {remainingTimeoutUs : Int}
    {primaryUserAgent : Option Bytes} {metadata : MetadataArray} {headers : H2RequestHeaders}
    (h : build tls authority path remainingTimeoutUs primaryUserAgent metadata = .ok headers) :
    headers.nva = fixedHeaders tls authority path remainingTimeoutUs primaryUserAgent ++
      customHeaders metadata ∧ (∀ header ∈ customHeaders metadata, header.Checked) ∧
      ∀ entry ∈ metadata, isUserAgentCustomRequestHeader entry.1 = false →
        ∀ value ∈ entry.2.values, value.isSome = true := by
  obtain ⟨hnva, hall⟩ := appendCustomRequestHeaders_ok h
  refine ⟨?_, hall⟩
  rw [hnva, fixedHeaders, appendUserAgentRequestHeader, appendGrpcTimeoutRequestHeader]
  congr 1
  split
  · simp only [appendRequestHeader_inline, List.length_nil, List.length_cons, List.nil_append,
      List.cons_append, Nat.reduceAdd, Nat.reduceLT]
  · simp only [appendRequestHeader_inline, List.length_nil, List.length_cons, List.nil_append,
      List.cons_append, Nat.reduceAdd, Nat.reduceLT, if_true]

end H2RequestHeaders

/-! ## Values -/

/-- No control character. -/
def Clean (value : Bytes) : Prop := ∀ b ∈ value, 0x20 ≤ b ∧ b ≠ 0x7f

instance (value : Bytes) : Decidable (Clean value) :=
  inferInstanceAs (Decidable (∀ b ∈ value, 0x20 ≤ b ∧ b ≠ 0x7f))

/-- Bytes of a clean text. -/
theorem Clean.subset {value value' : Bytes} (h : Clean value) (hs : ∀ b ∈ value', b ∈ value) :
    Clean value' :=
  fun b hb => h b (hs b hb)

theorem Clean.append {value value' : Bytes} (h : Clean value) (h' : Clean value') :
    Clean (value ++ value') :=
  fun b hb => (List.mem_append.mp hb).elim (h b) (h' b)

theorem containsNulOrControl_eq_false {value : Bytes} :
    Surface.containsNulOrControl value = false ↔ Clean value := by
  simp only [Surface.containsNulOrControl, List.any_eq_false, Bool.or_eq_true, beq_iff_eq,
    decide_eq_true_eq, not_or, Clean]
  refine forall₂_congr fun b _ => ⟨fun h => ⟨?_, h.2⟩, fun h => ⟨⟨?_, ?_⟩, h.2⟩⟩
  · exact UInt8.not_lt.mp h.1.2
  · rintro rfl
    exact absurd h.1 (by decide)
  · exact UInt8.not_lt.mpr h.1

/-- An authority without forbidden bytes is clean. -/
theorem containsAuthorityForbiddenChar_clean {value : Bytes}
    (h : Surface.containsAuthorityForbiddenChar value = false) : Clean value := by
  simp only [Surface.containsAuthorityForbiddenChar, List.any_eq_false, Bool.or_eq_true,
    beq_iff_eq, decide_eq_true_eq, not_or] at h
  exact fun b hb => ⟨UInt8.le_of_lt (UInt8.not_le.mp (h b hb).1.2), (h b hb).2⟩

/-- A valid wire value is clean. -/
theorem isInvalidWireValue_clean {key value : Bytes} (h : isInvalidWireValue key value = false) :
    Clean value := by
  unfold isInvalidWireValue at h
  split at h
  · simp only [isInvalidBinaryRequestHeaderValue, List.any_eq_false, Bool.not_eq_true',
      Bool.not_eq_false, Bool.or_eq_true, beq_iff_eq] at h
    intro b hb
    rcases h b hb with hd | rfl
    · have hall : ∀ n : Fin 256, Base64.isDigit (UInt8.ofNat n) = true →
          0x20 ≤ UInt8.ofNat n ∧ UInt8.ofNat n ≠ 0x7f := by decide +kernel
      have hb' := hall ⟨b.toNat, b.toNat_lt⟩
      simp only [UInt8.ofNat_toNat] at hb'
      exact hb' hd
    · decide
  · simp only [isInvalidAsciiRequestHeaderValue, List.any_eq_false, Bool.or_eq_true, beq_iff_eq,
      decide_eq_true_eq, not_or] at h
    exact fun b hb => ⟨UInt8.not_lt.mp (h b hb).1.1, (h b hb).1.2⟩

/-- A decimal number consists of digits. -/
theorem mem_decimal {n : Nat} {b : UInt8} (h : b ∈ decimal n) : 48 ≤ b.toNat ∧ b.toNat ≤ 57 := by
  obtain ⟨c, hc, rfl⟩ := List.mem_map.mp h
  have hd := Nat.isDigit_of_mem_toDigits (by decide) (by decide) hc
  simp only [Char.isDigit, Bool.and_eq_true, decide_eq_true_eq] at hd
  have h₁ : 48 ≤ c.toNat := hd.1
  have h₂ : c.toNat ≤ 57 := hd.2
  have hlt : c.toNat < UInt8.size := Nat.lt_of_le_of_lt h₂ (by decide)
  rw [UInt8.toNat_ofNat_of_lt' hlt]
  exact ⟨h₁, h₂⟩

theorem decimal_clean (n : Nat) : Clean (decimal n) := by
  intro b hb
  obtain ⟨h₁, h₂⟩ := mem_decimal hb
  refine ⟨UInt8.le_iff_toNat_le.mpr ?_, ?_⟩
  · exact Nat.le_trans (by decide) h₁
  · rintro rfl
    exact absurd h₂ (by decide)

theorem formatTimeoutUs_clean (timeoutUs : Int) : Clean (formatTimeoutUs timeoutUs) := by
  simp only [formatTimeoutUs]
  split
  · exact fun b hb => absurd hb List.not_mem_nil
  · repeat' split
    all_goals exact (decimal_clean _).append (by decide +kernel)

theorem cString_clean {value : Bytes} (h : Clean value) : Clean (Surface.cString value) :=
  h.subset fun _ hb => (List.takeWhile_prefix _).subset hb

/-- A clean text has no zero byte that ends it. -/
theorem cString_of_clean {value : Bytes} (h : Clean value) : Surface.cString value = value := by
  refine List.takeWhile_eq_self_iff.mpr fun b hb => ?_
  rw [decide_eq_true_eq]
  rintro rfl
  exact absurd (h 0 hb).1 (by decide)

/-! ## Accepted inputs -/

/-- An accepted channel has passed the validation of its inputs, its user agent option is taken
as it is. -/
theorem construct_ok {target : Bytes} {options : ChannelOptions} {channel : Channel}
    (h : Surface.construct target options = .ok channel) :
    Surface.validateChannelInputs channel.target channel.host channel.port
      (channel.authority.getD []) (channel.tlsVerifyName.getD []) = none ∧
      channel.primaryUserAgent = options.primaryUserAgent.bind Zval.asString := by
  unfold Surface.construct at h
  cases hcred : options.credentials with
  | none =>
    simp only [hcred] at h
    cases h
  | some credentials =>
    cases hsplit : Surface.splitTargetToHostPort target with
    | none =>
      simp only [hcred, hsplit] at h
      cases h
    | some split =>
      simp only [hcred, hsplit] at h
      obtain ⟨_, hcredentials, h₁⟩ := except_bind_ok.mp h
      obtain ⟨⟨host, port⟩, hpair, h₂⟩ := except_bind_ok.mp h₁
      obtain ⟨maxReceive, -, h₃⟩ := except_bind_ok.mp h₂
      obtain ⟨maxMetadata, -, h₄⟩ := except_bind_ok.mp h₃
      obtain ⟨absoluteMax, -, h₅⟩ := except_bind_ok.mp h₄
      split at h₅
      · cases h₅
      · cases hvalid : Surface.validateChannelInputs target host port
          ((options.defaultAuthority.bind Zval.asString).getD [])
          ((options.sslTargetNameOverride.bind Zval.asString).getD []) with
        | some error =>
          simp only [hvalid] at h₅
          cases h₅
        | none =>
          simp only [hvalid] at h₅
          obtain rfl := Except.ok.inj h₅
          exact ⟨hvalid, rfl⟩

/-- The validated strings of an accepted channel are clean. -/
theorem construct_clean {target : Bytes} {options : ChannelOptions} {channel : Channel}
    (h : Surface.construct target options = .ok channel) :
    Clean channel.host ∧ Clean (channel.authority.getD []) ∧
      Clean (channel.tlsVerifyName.getD []) := by
  have hvalid := (construct_ok h).1
  unfold Surface.validateChannelInputs at hvalid
  split at hvalid
  · cases hvalid
  · split at hvalid
    · cases hvalid
    · next hhost =>
      simp only [not_or, Bool.not_eq_true] at hhost
      refine ⟨containsNulOrControl_eq_false.mp hhost.2, ?_⟩
      split at hvalid
      · cases hvalid
      · split at hvalid
        · cases hvalid
        · next hauth =>
          refine ⟨?_, ?_⟩
          · intro b hb
            refine containsAuthorityForbiddenChar_clean ?_ b hb
            by_contra hbad
            exact hauth ⟨List.length_pos_of_mem hb, .inr (Bool.not_eq_false _ ▸ hbad)⟩
          · split at hvalid
            · cases hvalid
            · split at hvalid
              · cases hvalid
              · next htls =>
                intro b hb
                refine containsAuthorityForbiddenChar_clean ?_ b hb
                by_contra hbad
                exact htls ⟨List.length_pos_of_mem hb, Bool.not_eq_false _ ▸ hbad⟩

/-- The constructor of a channel accepts clean authorities only. -/
theorem connectionAuthority_clean {target : Bytes} {options : ChannelOptions} {channel : Channel}
    (h : Surface.construct target options = .ok channel) : Clean channel.connectionAuthority := by
  obtain ⟨hhost, hauth, -⟩ := construct_clean h
  have hdefault : Clean (Surface.cString ((Surface.cString channel.host ++ [58] ++
      decimal channel.port).take (Surface.authorityBufferSize - 1))) := by
    refine cString_clean (Clean.subset ?_ fun b hb => List.mem_of_mem_take hb)
    exact ((cString_clean hhost).append (by decide +kernel)).append (decimal_clean _)
  unfold Channel.connectionAuthority Surface.buildAuthority
  cases hoption : channel.authority with
  | none => exact hdefault
  | some value =>
    rw [hoption] at hauth
    dsimp only
    split
    · exact cString_clean (Clean.subset hauth fun b hb => List.mem_of_mem_take hb)
    · exact hdefault

/-- The constructor of a call accepts clean paths only. -/
theorem constructCall_clean {method path : Bytes}
    (h : Surface.constructCall method = .ok path) : Clean path := by
  unfold Surface.constructCall at h
  cases hvalid : Surface.validateGrpcPath method with
  | some error =>
    rw [hvalid] at h
    cases h
  | none =>
    rw [hvalid] at h
    obtain rfl := Except.ok.inj h
    unfold Surface.validateGrpcPath at hvalid
    split at hvalid
    · cases hvalid
    · split at hvalid
      · cases hvalid
      · next hany =>
        simp only [Bool.not_eq_true, List.any_eq_false, Bool.or_eq_true, decide_eq_true_eq,
          beq_iff_eq, not_or] at hany
        exact fun b hb => ⟨UInt8.le_of_lt (UInt8.not_le.mp (hany b hb).1), (hany b hb).2⟩

/-! ## The whole list -/

/-- The names of the pseudo-headers. -/
def pseudoNames : List Bytes :=
  [ascii ":method".toList, ascii ":scheme".toList, ascii ":authority".toList, ascii ":path".toList]

/-- The names that belong to the library or to the connection. -/
def ownedNames : List Bytes :=
  [ascii "content-type".toList, ascii "te".toList, userAgent, ascii "host".toList,
    ascii "connection".toList, ascii "keep-alive".toList, ascii "proxy-connection".toList,
    ascii "transfer-encoding".toList, ascii "upgrade".toList]

/-- What a header list with the fields of some metadata should satisfy. -/
structure WellFormed (nva : List Header) (metadata : MetadataArray) : Prop where
  /-- The pseudo-headers come first and only once. -/
  pseudo : (nva.take 4).map Header.name = pseudoNames ∧
    ∀ header ∈ nva.drop 4, header.name.head? ≠ some 58
  /-- No value holds a control character. -/
  values : ∀ header ∈ nva, Clean header.value
  /-- The metadata stands at the end of the list. -/
  behind : ∃ own, nva = own ++ customHeaders metadata
  /-- The metadata contributes no pseudo-header and no name of the protocol or the library. -/
  userland : ∀ header ∈ customHeaders metadata, header.name.head? ≠ some 58 ∧
    ¬grpcDash <+: header.name ∧ header.name ∉ ownedNames

/-- What the checks on a metadata key guarantee: only the bare start of the reserved names
gets through. -/
theorem Header.Checked.name {header : Header} (h : header.Checked) :
    header.name.head? ≠ some 58 ∧ header.name ∉ ownedNames ∧
      (grpcDash <+: header.name → header.name = grpcDash) := by
  have hkey := h.key
  simp only [isForbiddenCustomRequestHeader, isReservedCustomRequestHeader,
    Bool.or_eq_false_iff, Bool.and_eq_false_iff, decide_eq_false_iff_not] at hkey
  obtain ⟨⟨⟨-, hcolon⟩, -⟩, hreserved, hgrpc⟩ := hkey
  refine ⟨ne_of_beq_false hcolon, fun hmem => ?_, fun hstem => ?_⟩
  · have hsub : ∀ name ∈ ownedNames, name = userAgent ∨ name ∈ reservedHeaders := by decide
    rcases hsub _ hmem with hua | hres
    · exact h.notUserAgent hua
    · rw [List.contains_eq_mem, decide_eq_false_iff_not] at hreserved
      exact hreserved hres
  · have htake := List.prefix_iff_eq_take.mp hstem
    rcases hgrpc with hlen | hne
    · exact (List.IsPrefix.eq_of_length_le hstem (Nat.le_of_not_lt hlen)).symm
    · exact absurd htake.symm (ne_of_beq_false hne)

/-- The header list up to the metadata: its first four names, the names behind them and the
values, for clean parts. -/
theorem fixedHeaders_wellFormed (tls : Bool) {authority path : Bytes} (remainingTimeoutUs : Int)
    (primaryUserAgent : Option Bytes) (hauthority : Clean authority) (hpath : Clean path) :
    let fixed := fixedHeaders tls authority path remainingTimeoutUs primaryUserAgent
    (fixed.take 4).map Header.name = pseudoNames ∧ 4 ≤ fixed.length ∧
      (∀ header ∈ fixed.drop 4, header.name.head? ≠ some 58) ∧
      (∀ header ∈ fixed, header.value = userAgentValue primaryUserAgent ∨ Clean header.value) ∧
      ⟨userAgent, userAgentValue primaryUserAgent⟩ ∈ fixed := by
  refine ⟨rfl, ?_, ?_, ?_, ?_⟩
  · simp only [fixedHeaders, List.length_append, List.length_cons]
    omega
  · have hnames : ∀ header ∈ (fixedHeaders tls authority path remainingTimeoutUs
        primaryUserAgent).drop 4, header.name = ascii "content-type".toList ∨
          header.name = ascii "te".toList ∨ header.name = ascii "grpc-timeout".toList ∨
          header.name = userAgent := by
      intro header hmem
      simp only [fixedHeaders, List.cons_append, List.drop_succ_cons, List.drop_zero,
        List.nil_append, List.mem_cons, List.mem_append, List.not_mem_nil, or_false] at hmem
      rcases hmem with rfl | rfl | hmem | rfl
      · exact .inl rfl
      · exact .inr (.inl rfl)
      · split at hmem
        · exact absurd hmem List.not_mem_nil
        · obtain rfl := List.mem_singleton.mp hmem
          exact .inr (.inr (.inl rfl))
      · exact .inr (.inr (.inr rfl))
    intro header hmem
    rcases hnames header hmem with h | h | h | h
    all_goals
      rw [h]
      decide +kernel
  · intro header hmem
    simp only [fixedHeaders, List.cons_append, List.nil_append, List.mem_cons, List.mem_append,
      List.not_mem_nil, or_false] at hmem
    rcases hmem with rfl | rfl | rfl | rfl | rfl | rfl | hmem | rfl
    · exact .inr (by decide +kernel)
    · right
      cases tls with
      | true | false => decide +kernel
    · exact .inr hauthority
    · exact .inr hpath
    · exact .inr (by decide +kernel)
    · exact .inr (by decide +kernel)
    · split at hmem
      · exact absurd hmem List.not_mem_nil
      · obtain rfl := List.mem_singleton.mp hmem
        exact .inr (formatTimeoutUs_clean _)
    · exact .inl rfl
  · exact List.mem_append_right _ (List.mem_singleton_self _)

/-- A clean option gives a clean user agent, and so does none. -/
theorem userAgentValue_clean {option : Option Zval}
    (h : ∀ value, option = some (.string value) → Clean value) :
    Clean (userAgentValue (option.bind Zval.asString)) := by
  have hlibrary : Clean libraryUserAgent := by decide +kernel
  cases option with
  | none => exact hlibrary
  | some zval =>
    cases zval with
    | string value =>
      change Clean (if value.length > 0 then value else libraryUserAgent)
      split
      · exact h value rfl
      · exact hlibrary
    | long | other => exact hlibrary

/-- For every channel and call that their constructors accept and all metadata that the builder
accepts, the header list is well formed exactly when the user agent option has no control
character and the metadata has no value under the bare key `grpc-`. -/
theorem build_wellFormed_iff {creatorTarget target method path : Bytes}
    {creatorOptions options : ChannelOptions} {creator channel : Channel} {tls : Bool}
    {remainingTimeoutUs : Int} {metadata : MetadataArray} {headers : H2RequestHeaders}
    (hcreator : Surface.construct creatorTarget creatorOptions = .ok creator)
    (hchannel : Surface.construct target options = .ok channel)
    (hcall : Surface.constructCall method = .ok path)
    (hbuild : build tls creator.connectionAuthority path remainingTimeoutUs
      channel.primaryUserAgent metadata = .ok headers) :
    WellFormed headers.nva metadata ↔
      (∀ value, options.primaryUserAgent = some (.string value) → Clean value) ∧
        ∀ value, (some grpcDash, value) ∈ metadata → value.values = [] := by
  obtain ⟨hnva, hchecked, hstrings⟩ := build_ok hbuild
  obtain ⟨hpseudo, hlen, hdrop, hvalues, hua⟩ := fixedHeaders_wellFormed tls remainingTimeoutUs
    channel.primaryUserAgent (connectionAuthority_clean hcreator) (constructCall_clean hcall)
  have hagent := (construct_ok hchannel).2
  constructor
  · intro hwf
    refine ⟨fun value hoption => ?_, fun value hmem => ?_⟩
    · have hclean := hwf.values _ (hnva ▸ List.mem_append_left _ hua)
      rw [hagent, hoption] at hclean
      by_cases hempty : value = []
      · rw [hempty]
        exact fun b hb => absurd hb List.not_mem_nil
      · have hvalue : userAgentValue (some value) = value :=
          if_pos (List.length_pos_iff.mpr hempty)
        exact hvalue ▸ hclean
    · by_contra hne
      have hnot : isUserAgentCustomRequestHeader (some grpcDash) = false := by decide
      obtain ⟨v, vs, hvs⟩ := List.exists_cons_of_ne_nil hne
      have hv : v ∈ value.values := hvs ▸ List.mem_cons_self
      obtain ⟨bytes, rfl⟩ := Option.isSome_iff_exists.mp
        (hstrings _ hmem hnot v hv)
      refine (hwf.userland ⟨grpcDash, wireValue grpcDash bytes⟩ ?_).2.1 (List.prefix_refl _)
      refine List.mem_flatMap.mpr ⟨_, hmem, ?_⟩
      simp only [hnot, Bool.false_eq_true, if_false, List.mem_filterMap]
      exact ⟨some bytes, hv, rfl⟩
  · rintro ⟨hoption, hbare⟩
    refine ⟨⟨?_, fun header hmem => ?_⟩, fun header hmem => ?_, ⟨_, hnva⟩, fun header hmem => ?_⟩
    · rw [hnva, List.take_append_of_le_length hlen]
      exact hpseudo
    · rw [hnva, List.drop_append_of_le_length hlen] at hmem
      rcases List.mem_append.mp hmem with hmem | hmem
      · exact hdrop header hmem
      · exact (hchecked header hmem).name.1
    · rw [hnva] at hmem
      rcases List.mem_append.mp hmem with hmem | hmem
      · rcases hvalues header hmem with hvalue | hclean
        · rw [hvalue, hagent]
          exact userAgentValue_clean hoption
        · exact hclean
      · exact isInvalidWireValue_clean (hchecked header hmem).value
    · obtain ⟨hcolon, howned, hstem⟩ := (hchecked header hmem).name
      refine ⟨hcolon, fun hpre => ?_, howned⟩
      obtain ⟨⟨key, value⟩, hentry, hheader⟩ := List.mem_flatMap.mp hmem
      split at hheader
      · exact absurd hheader List.not_mem_nil
      · obtain ⟨v, hv, hmap⟩ := List.mem_filterMap.mp hheader
        obtain ⟨bytes, rfl, rfl⟩ := Option.map_eq_some_iff.mp hmap
        have hname : key.getD [] = grpcDash := hstem hpre
        cases key with
        | none => exact absurd hname (by decide)
        | some key =>
          obtain rfl : key = grpcDash := hname
          rw [hbare value hentry] at hv
          exact absurd hv List.not_mem_nil

/-- Options of a plain channel with a user agent. -/
private def agentOptions (userAgent : Bytes) : ChannelOptions :=
  { credentials := some { type := .insecure }, primaryUserAgent := some (.string userAgent) }

/-- The channel that these options give. -/
private def agentChannel (userAgent : Bytes) : Channel :=
  { target := ascii "h:1".toList, host := ascii "h".toList, port := 1, authority := none
    tlsVerifyName := none, primaryUserAgent := some userAgent, maxReceiveMessageLength := 0
    credentials := { type := .insecure } }

private theorem construct_agent (userAgent : Bytes) :
    Surface.construct (ascii "h:1".toList) (agentOptions userAgent) =
      .ok (agentChannel userAgent) := rfl

private theorem build_agent (userAgent : Bytes) :
    ∃ headers, build false (agentChannel userAgent).connectionAuthority (ascii "/a/b".toList) 0
      (agentChannel userAgent).primaryUserAgent [] = .ok headers := ⟨_, rfl⟩

/-- A clean user agent and no metadata give a well-formed list. -/
theorem wellFormed_plain_agent : ∃ headers, build false
    (agentChannel (ascii "agent/1".toList)).connectionAuthority (ascii "/a/b".toList) 0
      (some (ascii "agent/1".toList)) [] = .ok headers ∧ WellFormed headers.nva [] := by
  obtain ⟨headers, hbuild⟩ := build_agent (ascii "agent/1".toList)
  have hmethod : Surface.constructCall (ascii "/a/b".toList) = .ok (ascii "/a/b".toList) := rfl
  refine ⟨headers, hbuild, (build_wellFormed_iff (construct_agent _) (construct_agent _)
    hmethod hbuild).mpr ⟨fun value hvalue => ?_, ?_⟩⟩
  · obtain rfl := Zval.string.inj (Option.some.inj hvalue)
    decide +kernel
  · exact fun _ h => absurd h List.not_mem_nil

/-- A user agent option with a line feed is accepted and sent as it is. -/
theorem not_wellFormed_agent_newline :
    Surface.construct (ascii "h:1".toList) (agentOptions [120, 10]) = .ok (agentChannel [120, 10]) ∧
    Surface.constructCall (ascii "/a/b".toList) = .ok (ascii "/a/b".toList) ∧
    ∃ headers, build false (agentChannel [120, 10]).connectionAuthority (ascii "/a/b".toList) 0
      (agentChannel [120, 10]).primaryUserAgent [] = .ok headers ∧ ¬WellFormed headers.nva [] := by
  obtain ⟨headers, hbuild⟩ := build_agent [120, 10]
  refine ⟨construct_agent _, rfl, headers, hbuild, fun hwf => ?_⟩
  have hclean := hwf.values ⟨userAgent, [120, 10]⟩ (by
    rw [(build_ok hbuild).1]
    exact List.mem_append_left _ (List.mem_append_right _ (List.mem_singleton_self _)))
  exact absurd hclean (by decide +kernel)

end GrpcLite
