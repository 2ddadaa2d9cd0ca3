import GrpcLite.Correctness.RequestHeaders
import GrpcLite.Correctness.Timeouts

/-!
# Targets and authorities

The authority that a connection derives from its target is the whole text
`host:port`, and splitting that text gives the host and the port back. Ports are
the digit strings whose value lies between one and 65535.
-/

namespace GrpcLite

namespace Surface

/-! ## Ports -/

/-- The values that the loop of `parse_target_port` computes, in order. -/
def portAccumulators : Nat → Bytes → List Nat
  | _, [] => []
  | parsed, ch :: rest =>
    if Protocol.isDigit ch = false then []
    else if parsed * 10 + (ch.toNat - 48) > 65535 then [parsed * 10 + (ch.toNat - 48)]
    else
      (parsed * 10 + (ch.toNat - 48)) :: portAccumulators (parsed * 10 + (ch.toNat - 48)) rest

/-- The loop goes on with small values only, so the next one is small too. -/
theorem portAccumulators_le {parsed : Nat} (h : parsed ≤ 65535) {value : Bytes} {n : Nat}
    (hn : n ∈ portAccumulators parsed value) : n ≤ 655359 := by
  induction value generalizing parsed with
  | nil => exact absurd hn List.not_mem_nil
  | cons ch rest ih =>
    have hch := ch.toNat_lt
    rw [portAccumulators] at hn
    split at hn
    · exact absurd hn List.not_mem_nil
    · next hdigit =>
      simp only [Protocol.isDigit, decide_eq_false_iff_not, not_not] at hdigit
      split at hn
      · rw [List.mem_singleton.mp hn]
        omega
      · next hle =>
        rcases List.mem_cons.mp hn with rfl | hrest
        · omega
        · exact ih (Nat.not_lt.mp hle) hrest

/-- What the loop returns is the last value it computed. -/
theorem parsePortDigits_eq_last {parsed n : Nat} {value : Bytes}
    (h : parsePortDigits parsed value = some n) :
    n = (portAccumulators parsed value).getLastD parsed := by
  induction value generalizing parsed with
  | nil => exact (Option.some.inj h).symm
  | cons ch rest ih =>
    simp only [parsePortDigits] at h
    simp only [portAccumulators]
    split at h
    · cases h
    · next hdigit =>
      rw [if_neg hdigit]
      split at h
      · cases h
      · next hle =>
        rw [if_neg hle, ih h]
        cases portAccumulators (parsed * 10 + (ch.toNat - 48)) rest with
        | nil => rfl
        | cons x xs => rfl

theorem parseDigits_le {acc n : Nat} {value : Bytes} (h : Protocol.parseDigits acc value = some n) :
    acc ≤ n := by
  induction value generalizing acc with
  | nil => exact Nat.le_of_eq (Option.some.inj h)
  | cons b rest ih =>
    simp only [Protocol.parseDigits] at h
    split at h
    · have := ih h
      omega
    · cases h

/-- The cut-off of the loop rejects exactly the values above 65535. -/
theorem parsePortDigits_iff {parsed : Nat} (h : parsed ≤ 65535) {value : Bytes} {n : Nat} :
    parsePortDigits parsed value = some n ↔
      Protocol.parseDigits parsed value = some n ∧ n ≤ 65535 := by
  induction value generalizing parsed with
  | nil =>
    simp only [parsePortDigits, Protocol.parseDigits, Option.some.injEq]
    omega
  | cons ch rest ih =>
    simp only [parsePortDigits, Protocol.parseDigits]
    cases hdigit : Protocol.isDigit ch with
    | false => simp
    | true =>
      simp only [Bool.true_eq_false, if_false, if_true]
      split
      · next hlarge =>
        constructor
        · intro hnone
          cases hnone
        · rintro ⟨hparse, hle⟩
          have := parseDigits_le hparse
          omega
      · next hle => exact ih (Nat.not_lt.mp hle)

theorem parseTargetPort_iff {value : Bytes} {n : Nat} :
    parseTargetPort value = some n ↔
      Protocol.parseDigits 0 value = some n ∧ 1 ≤ n ∧ n ≤ 65535 := by
  unfold parseTargetPort
  split
  · next hnil =>
    rw [List.length_eq_zero_iff.mp hnil]
    simp only [Protocol.parseDigits, Option.some.injEq]
    constructor
    · intro hnone
      cases hnone
    · omega
  · rw [Option.filter_eq_some_iff, parsePortDigits_iff (Nat.zero_le _)]
    simp only [gt_iff_lt, decide_eq_true_eq]
    constructor
    · rintro ⟨⟨hparse, hle⟩, hpos⟩
      exact ⟨hparse, hpos, hle⟩
    · rintro ⟨hparse, hpos, hle⟩
      exact ⟨⟨hparse, hle⟩, hpos⟩

/-! ## The last colon -/

theorem splitLastColon_append (host : Bytes) {port : Bytes} (h : 58 ∉ port) :
    splitLastColon (host ++ [58] ++ port) = some (host, port) := by
  have hmem : 58 ∈ host ++ [58] ++ port := by simp
  have hbehind : ((host ++ [58] ++ port).reverse.takeWhile (· ≠ 58)).reverse = port := by
    have hall : ∀ b ∈ port.reverse, decide (b ≠ 58) = true := by
      intro b hb
      rw [List.mem_reverse] at hb
      rw [decide_eq_true_eq]
      rintro rfl
      exact h hb
    rw [List.reverse_append, List.takeWhile_append_of_pos hall, List.reverse_append]
    simp
  have htake : (host ++ [58] ++ port).take ((host ++ [58] ++ port).length - port.length - 1) =
      host := by
    have hlen : (host ++ [58] ++ port).length - port.length - 1 = host.length := by
      simp only [List.length_append, List.length_singleton]
      omega
    rw [hlen, List.append_assoc, List.take_left]
  unfold splitLastColon
  rw [if_pos hmem]
  simp only [hbehind, htake]

theorem colon_not_mem_decimal (n : Nat) : 58 ∉ decimal n := by
  intro hmem
  have hle := (mem_decimal hmem).2
  exact absurd hle (by decide)

theorem splitTargetToHostPort_authority {host : Bytes} {port : Nat} (hhost : host.length ≠ 0)
    (hpos : 1 ≤ port) (hle : port ≤ 65535) :
    splitTargetToHostPort (host ++ [58] ++ decimal port) = some (host, port) := by
  have hport : parseTargetPort (decimal port) = some port :=
    parseTargetPort_iff.mpr ⟨parseDigits_decimal port, hpos, hle⟩
  have hlen := length_decimal_pos port
  unfold splitTargetToHostPort
  rw [splitLastColon_append host (colon_not_mem_decimal port)]
  simp only [hport, Option.map_some]
  rw [if_neg (by omega)]

/-! ## Accepted inputs -/

/-- What the validation promises without an explicit authority. -/
theorem validateChannelInputs_host {key host tlsVerifyName : Bytes} {port : Nat}
    (h : validateChannelInputs key host port [] tlsVerifyName = none) :
    host.length ≠ 0 ∧ Clean host ∧ host.length + 1 + (decimal port).length < 512 := by
  unfold validateChannelInputs at h
  split at h
  · cases h
  split at h
  · cases h
  next hhost =>
  split at h
  · cases h
  split at h
  · cases h
  split at h
  · cases h
  next hlong =>
  simp only [not_or, Bool.not_eq_true] at hhost
  refine ⟨hhost.1, containsNulOrControl_eq_false.mp hhost.2, ?_⟩
  by_contra hge
  refine hlong ⟨rfl, ?_⟩
  simp only [Int.toNat_natCast, authorityBufferSize]
  omega

/-- What it promises of an explicit authority. -/
theorem validateChannelInputs_authority {key host authority tlsVerifyName : Bytes} {port : Int}
    (hauth : 0 < authority.length)
    (h : validateChannelInputs key host port authority tlsVerifyName = none) :
    Clean authority ∧ authority.length < 512 := by
  unfold validateChannelInputs at h
  split at h
  · cases h
  split at h
  · cases h
  split at h
  · cases h
  split at h
  · cases h
  next hvalid =>
  constructor
  · intro b hb
    refine containsAuthorityForbiddenChar_clean ?_ b hb
    by_contra hbad
    exact hvalid ⟨hauth, .inr (Bool.not_eq_false _ ▸ hbad)⟩
  · by_contra hge
    exact hvalid ⟨hauth, .inl (Nat.not_lt.mp hge)⟩

theorem buildAuthority_target {host : Bytes} (hclean : Clean host) {port : Nat}
    (hlen : host.length + 1 + (decimal port).length < 512) {authority : Option Bytes}
    (hnone : authority.getD [] = []) :
    buildAuthority host port authority = host ++ [58] ++ decimal port := by
  have htext : Clean (host ++ [58] ++ decimal port) :=
    (hclean.append (by decide +kernel)).append (decimal_clean port)
  have hwhole : cString ((cString host ++ [58] ++ decimal port).take (authorityBufferSize - 1)) =
      host ++ [58] ++ decimal port := by
    rw [cString_of_clean hclean, List.take_of_length_le, cString_of_clean htext]
    simp only [List.length_append, List.length_singleton, authorityBufferSize]
    omega
  cases authority with
  | none => exact hwhole
  | some value =>
    obtain rfl : value = [] := hnone
    exact hwhole

theorem buildAuthority_explicit {authority : Bytes} (hpos : 0 < authority.length)
    (hclean : Clean authority) (hlen : authority.length < 512) (host : Bytes) (port : Nat) :
    buildAuthority host port (some authority) = authority := by
  have hfits : authority.length ≤ authorityBufferSize - 1 := by
    simp only [authorityBufferSize]
    omega
  simp only [buildAuthority]
  rw [if_pos hpos, List.take_of_length_le hfits, cString_of_clean hclean]

/-- The target and the authority agree. Without an explicit authority the buffer of a connection
holds the whole text `host:port`, which splits into the host and the port again; an explicit
authority is copied whole; ports are the digit strings with a value between one and 65535, and
no value that the loop computes for them leaves the range of a `zend_long`. -/
theorem target_authority_agree :
    (∀ (key host tlsVerifyName : Bytes) (port : Nat) (authority : Option Bytes),
      authority.getD [] = [] → 1 ≤ port → port ≤ 65535 →
      validateChannelInputs key host port [] tlsVerifyName = none →
      buildAuthority host port authority = host ++ [58] ++ decimal port ∧
        splitTargetToHostPort (buildAuthority host port authority) = some (host, port)) ∧
    (∀ (key host authority tlsVerifyName : Bytes) (port : Nat), 0 < authority.length →
      validateChannelInputs key host port authority tlsVerifyName = none →
      buildAuthority host port (some authority) = authority) ∧
    (∀ (value : Bytes) (n : Nat), parseTargetPort value = some n ↔
      Protocol.parseDigits 0 value = some n ∧ 1 ≤ n ∧ n ≤ 65535) ∧
    (∀ value : Bytes, (∀ n ∈ portAccumulators 0 value, n < 2 ^ 63) ∧
      ∀ n, parsePortDigits 0 value = some n → n = (portAccumulators 0 value).getLastD 0) := by
  refine ⟨?_, ?_, fun value n => parseTargetPort_iff, fun value => ⟨?_, ?_⟩⟩
  · intro key host tlsVerifyName port authority hnone hpos hle hvalid
    obtain ⟨hhost, hclean, hlen⟩ := validateChannelInputs_host hvalid
    have hbuild := buildAuthority_target hclean hlen hnone
    refine ⟨hbuild, ?_⟩
    rw [hbuild]
    exact splitTargetToHostPort_authority hhost hpos hle
  · intro key host authority tlsVerifyName port hpos hvalid
    obtain ⟨hclean, hlen⟩ := validateChannelInputs_authority hpos hvalid
    exact buildAuthority_explicit hpos hclean hlen host port
  · intro n hn
    have := portAccumulators_le (Nat.zero_le _) hn
    omega
  · intro n hn
    exact parsePortDigits_eq_last hn

/-- The host `::1` with port 80, and the authority `a`. -/
theorem target_authority_agree_colons :
    buildAuthority [58, 58, 49] 80 none = [58, 58, 49, 58, 56, 48] ∧
      splitTargetToHostPort (buildAuthority [58, 58, 49] 80 none) = some ([58, 58, 49], 80) ∧
      buildAuthority [104] 443 (some [97]) = [97] := by
  obtain ⟨hbuild, hsplit⟩ :=
    target_authority_agree.1 [107] [58, 58, 49] [] 80 none rfl (by decide) (by decide) (by decide)
  exact ⟨hbuild, hsplit, target_authority_agree.2.1 [107] [104] [97] [] 443 (by decide) (by decide)⟩

end Surface

end GrpcLite
