import GrpcLite.Correctness.RequestHeaders
import GrpcLite.Surface.ConnectionKey

/-!
# Connection keys and security contexts

The canonical text is unambiguous: every field is delimited by a decimal number or
has its length in front. So, as long as the hash does not collide, equal keys mean
equal contexts, except for the bytes that the formatter cuts off: two names of the
same length that differ only there have the same key.
-/

namespace GrpcLite.Surface

/-! ## Delimited texts -/

theorem decimal_injective {m n : Nat} (h : decimal m = decimal n) : m = n := by
  have hback (k : Nat) : (decimal k).map (fun b => Char.ofNat b.toNat) = Nat.toDigits 10 k := by
    rw [decimal, ascii, List.map_map]
    conv_rhs => rw [← List.map_id (Nat.toDigits 10 k)]
    refine List.map_congr_left fun c hc => ?_
    have hd := Nat.isDigit_of_mem_toDigits (by decide) (by decide) hc
    simp only [Char.isDigit, Bool.and_eq_true, decide_eq_true_eq] at hd
    have hle : c.toNat ≤ 57 := hd.2
    have hlt : c.toNat < UInt8.size := Nat.lt_of_le_of_lt hle (by decide)
    rw [Function.comp_apply, UInt8.toNat_ofNat_of_lt' hlt, Char.ofNat_toNat, id]
  have hchars : Nat.toDigits 10 m = Nat.toDigits 10 n := by rw [← hback m, h, hback]
  rw [← Nat.ofDigitChars_ten_toDigits (n := m), hchars, Nat.ofDigitChars_ten_toDigits]

/-- A number ends at the first byte that is not a digit. -/
theorem decimal_append_inj {m n : Nat} {c : UInt8} {x y : Bytes}
    (hc : ¬(48 ≤ c.toNat ∧ c.toNat ≤ 57)) (h : decimal m ++ c :: x = decimal n ++ c :: y) :
    m = n ∧ x = y := by
  have hspan (k : Nat) (z : Bytes) : (decimal k ++ c :: z).takeWhile
      (fun b => decide (48 ≤ b.toNat ∧ b.toNat ≤ 57)) = decimal k := by
    rw [List.takeWhile_append_of_pos fun b hb => decide_eq_true (mem_decimal hb),
      List.takeWhile_cons_of_neg (by simpa using hc), List.append_nil]
  have hd : decimal m = decimal n := by rw [← hspan m x, h, hspan]
  obtain rfl := decimal_injective hd
  exact ⟨rfl, List.tail_eq_of_cons_eq (List.append_cancel_left h)⟩

/-- Texts of equal lengths behind a length are split by it. -/
theorem lengthPrefixed_append_inj {u v s t x y : Bytes}
    (hlen : u.length = v.length → s.length = t.length)
    (h : lengthPrefixed u s ++ x = lengthPrefixed v t ++ y) :
    u.length = v.length ∧ s = t ∧ x = y := by
  simp only [lengthPrefixed, List.append_assoc, List.singleton_append] at h
  obtain ⟨huv, hst⟩ := decimal_append_inj (by decide) h
  obtain ⟨hs, hx⟩ := List.append_inj hst (hlen huv)
  exact ⟨huv, hs, hx⟩

/-! ## Hexadecimal texts -/

theorem hexDigit_injective {m n : Nat} (hm : m < 16) (hn : n < 16) (h : hexDigit m = hexDigit n) :
    m = n := by
  have hall : ∀ m n : Fin 16, hexDigit m = hexDigit n → m = n := by decide
  exact congrArg Fin.val (hall ⟨m, hm⟩ ⟨n, hn⟩ h)

theorem hex_injective {d e : Bytes} (h : hex d = hex e) : d = e := by
  induction d generalizing e with
  | nil =>
    cases e with
    | nil => rfl
    | cons b e => exact absurd h (by simp [hex])
  | cons a d ih =>
    cases e with
    | nil => exact absurd h (by simp [hex])
    | cons b e =>
      simp only [hex, List.flatMap_cons, List.cons_append, List.nil_append, List.cons.injEq] at h
      obtain ⟨hhigh, hlow, hrest⟩ := h
      have ha := a.toNat_lt
      have hb := b.toNat_lt
      have hdiv := hexDigit_injective (by omega) (by omega) hhigh
      have hmod := hexDigit_injective (by omega) (by omega) hlow
      have hab : a = b := UInt8.toNat_inj.mp (by omega)
      rw [hab, ih hrest]

theorem length_hex (d : Bytes) : (hex d).length = 2 * d.length := by
  induction d with
  | nil => rfl
  | cons b d ih =>
    have hcons : hex (b :: d) = hexDigit (b.toNat / 16) :: hexDigit (b.toNat % 16) :: hex d := rfl
    rw [hcons, List.length_cons, List.length_cons, ih, List.length_cons]
    omega

/-! ## Printed strings -/

/-- How much of a clean string is printed depends on its length alone. -/
theorem length_printString {u v : Bytes} (hu : Clean u) (hv : Clean v)
    (h : u.length = v.length) : (printString u).length = (printString v).length := by
  simp only [printString, cString_of_clean hu, cString_of_clean hv, h]
  split
  · exact h
  · rw [List.length_take, List.length_take, h]

/-! ## Contexts -/

/-- The two channels have the same security context, a missing string counting as empty. -/
structure SameContext (a b : Channel) : Prop where
  /-- Host. -/
  host : a.host = b.host
  /-- Port. -/
  port : a.port = b.port
  /-- Authority. -/
  authority : a.authority.getD [] = b.authority.getD []
  /-- TLS verify name. -/
  tlsVerifyName : a.tlsVerifyName.getD [] = b.tlsVerifyName.getD []
  /-- Kind of credentials. -/
  type : a.credentials.type = b.credentials.type
  /-- Root certificates. -/
  rootCerts : a.credentials.rootCerts.getD [] = b.credentials.rootCerts.getD []
  /-- Certificate chain. -/
  certChain : a.credentials.certChain.getD [] = b.credentials.certChain.getD []
  /-- Private key. -/
  privateKey : a.credentials.privateKey.getD [] = b.credentials.privateKey.getD []

/-- Strings of the same length that the formatter prints alike. -/
def PrintedAlike (u v : Bytes) : Prop := u.length = v.length ∧ printString u = printString v

/-- The two channels agree in everything that is printed or hashed, that is up to the cut of the
formatter in the three names. -/
structure AgreeUpToCut (a b : Channel) : Prop where
  /-- Host. -/
  host : PrintedAlike a.host b.host
  /-- Port. -/
  port : a.port = b.port
  /-- Authority. -/
  authority : PrintedAlike (a.authority.getD []) (b.authority.getD [])
  /-- TLS verify name. -/
  tlsVerifyName : PrintedAlike (a.tlsVerifyName.getD []) (b.tlsVerifyName.getD [])
  /-- Kind of credentials. -/
  type : a.credentials.type = b.credentials.type
  /-- Root certificates. -/
  rootCerts : a.credentials.rootCerts.getD [] = b.credentials.rootCerts.getD []
  /-- Certificate chain. -/
  certChain : a.credentials.certChain.getD [] = b.credentials.certChain.getD []
  /-- Private key. -/
  privateKey : a.credentials.privateKey.getD [] = b.credentials.privateKey.getD []

variable (sha256 : Bytes → Bytes)

/-- The strings hashed for a channel. -/
def hashed (channel : Channel) : List Bytes :=
  [canonical sha256 channel, channel.credentials.rootCerts.getD [],
    channel.credentials.certChain.getD [], channel.credentials.privateKey.getD []]

/-- The hash has digests of 32 bytes and does not collide on some strings. -/
structure Collisionless (strings : List Bytes) : Prop where
  /-- `SHA256_DIGEST_LENGTH`. -/
  size : ∀ x, (sha256 x).length = 32
  /-- Equal digests mean equal strings. -/
  injective : ∀ x ∈ strings, ∀ y ∈ strings, sha256 x = sha256 y → x = y

variable {sha256}

theorem CredentialsType.code_injective {s t : CredentialsType} (h : s.code = t.code) : s = t := by
  cases s <;> cases t <;> first | rfl | cases h

theorem length_sha256Hex (hsize : ∀ x, (sha256 x).length = 32) {u v : Bytes}
    (h : u.length = v.length) : (sha256Hex sha256 u).length = (sha256Hex sha256 v).length := by
  unfold sha256Hex
  rw [h]
  split
  · rfl
  · rw [length_hex, length_hex, hsize, hsize]

/-- Equal digests of strings of the same length mean equal strings. -/
theorem sha256Hex_injective {strings : List Bytes} (hs : Collisionless sha256 strings)
    {u v : Bytes} (hu : u ∈ strings) (hv : v ∈ strings) (hlen : u.length = v.length)
    (h : sha256Hex sha256 u = sha256Hex sha256 v) : u = v := by
  by_cases hempty : v.length = 0
  · rw [List.length_eq_zero_iff.mp hempty, List.length_eq_zero_iff.mp (hlen.trans hempty)]
  · rw [sha256Hex, sha256Hex, if_neg hempty, if_neg (hlen ▸ hempty)] at h
    exact hs.injective u hu v hv (hex_injective h)

/-- The canonical text determines everything that is printed or hashed. -/
theorem agreeUpToCut_of_canonical {targetA targetB : Bytes} {optionsA optionsB : ChannelOptions}
    {a b : Channel} (ha : construct targetA optionsA = .ok a)
    (hb : construct targetB optionsB = .ok b)
    (hs : Collisionless sha256 (hashed sha256 a ++ hashed sha256 b))
    (h : canonical sha256 a = canonical sha256 b) : AgreeUpToCut a b := by
  obtain ⟨hostA, authA, tlsA⟩ := construct_clean ha
  obtain ⟨hostB, authB, tlsB⟩ := construct_clean hb
  simp only [canonical, List.append_assoc, List.singleton_append] at h
  obtain ⟨hhost, hhost', h⟩ := lengthPrefixed_append_inj (length_printString hostA hostB) h
  obtain ⟨hport, h⟩ := decimal_append_inj (by decide) (List.tail_eq_of_cons_eq h)
  obtain ⟨hauth, hauth', h⟩ := lengthPrefixed_append_inj (length_printString authA authB) h
  obtain ⟨htls, htls', h⟩ := lengthPrefixed_append_inj (length_printString tlsA tlsB)
    (List.tail_eq_of_cons_eq h)
  obtain ⟨htype, h⟩ := decimal_append_inj (by decide) (List.tail_eq_of_cons_eq h)
  obtain ⟨hroot, hroot', h⟩ := lengthPrefixed_append_inj (length_sha256Hex hs.size) h
  obtain ⟨hchain, hchain', h⟩ := lengthPrefixed_append_inj (length_sha256Hex hs.size)
    (List.tail_eq_of_cons_eq h)
  have hlast := List.tail_eq_of_cons_eq h
  rw [← List.append_nil (lengthPrefixed _ _)] at hlast
  conv at hlast => rhs; rw [← List.append_nil (lengthPrefixed _ _)]
  obtain ⟨hkey, hkey', -⟩ := lengthPrefixed_append_inj (length_sha256Hex hs.size) hlast
  refine ⟨⟨hhost, hhost'⟩, hport, ⟨hauth, hauth'⟩, ⟨htls, htls'⟩, CredentialsType.code_injective htype,
    sha256Hex_injective hs ?_ ?_ hroot hroot', sha256Hex_injective hs ?_ ?_ hchain hchain',
    sha256Hex_injective hs ?_ ?_ hkey hkey'⟩
  all_goals simp only [hashed, List.mem_append, List.mem_cons, true_or, or_true]

theorem canonical_of_agreeUpToCut {a b : Channel} (h : AgreeUpToCut a b) :
    canonical sha256 a = canonical sha256 b := by
  simp only [canonical, lengthPrefixed, h.host.1, h.host.2, h.port, h.authority.1, h.authority.2,
    h.tlsVerifyName.1, h.tlsVerifyName.2, h.type, h.rootCerts, h.certChain, h.privateKey]

/-- For two accepted channels, whenever the hash does not collide on what is hashed for them:
an equal key means an equal context exactly when the two do not agree up to the cut of the
formatter while one of the three names differs behind it. -/
theorem buildChannelKey_separates_iff {targetA targetB : Bytes}
    {optionsA optionsB : ChannelOptions} {a b : Channel} (sha256 : Bytes → Bytes)
    (ha : construct targetA optionsA = .ok a) (hb : construct targetB optionsB = .ok b)
    (hs : Collisionless sha256 (hashed sha256 a ++ hashed sha256 b)) :
    (buildChannelKey sha256 a = buildChannelKey sha256 b → SameContext a b) ↔
      ¬(AgreeUpToCut a b ∧ ¬(a.host = b.host ∧ a.authority.getD [] = b.authority.getD [] ∧
        a.tlsVerifyName.getD [] = b.tlsVerifyName.getD [])) := by
  have hkey : buildChannelKey sha256 a = buildChannelKey sha256 b ↔ AgreeUpToCut a b := by
    constructor
    · intro h
      have hdigest := hex_injective (List.append_cancel_left h)
      exact agreeUpToCut_of_canonical ha hb hs (hs.injective _ (by simp [hashed]) _
        (by simp [hashed]) hdigest)
    · intro h
      rw [buildChannelKey, buildChannelKey, canonical_of_agreeUpToCut h]
  rw [hkey]
  constructor
  · rintro h ⟨hagree, hdiffer⟩
    have hsame := h hagree
    exact hdiffer ⟨hsame.host, hsame.authority, hsame.tlsVerifyName⟩
  · intro h hagree
    obtain ⟨hhost, hauth, htls⟩ := Classical.not_not.mp fun hdiffer => h ⟨hagree, hdiffer⟩
    exact ⟨hhost, hagree.port, hauth, htls, hagree.type, hagree.rootCerts, hagree.certChain,
      hagree.privateKey⟩

/-- A plain channel to a port. -/
private def plainChannel (port : Nat) : Channel :=
  { target := ascii "h:".toList ++ decimal port, host := ascii "h".toList, port := port
    authority := none, tlsVerifyName := none, primaryUserAgent := none
    maxReceiveMessageLength := 0, credentials := { type := .insecure } }

/-- SHA-256 on the texts of two plain channels and on the empty string. -/
private def sha256Table (text : Bytes) : Bytes :=
  if text = ascii "1:h|1|0:|0:|0|0:0|0:0|0:0".toList then
    [1, 89, 9, 254, 214, 60, 248, 159, 81, 46, 86, 171, 28, 35, 145, 129, 17, 83, 46, 45, 163,
    57, 174, 44, 130, 231, 191, 71, 139, 249, 238, 26]
  else if text = ascii "1:h|2|0:|0:|0|0:0|0:0|0:0".toList then
    [11, 107, 94, 214, 33, 164, 111, 195, 143, 94, 233, 30, 88, 4, 210, 126, 201, 72, 105, 199,
    128, 213, 182, 153, 184, 232, 73, 38, 216, 160, 241, 253]
  else
    [227, 176, 196, 66, 152, 252, 28, 20, 154, 251, 244, 200, 153, 111, 185, 36, 39, 174, 65,
    228, 100, 155, 147, 76, 164, 149, 153, 27, 120, 82, 184, 85]

private theorem collisionless_sha256Table : Collisionless sha256Table
    (hashed sha256Table (plainChannel 1) ++ hashed sha256Table (plainChannel 2)) := by
  refine ⟨fun x => ?_, by decide +kernel⟩
  unfold sha256Table
  split
  · rfl
  · split
    · rfl
    · rfl

/-- Two plain channels to different ports have different keys. -/
theorem buildChannelKey_ports : buildChannelKey sha256Table (plainChannel 1) ≠
    buildChannelKey sha256Table (plainChannel 2) := by
  have hport : (plainChannel 1).port ≠ (plainChannel 2).port := by decide
  have hone : construct (ascii "h:1".toList) { credentials := some { type := .insecure } } =
    .ok (plainChannel 1) := rfl
  have htwo : construct (ascii "h:2".toList) { credentials := some { type := .insecure } } =
    .ok (plainChannel 2) := rfl
  intro heq
  refine hport ((buildChannelKey_separates_iff sha256Table hone htwo
    collisionless_sha256Table).mpr ?_ heq).port
  exact fun h => hport h.1.port

/-- Options of a TLS channel whose verify name has 501 bytes. -/
private def longNameOptions (last : UInt8) : ChannelOptions :=
  { credentials := some { type := .ssl }
    sslTargetNameOverride := some (.string (List.replicate 500 97 ++ [last])) }

/-- The channel that these options give. -/
private def longNameChannel (last : UInt8) : Channel :=
  { target := ascii "h:1".toList, host := ascii "h".toList, port := 1, authority := none
    tlsVerifyName := some (List.replicate 500 97 ++ [last]), primaryUserAgent := none
    maxReceiveMessageLength := 0, credentials := { type := .ssl } }

/-- Two TLS verify names that differ in byte 501 only have the same key under every hash. -/
theorem buildChannelKey_long_names :
    (construct (ascii "h:1".toList) (longNameOptions 97)).toOption = some (longNameChannel 97) ∧
    (construct (ascii "h:1".toList) (longNameOptions 98)).toOption = some (longNameChannel 98) ∧
    ∀ sha256 : Bytes → Bytes, buildChannelKey sha256 (longNameChannel 97) =
      buildChannelKey sha256 (longNameChannel 98) ∧
        ¬SameContext (longNameChannel 97) (longNameChannel 98) := by
  refine ⟨by decide +kernel, by decide +kernel, fun sha256 => ⟨?_, fun h => ?_⟩⟩
  · have hagree : AgreeUpToCut (longNameChannel 97) (longNameChannel 98) :=
      ⟨⟨rfl, rfl⟩, rfl, ⟨rfl, rfl⟩, ⟨by decide +kernel, by decide +kernel⟩, rfl, rfl, rfl, rfl⟩
    rw [buildChannelKey, buildChannelKey, canonical_of_agreeUpToCut hagree]
  · have hname := h.tlsVerifyName
    exact absurd hname (by decide +kernel)

end GrpcLite.Surface
