import GrpcLite.Core.Bytes
import Mathlib.Algebra.Order.BigOperators.Group.List
import Mathlib.Algebra.Order.Ring.Nat
import Mathlib.Data.Bool.AllAny
import Mathlib.Data.List.TakeWhile

/-!
# JSON lines

Values, their text and a reader. The reader inverts the writer in front of any
text that does not continue a number, and no text that it takes for a value is
shorter than the text of the writer. A file is read line by line. Strings are byte
strings, in the values and for the reader, which does not check them for UTF-8.
-/

namespace GrpcLite

/-- A JSON value. Numbers are integers, and strings are byte strings. -/
inductive Json
  | null
  | bool (b : Bool)
  | num (n : Int)
  | str (s : Bytes)
  | arr (items : List Json)
  | obj (members : List (Bytes × Json))

namespace Json

/-! ## Writing -/

/-- The bytes that a string holds as they are. -/
def plain (b : UInt8) : Bool := decide (32 ≤ b.toNat) && b != 34 && b != 92

/-- The escapes of one letter: the letter and the byte it stands for. -/
def letterEscapes : List (UInt8 × UInt8) :=
  [(34, 34), (92, 92), (47, 47), (98, 8), (102, 12), (110, 10), (114, 13), (116, 9)]

/-- The hexadecimal digit of a number below sixteen. -/
def hexDigit (n : Nat) : UInt8 := if n < 10 then UInt8.ofNat (48 + n) else UInt8.ofNat (87 + n)

/-- One byte of a string. -/
def escape (b : UInt8) : Bytes :=
  if plain b then [b]
  else
    match letterEscapes.find? fun e => e.2 == b with
    | some e => [92, e.1]
    | none => [92, 117, 48, 48, hexDigit (b.toNat / 16), hexDigit (b.toNat % 16)]

/-- A string between its quotes. -/
def string (s : Bytes) : Bytes := 34 :: (s.flatMap escape ++ [34])

/-- The digits of a number. -/
def natural (n : Nat) : Bytes := (Nat.toDigits 10 n).map fun c => UInt8.ofNat c.toNat

/-- A number with its sign. -/
def integer : Int → Bytes
  | .ofNat n => natural n
  | .negSucc n => 45 :: natural (n + 1)

/-- Texts with commas between them. -/
def commas : List Bytes → Bytes
  | [] => []
  | [text] => text
  | text :: texts => text ++ 44 :: commas texts

mutual

/-- The text of a value, without white space. -/
def render : Json → Bytes
  | .null => [110, 117, 108, 108]
  | .bool true => [116, 114, 117, 101]
  | .bool false => [102, 97, 108, 115, 101]
  | .num n => integer n
  | .str s => string s
  | .arr items => 91 :: (commas (renderItems items) ++ [93])
  | .obj members => 123 :: (commas (renderMembers members) ++ [125])

/-- The texts of the items of an array. -/
def renderItems : List Json → List Bytes
  | [] => []
  | item :: items => render item :: renderItems items

/-- The texts of the members of an object. -/
def renderMembers : List (Bytes × Json) → List Bytes
  | [] => []
  | (name, value) :: members => (string name ++ 58 :: render value) :: renderMembers members

end

/-- Texts behind the first one are set off by a comma. -/
theorem commas_cons (text text' : Bytes) (texts : List Bytes) :
    commas (text :: text' :: texts) = text ++ 44 :: commas (text' :: texts) := rfl

/-- The text of a member. -/
def renderMember (member : Bytes × Json) : Bytes := string member.1 ++ 58 :: render member.2

/-- The texts of the items, one by one. -/
theorem renderItems_eq (items : List Json) : renderItems items = items.map render := by
  induction items with
  | nil => rfl
  | cons item items ih => rw [renderItems, ih, List.map_cons]

/-- The texts of the members, one by one. -/
theorem renderMembers_eq (members : List (Bytes × Json)) :
    renderMembers members = members.map renderMember := by
  induction members with
  | nil => rfl
  | cons member members ih => rw [renderMembers, ih, List.map_cons, renderMember]

/-! ## Reading -/

/-- A reader takes a value off the front of a text. -/
abbrev Reader (α : Type) := Bytes → Option (α × Bytes)

/-- White space. -/
def isSpace (b : UInt8) : Bool := b == 32 || b == 9 || b == 10 || b == 13

/-- Take a byte behind white space. -/
def expect (b : UInt8) (text : Bytes) : Option Bytes :=
  match text.dropWhile isSpace with
  | [] => none
  | c :: rest => if c = b then some rest else none

/-- The value of a hexadecimal digit. -/
def hexValue (b : UInt8) : Option Nat :=
  if 48 ≤ b.toNat ∧ b.toNat ≤ 57 then some (b.toNat - 48)
  else if 97 ≤ b.toNat ∧ b.toNat ≤ 102 then some (b.toNat - 87)
  else if 65 ≤ b.toNat ∧ b.toNat ≤ 70 then some (b.toNat - 55)
  else none

/-- Four hexadecimal digits, which have to name an ASCII byte. -/
def readCodePoint : Reader UInt8
  | a :: b :: c :: d :: rest => do
    let a ← hexValue a
    let b ← hexValue b
    let c ← hexValue c
    let d ← hexValue d
    if a * 4096 + b * 256 + c * 16 + d < 128 then
      some (UInt8.ofNat (a * 4096 + b * 256 + c * 16 + d), rest)
    else none
  | _ => none

/-- What stands behind a backslash. -/
def readEscape : Reader UInt8
  | [] => none
  | e :: rest =>
    if e = 117 then readCodePoint rest
    else (letterEscapes.find? fun p => p.1 == e).map fun p => (p.2, rest)

/-- One byte of a string. -/
def readByte : Reader UInt8
  | [] => none
  | b :: rest =>
    if b = 92 then readEscape rest
    else if plain b then some (b, rest)
    else none

/-- The bytes of a string up to its closing quote. -/
def readBytes : Nat → Reader Bytes
  | 0, _ => none
  | fuel + 1, text =>
    if text.head? = some 34 then some ([], text.tail)
    else do
      let (b, rest) ← readByte text
      let (s, rest) ← readBytes fuel rest
      return (b :: s, rest)

/-- A string behind its opening quote. -/
def readString : Reader Bytes := fun text => readBytes text.length text

/-- A digit. -/
def isDigit (b : UInt8) : Bool := decide (48 ≤ b.toNat) && decide (b.toNat ≤ 57)

/-- The number that some digits write. -/
def digitsValue (digits : Bytes) : Nat :=
  Nat.ofDigitChars 10 (digits.map fun b => Char.ofNat b.toNat) 0

/-- A number without a sign. -/
def readNatural : Reader Nat := fun text =>
  if text.takeWhile isDigit = [] then none
  else some (digitsValue (text.takeWhile isDigit), text.dropWhile isDigit)

/-- A number: an integer, without a fraction or an exponent. -/
def readInteger : Reader Int
  | [] => none
  | b :: rest =>
    if b = 45 then (readNatural rest).map fun p => (-(p.1 : Int), p.2)
    else (readNatural (b :: rest)).map fun p => ((p.1 : Int), p.2)

/-- The rest of a keyword. -/
def readWord (word : Bytes) (value : Json) : Reader Json := fun text =>
  if word.isPrefixOf text then some (value, text.drop word.length) else none

/-- Items between commas up to a closing byte. -/
def readItems {α : Type} (item : Reader α) (close : UInt8) : Nat → Reader (List α)
  | 0, _ => none
  | fuel + 1, text => do
    let (a, rest) ← item text
    match expect close rest with
    | some rest => some ([a], rest)
    | none => do
      let rest ← expect 44 rest
      let (as, rest) ← readItems item close fuel rest
      return (a :: as, rest)

/-- A list behind its opening byte. -/
def readList {α : Type} (item : Reader α) (close : UInt8) : Reader (List α) := fun text =>
  match expect close text with
  | some rest => some ([], rest)
  | none => readItems item close text.length text

/-- A member of an object. -/
def readMember (value : Reader Json) : Reader (Bytes × Json) := fun text => do
  let rest ← expect 34 text
  let (name, rest) ← readString rest
  let rest ← expect 58 rest
  let (j, rest) ← value rest
  return ((name, j), rest)

/-- A value, nested no deeper than a bound. -/
def readValue : Nat → Reader Json
  | 0, _ => none
  | depth + 1, text =>
    match text.dropWhile isSpace with
    | [] => none
    | b :: rest =>
      if b = 34 then (readString rest).map fun p => (.str p.1, p.2)
      else if b = 91 then (readList (readValue depth) 93 rest).map fun p => (.arr p.1, p.2)
      else if b = 123 then
        (readList (readMember (readValue depth)) 125 rest).map fun p => (.obj p.1, p.2)
      else if b = 110 then readWord [117, 108, 108] .null rest
      else if b = 116 then readWord [114, 117, 101] (.bool true) rest
      else if b = 102 then readWord [97, 108, 115, 101] (.bool false) rest
      else (readInteger (b :: rest)).map fun p => (.num p.1, p.2)

/-- The value that a whole text stands for. -/
def parse (text : Bytes) : Option Json :=
  match readValue text.length text with
  | some (value, rest) => if rest.all isSpace then some value else none
  | none => none

/-! ## The bytes of a text -/

/-- A plain byte is no control byte, no quote and no backslash. -/
theorem plain_iff {b : UInt8} : plain b = true ↔ 32 ≤ b.toNat ∧ b ≠ 34 ∧ b ≠ 92 := by
  simp only [plain, Bool.and_eq_true, decide_eq_true_eq, bne_iff_ne, and_assoc]

/-- A property of every byte, checked on the numbers below 256. -/
theorem forall_byte {p : UInt8 → Prop} (h : ∀ n : Fin 256, p (UInt8.ofNat n)) (b : UInt8) : p b := by
  have hb := h ⟨b.toNat, b.toNat_lt⟩
  rwa [UInt8.ofNat_toNat] at hb

/-- What is not plain is ASCII. -/
theorem toNat_lt_of_not_plain {b : UInt8} (h : plain b = false) : b.toNat < 128 := by
  by_contra hb
  have hplain : plain b = true := by
    refine plain_iff.mpr ⟨by omega, ?_, ?_⟩
    all_goals
      rintro rfl
      exact hb (by decide)
  rw [hplain] at h
  cases h

/-- A byte is written as it is, with the escape of a letter or with its code point. -/
theorem escape_cases (b : UInt8) :
    plain b = true ∧ escape b = [b] ∨
      (∃ e ∈ letterEscapes, e.2 = b ∧ escape b = [92, e.1]) ∨
      plain b = false ∧
        escape b = [92, 117, 48, 48, hexDigit (b.toNat / 16), hexDigit (b.toNat % 16)] := by
  unfold escape
  split
  · next hplain => exact .inl ⟨hplain, rfl⟩
  · next hplain =>
    split
    · next e he =>
      have hvalue := List.find?_some he
      exact .inr (.inl ⟨e, List.mem_of_find?_eq_some he, beq_iff_eq.mp hvalue, rfl⟩)
    · exact .inr (.inr ⟨Bool.eq_false_of_not_eq_true hplain, rfl⟩)

/-- A hexadecimal digit is no control byte. -/
theorem le_hexDigit {n : Nat} (h : n < 16) : 32 ≤ (hexDigit n).toNat := by
  have hall : ∀ n < 16, 32 ≤ (hexDigit n).toNat := by decide
  exact hall n h

/-- An escaped byte leaves no control byte in the text. -/
theorem mem_escape {b c : UInt8} (h : c ∈ escape b) : 32 ≤ c.toNat := by
  rcases escape_cases b with ⟨hplain, he⟩ | ⟨e, hmem, -, he⟩ | ⟨-, he⟩
  · rw [he] at h
    obtain rfl := List.mem_singleton.mp h
    exact (plain_iff.mp hplain).1
  · have hall : ∀ e ∈ letterEscapes, 32 ≤ e.1.toNat := List.all_iff_forall_prop.mp (by decide)
    simp only [he, List.mem_cons, List.not_mem_nil, or_false] at h
    rcases h with rfl | rfl
    · decide
    · exact hall e hmem
  · have hbyte := b.toNat_lt
    simp only [he, List.mem_cons, List.not_mem_nil, or_false] at h
    rcases h with rfl | rfl | rfl | rfl | rfl | rfl
    · decide
    · decide
    · decide
    · decide
    · exact le_hexDigit (by omega)
    · exact le_hexDigit (by omega)

/-- A written string has no control bytes. -/
theorem mem_string {s : Bytes} {c : UInt8} (h : c ∈ string s) : 32 ≤ c.toNat := by
  simp only [string, List.mem_cons, List.mem_append, List.mem_flatMap, List.not_mem_nil,
    or_false] at h
  rcases h with rfl | ⟨b, -, hb⟩ | rfl
  · decide
  · exact mem_escape hb
  · decide

/-- A digit, by its number. -/
theorem isDigit_iff {b : UInt8} : isDigit b = true ↔ 48 ≤ b.toNat ∧ b.toNat ≤ 57 := by
  simp only [isDigit, Bool.and_eq_true, decide_eq_true_eq]

/-- The digits of a number. -/
theorem mem_natural {n : Nat} {b : UInt8} (h : b ∈ natural n) : isDigit b = true := by
  obtain ⟨c, hc, rfl⟩ := List.mem_map.mp h
  have hd := Nat.isDigit_of_mem_toDigits (by decide) (by decide) hc
  simp only [Char.isDigit, Bool.and_eq_true, decide_eq_true_eq] at hd
  have h₁ : 48 ≤ c.toNat := hd.1
  have h₂ : c.toNat ≤ 57 := hd.2
  rw [isDigit_iff, UInt8.toNat_ofNat_of_lt' (Nat.lt_of_le_of_lt h₂ (by decide : 57 < UInt8.size))]
  exact ⟨h₁, h₂⟩

/-- A number has a digit. -/
theorem natural_ne_nil (n : Nat) : natural n ≠ [] := by
  simp only [natural, ne_eq, List.map_eq_nil_iff]
  exact Nat.toDigits_ne_nil

/-! ## The reader inverts the writer -/

/-- A text that does not continue a number. -/
def Stops (text : Bytes) : Prop := ∀ b ∈ text.head?, isDigit b = false

/-- Text that begins with anything but a digit stops a number. -/
theorem stops_cons {b : UInt8} {text : Bytes} (h : isDigit b = false) : Stops (b :: text) := by
  intro c hc
  obtain rfl := Option.some.inj hc
  exact h

/-- The digits of a number have its value. -/
theorem digitsValue_natural (n : Nat) : digitsValue (natural n) = n := by
  have hchars : (natural n).map (fun b => Char.ofNat b.toNat) = Nat.toDigits 10 n := by
    rw [natural, List.map_map]
    refine (List.map_congr_left fun c hc => ?_).trans (List.map_id _)
    have hd := Nat.isDigit_of_mem_toDigits (by decide) (by decide) hc
    simp only [Char.isDigit, Bool.and_eq_true, decide_eq_true_eq] at hd
    have hlt : c.toNat < UInt8.size := Nat.lt_of_le_of_lt hd.2 (by decide)
    simp only [Function.comp_apply, UInt8.toNat_ofNat_of_lt' hlt, Char.ofNat_toNat, id_eq]
  rw [digitsValue, hchars, Nat.ofDigitChars_ten_toDigits]

/-- A written number is read in front of text that stops it. -/
theorem readNatural_append (n : Nat) {rest : Bytes} (h : Stops rest) :
    readNatural (natural n ++ rest) = some (n, rest) := by
  have hdigits : ∀ b ∈ natural n, isDigit b = true := fun b hb => mem_natural hb
  have htake : (natural n ++ rest).takeWhile isDigit = natural n := by
    rw [List.takeWhile_append_of_pos hdigits]
    cases rest with
    | nil => exact List.append_nil _
    | cons b rest =>
      rw [List.takeWhile_cons_of_neg (by rw [h b rfl]; decide), List.append_nil]
  have hdrop : (natural n ++ rest).dropWhile isDigit = rest := by
    rw [List.dropWhile_append_of_pos hdigits]
    cases rest with
    | nil => rfl
    | cons b rest => exact List.dropWhile_cons_of_neg (by rw [h b rfl]; decide)
  rw [readNatural, htake, hdrop, if_neg (natural_ne_nil n), digitsValue_natural]

/-- A number starts with a digit or with its sign. -/
theorem integer_head (i : Int) :
    ∃ b text, integer i = b :: text ∧ (isDigit b = true ∨ b = 45) := by
  cases i with
  | ofNat n =>
    obtain ⟨b, text, htext⟩ := List.exists_cons_of_ne_nil (natural_ne_nil n)
    exact ⟨b, text, htext, .inl (mem_natural (htext ▸ List.mem_cons_self))⟩
  | negSucc n => exact ⟨45, natural (n + 1), rfl, .inr rfl⟩

/-- So is a written integer. -/
theorem readInteger_append (i : Int) {rest : Bytes} (h : Stops rest) :
    readInteger (integer i ++ rest) = some (i, rest) := by
  cases i with
  | ofNat n =>
    obtain ⟨b, text, htext⟩ := List.exists_cons_of_ne_nil (natural_ne_nil n)
    have hdigit : isDigit b = true := mem_natural (htext ▸ List.mem_cons_self)
    have hsign : b ≠ 45 := by
      rintro rfl
      cases hdigit
    have hread := readNatural_append n h
    rw [htext, List.cons_append] at hread
    rw [integer, htext, List.cons_append, readInteger, if_neg hsign, hread]
    rfl
  | negSucc n =>
    rw [integer, List.cons_append, readInteger, if_pos rfl, readNatural_append (n + 1) h]
    rfl

/-- A hexadecimal digit has its value. -/
theorem hexValue_hexDigit {n : Nat} (h : n < 16) : hexValue (hexDigit n) = some n := by
  have hall : ∀ n < 16, hexValue (hexDigit n) = some n := by decide
  exact hall n h

/-- The escapes of one letter are told apart by the letter. -/
theorem find_letterEscapes {e : UInt8 × UInt8} (h : e ∈ letterEscapes) :
    e.1 ≠ 117 ∧ (letterEscapes.find? fun p => p.1 == e.1) = some e := by
  have hall : ∀ e ∈ letterEscapes,
      e.1 ≠ 117 ∧ (letterEscapes.find? fun p => p.1 == e.1) = some e :=
    List.all_iff_forall_prop.mp (by decide)
  exact hall e h

/-- A byte is read back from its escape. -/
theorem readByte_escape (b : UInt8) (rest : Bytes) :
    readByte (escape b ++ rest) = some (b, rest) := by
  rcases escape_cases b with ⟨hplain, he⟩ | ⟨e, hmem, hvalue, he⟩ | ⟨hplain, he⟩
  · have hb : b ≠ 92 := (plain_iff.mp hplain).2.2
    rw [he, List.singleton_append, readByte, if_neg hb, if_pos hplain]
  · obtain ⟨hletter, hfind⟩ := find_letterEscapes hmem
    rw [he, List.cons_append, List.singleton_append, readByte, if_pos rfl, readEscape,
      if_neg hletter, hfind, Option.map_some, hvalue]
  · have hsmall := toNat_lt_of_not_plain hplain
    have hhigh : b.toNat / 16 < 16 := by omega
    have hlow : b.toNat % 16 < 16 := Nat.mod_lt _ (by decide)
    have hzero : hexValue 48 = some 0 := rfl
    have hsum : 0 * 4096 + 0 * 256 + b.toNat / 16 * 16 + b.toNat % 16 = b.toNat := by omega
    simp only [he, List.cons_append, List.nil_append, readByte, if_true, readEscape, readCodePoint,
      hzero, hexValue_hexDigit hhigh, hexValue_hexDigit hlow, Option.bind_eq_bind,
      Option.bind_some, hsum, if_pos hsmall, UInt8.ofNat_toNat]

/-- An escaped byte is no closing quote. -/
theorem escape_head (b : UInt8) : ∃ c text, escape b = c :: text ∧ c ≠ 34 := by
  rcases escape_cases b with ⟨hplain, he⟩ | ⟨e, -, -, he⟩ | ⟨-, he⟩
  · exact ⟨b, [], he, (plain_iff.mp hplain).2.1⟩
  · exact ⟨92, _, he, by decide⟩
  · exact ⟨92, _, he, by decide⟩

/-- Bytes are read back from their escapes up to the quote. -/
theorem readBytes_append (s rest : Bytes) {fuel : Nat} (h : s.length < fuel) :
    readBytes fuel (s.flatMap escape ++ 34 :: rest) = some (s, rest) := by
  induction s generalizing fuel with
  | nil =>
    obtain ⟨fuel, rfl⟩ := Nat.exists_eq_succ_of_ne_zero (Nat.ne_of_gt h)
    rfl
  | cons b s ih =>
    obtain ⟨fuel, rfl⟩ := Nat.exists_eq_succ_of_ne_zero (Nat.ne_of_gt (Nat.zero_lt_of_lt h))
    obtain ⟨c, text, htext, hquote⟩ := escape_head b
    have hhead : (escape b ++ (s.flatMap escape ++ 34 :: rest)).head? ≠ some 34 := by
      rw [htext, List.cons_append, List.head?_cons]
      exact fun he => hquote (Option.some.inj he)
    rw [List.flatMap_cons, List.append_assoc, readBytes, if_neg hhead, readByte_escape]
    simp only [Option.bind_eq_bind, Option.bind_some, ih (Nat.lt_of_succ_lt_succ h)]
    rfl

/-- Escapes do not shorten a string. -/
theorem length_le_flatMap_escape (s : Bytes) : s.length ≤ (s.flatMap escape).length := by
  induction s with
  | nil => exact Nat.le_refl _
  | cons b s ih =>
    obtain ⟨c, text, htext, -⟩ := escape_head b
    rw [List.flatMap_cons, List.length_append, htext, List.length_cons, List.length_cons]
    omega

/-- A written string is read back behind its first quote. -/
theorem readString_append (s rest : Bytes) :
    readString (s.flatMap escape ++ [34] ++ rest) = some (s, rest) := by
  rw [List.append_assoc, List.singleton_append]
  refine readBytes_append s rest ?_
  have hlength := length_le_flatMap_escape s
  rw [List.length_append, List.length_cons]
  omega

/-- The expected byte is taken. -/
theorem expect_cons {b : UInt8} (h : isSpace b = false) (rest : Bytes) :
    expect b (b :: rest) = some rest := by
  rw [expect, List.dropWhile_cons_of_neg (by rw [h]; decide)]
  exact if_pos rfl

/-- Another byte in its place is refused. -/
theorem expect_cons_of_ne {b c : UInt8} (h : isSpace c = false) (hne : c ≠ b) (rest : Bytes) :
    expect b (c :: rest) = none := by
  rw [expect, List.dropWhile_cons_of_neg (by rw [h]; decide)]
  exact if_neg hne

/-- Every text but the first brings a comma. -/
theorem length_le_commas (texts : List Bytes) : texts.length ≤ (commas texts).length + 1 := by
  induction texts with
  | nil => exact Nat.zero_le _
  | cons text texts ih =>
    cases texts with
    | nil => exact Nat.le_add_left 1 _
    | cons text' texts =>
      simp only [commas_cons, List.length_append, List.length_cons] at ih ⊢
      omega

/-- A text is not longer than the list that it stands in. -/
theorem length_le_commas_of_mem {text : Bytes} {texts : List Bytes} (h : text ∈ texts) :
    text.length ≤ (commas texts).length := by
  induction texts with
  | nil => cases h
  | cons t texts ih =>
    cases texts with
    | nil => exact Nat.le_of_eq (congrArg List.length (List.mem_singleton.mp h))
    | cons t' texts =>
      rw [commas_cons, List.length_append, List.length_cons]
      rcases List.mem_cons.mp h with rfl | h
      · exact Nat.le_add_right _ _
      · have := ih h
        omega

section Lists

variable {α : Type} {item : Reader α} {write : α → Bytes} {c : UInt8}

/-- A list reads back when each of its items does. -/
theorem readItems_append (hspace : isSpace c = false) (hdigit : isDigit c = false)
    (hcomma : c ≠ 44) {as : List α} (hne : as ≠ [])
    (h : ∀ a ∈ as, ∀ rest, Stops rest → item (write a ++ rest) = some (a, rest))
    (rest : Bytes) {fuel : Nat} (hfuel : as.length ≤ fuel) :
    readItems item c fuel (commas (as.map write) ++ c :: rest) = some (as, rest) := by
  induction as generalizing fuel with
  | nil => exact absurd rfl hne
  | cons a as ih =>
    obtain ⟨fuel, rfl⟩ := Nat.exists_eq_succ_of_ne_zero
      (Nat.ne_of_gt (Nat.lt_of_lt_of_le (Nat.zero_lt_succ _) hfuel))
    have hitem := h a List.mem_cons_self
    cases as with
    | nil =>
      simp only [List.map_cons, List.map_nil, commas, readItems, hitem _ (stops_cons hdigit),
        Option.bind_eq_bind, Option.bind_some, expect_cons hspace]
    | cons a' as =>
      have hrest := ih (List.cons_ne_nil _ _) (fun b hb => h b (List.mem_cons_of_mem _ hb))
        (Nat.le_of_succ_le_succ hfuel)
      have hdone : expect c (44 :: (commas ((a' :: as).map write) ++ c :: rest)) = none :=
        expect_cons_of_ne rfl hcomma.symm _
      have hcontinue : Stops (44 :: (commas ((a' :: as).map write) ++ c :: rest)) :=
        stops_cons rfl
      rw [List.map_cons, List.map_cons, commas_cons, List.append_assoc, List.cons_append,
        ← List.map_cons, readItems, hitem _ hcontinue]
      simp only [Option.bind_eq_bind, Option.bind_some, hdone,
        expect_cons (b := 44) rfl, hrest]
      rfl

/-- A written list is read back when its items are and none of them opens with the closing byte. -/
theorem readList_append (hspace : isSpace c = false) (hdigit : isDigit c = false)
    (hcomma : c ≠ 44) {as : List α}
    (h : ∀ a ∈ as, ∀ rest, Stops rest → item (write a ++ rest) = some (a, rest))
    (hopens : ∀ a ∈ as, ∃ b text, write a = b :: text ∧ isSpace b = false ∧ b ≠ c)
    (rest : Bytes) :
    readList item c (commas (as.map write) ++ [c] ++ rest) = some (as, rest) := by
  rw [List.append_assoc, List.singleton_append]
  cases as with
  | nil =>
    rw [List.map_nil, commas, List.nil_append, readList, expect_cons hspace]
  | cons a as =>
    obtain ⟨b, text, htext, hb, hclose⟩ := hopens a List.mem_cons_self
    have hhead : ∃ t, commas ((a :: as).map write) ++ c :: rest = b :: t := by
      cases as with
      | nil => exact ⟨text ++ c :: rest, by rw [List.map_cons, List.map_nil, commas, htext]; rfl⟩
      | cons a' as =>
        refine ⟨text ++ 44 :: commas ((a' :: as).map write) ++ c :: rest, ?_⟩
        rw [List.map_cons, List.map_cons, commas_cons, htext]
        rfl
    obtain ⟨t, ht⟩ := hhead
    have hexpect : expect c (commas ((a :: as).map write) ++ c :: rest) = none := by
      rw [ht]
      exact expect_cons_of_ne hb hclose t
    have hlength := length_le_commas ((a :: as).map write)
    rw [List.length_map] at hlength
    rw [readList, hexpect]
    refine readItems_append hspace hdigit hcomma (List.cons_ne_nil _ _) h rest ?_
    rw [List.length_append, List.length_cons]
    exact Nat.le_trans hlength (Nat.add_le_add_left (Nat.le_add_left 1 _) _)

end Lists

/-- The first byte of a number is no other byte. -/
theorem ne_of_number {b c : UInt8} (hb : isDigit b = true ∨ b = 45) (hc : isDigit c = false)
    (hsign : c ≠ 45) : b ≠ c := by
  rintro rfl
  rcases hb with hb | rfl
  · rw [hb] at hc
    cases hc
  · exact hsign rfl

/-- Nor is it white space. -/
theorem isSpace_of_number {b : UInt8} (hb : isDigit b = true ∨ b = 45) : isSpace b = false := by
  have h₁ : b ≠ 32 := ne_of_number hb rfl (by decide)
  have h₂ : b ≠ 9 := ne_of_number hb rfl (by decide)
  have h₃ : b ≠ 10 := ne_of_number hb rfl (by decide)
  have h₄ : b ≠ 13 := ne_of_number hb rfl (by decide)
  simp only [isSpace, beq_eq_false_iff_ne.mpr h₁, beq_eq_false_iff_ne.mpr h₂,
    beq_eq_false_iff_ne.mpr h₃, beq_eq_false_iff_ne.mpr h₄, Bool.or_false]

/-- What the text of a value starts with. -/
theorem render_head (j : Json) :
    ∃ b text, render j = b :: text ∧ isSpace b = false ∧ b ≠ 93 := by
  cases j with
  | null | str _ | arr _ | obj _ => exact ⟨_, _, rfl, rfl, by decide⟩
  | bool b => cases b <;> exact ⟨_, _, rfl, rfl, by decide⟩
  | num i =>
    obtain ⟨b, text, htext, hb⟩ := integer_head i
    exact ⟨b, text, htext, isSpace_of_number hb, ne_of_number hb rfl (by decide)⟩

/-- A written member is read back when its value is. -/
theorem readMember_append {value : Reader Json} {member : Bytes × Json} {rest : Bytes}
    (h : value (render member.2 ++ rest) = some (member.2, rest)) :
    readMember value (renderMember member ++ rest) = some (member, rest) := by
  have hstring := readString_append member.1 (58 :: (render member.2 ++ rest))
  rw [renderMember, string, readMember]
  simp only [List.cons_append, List.append_assoc, List.nil_append] at hstring ⊢
  simp only [expect_cons (b := 34) rfl, Option.bind_eq_bind, Option.bind_some, hstring,
    expect_cons (b := 58) rfl, h]
  rfl

/-- Every value reads back from its text. -/
theorem readValue_append {depth : Nat} {j : Json} {rest : Bytes}
    (hdepth : (render j).length ≤ depth) (h : Stops rest) :
    readValue depth (render j ++ rest) = some (j, rest) := by
  induction depth generalizing j rest with
  | zero =>
    obtain ⟨b, text, htext, -⟩ := render_head j
    rw [htext] at hdepth
    cases hdepth
  | succ depth ih =>
    cases j with
    | null | bool b => first | rfl | (cases b <;> rfl)
    | str s =>
      have hstring := readString_append s rest
      rw [render, string, readValue]
      simp only [List.cons_append]
      rw [List.dropWhile_cons_of_neg (by decide)]
      simp only [if_true, hstring, Option.map_some]
    | num i =>
      obtain ⟨b, text, htext, hb⟩ := integer_head i
      have h₁ : b ≠ 34 := ne_of_number hb rfl (by decide)
      have h₂ : b ≠ 91 := ne_of_number hb rfl (by decide)
      have h₃ : b ≠ 123 := ne_of_number hb rfl (by decide)
      have h₄ : b ≠ 110 := ne_of_number hb rfl (by decide)
      have h₅ : b ≠ 116 := ne_of_number hb rfl (by decide)
      have h₆ : b ≠ 102 := ne_of_number hb rfl (by decide)
      have hread := readInteger_append i h
      rw [htext, List.cons_append] at hread
      rw [render, htext, List.cons_append, readValue,
        List.dropWhile_cons_of_neg (by rw [isSpace_of_number hb]; decide)]
      simp only [if_neg h₁, if_neg h₂, if_neg h₃, if_neg h₄, if_neg h₅, if_neg h₆, hread,
        Option.map_some]
    | arr items =>
      have hitems : ∀ item ∈ items, ∀ rest, Stops rest →
          readValue depth (render item ++ rest) = some (item, rest) := by
        intro item hitem rest hrest
        refine ih ?_ hrest
        have hlength := length_le_commas_of_mem (List.mem_map_of_mem (f := render) hitem)
        rw [render, renderItems_eq, List.length_cons, List.length_append] at hdepth
        omega
      have hlist := readList_append (c := 93) rfl rfl (by decide) hitems
        (fun item _ => render_head item) rest
      rw [render, renderItems_eq, List.cons_append, readValue,
        List.dropWhile_cons_of_neg (by decide)]
      simp only [hlist, Option.map_some]
      rfl
    | obj members =>
      have hmembers : ∀ member ∈ members, ∀ rest, Stops rest →
          readMember (readValue depth) (renderMember member ++ rest) = some (member, rest) := by
        intro member hmember rest hrest
        refine readMember_append (ih ?_ hrest)
        have hlength := length_le_commas_of_mem (List.mem_map_of_mem (f := renderMember) hmember)
        rw [render, renderMembers_eq, List.length_cons, List.length_append] at hdepth
        rw [renderMember, List.length_append, List.length_cons] at hlength
        omega
      have hlist := readList_append (c := 125) rfl rfl (by decide) hmembers
        (fun member _ => ⟨34, _, rfl, rfl, by decide⟩) rest
      rw [render, renderMembers_eq, List.cons_append, readValue,
        List.dropWhile_cons_of_neg (by decide)]
      simp only [hlist, Option.map_some]
      rfl

/-- A written value is read back. -/
theorem parse_render (j : Json) : parse (render j) = some j := by
  have hend : Stops [] := fun b hb => by cases hb
  have hread := readValue_append (Nat.le_refl (render j).length) hend
  rw [List.append_nil] at hread
  rw [parse, hread]
  rfl

/-! ## No text is shorter than the one of the writer -/

/-- An escape has six bytes at most. -/
theorem length_escape_le (b : UInt8) : (escape b).length ≤ 6 := by
  rcases escape_cases b with ⟨-, he⟩ | ⟨e, -, -, he⟩ | ⟨-, he⟩
  all_goals
    simp only [he, List.length_cons, List.length_nil]
    omega

/-- The escape of a byte that is not plain has two bytes at least. -/
theorem two_le_length_escape {b : UInt8} (h : plain b = false) : 2 ≤ (escape b).length := by
  rcases escape_cases b with ⟨hplain, -⟩ | ⟨e, -, -, he⟩ | ⟨-, he⟩
  · rw [hplain] at h
    cases h
  all_goals
    simp only [he, List.length_cons, List.length_nil]
    omega

/-- A code point takes four digits. -/
theorem readCodePoint_length {text rest : Bytes} {b : UInt8}
    (h : readCodePoint text = some (b, rest)) : rest.length + 4 = text.length := by
  unfold readCodePoint at h
  split at h
  · simp only [Option.bind_eq_bind, Option.bind_eq_some_iff] at h
    obtain ⟨_, -, _, -, _, -, _, -, h⟩ := h
    split at h
    · obtain ⟨-, rfl⟩ := Prod.mk.inj (Option.some.inj h)
      simp only [List.length_cons]
    · cases h
  · cases h

/-- A byte that is read has taken at least as many bytes as the writer needs for it. -/
theorem readByte_length {text rest : Bytes} {b : UInt8} (h : readByte text = some (b, rest)) :
    (escape b).length + rest.length ≤ text.length := by
  cases text with
  | nil => cases h
  | cons c text =>
    rw [readByte] at h
    split at h
    · cases text with
      | nil => cases h
      | cons e text =>
        rw [readEscape] at h
        split at h
        · have hlength := readCodePoint_length h
          have hescape := length_escape_le b
          simp only [List.length_cons]
          omega
        · obtain ⟨p, hp, he⟩ := Option.map_eq_some_iff.mp h
          obtain ⟨rfl, rfl⟩ := Prod.mk.inj he
          have hall : ∀ p ∈ letterEscapes, (escape p.2).length ≤ 2 :=
            List.all_iff_forall_prop.mp (by decide)
          have hescape := hall p (List.mem_of_find?_eq_some hp)
          simp only [List.length_cons]
          omega
    · split at h
      · next hplain =>
        obtain ⟨rfl, rfl⟩ := Prod.mk.inj (Option.some.inj h)
        rw [escape, if_pos hplain, List.length_singleton, List.length_cons, Nat.add_comm]
      · cases h

/-- So have the bytes up to a quote. -/
theorem readBytes_length {fuel : Nat} {text rest s : Bytes}
    (h : readBytes fuel text = some (s, rest)) :
    (s.flatMap escape).length + 1 + rest.length ≤ text.length := by
  induction fuel generalizing text s with
  | zero => cases h
  | succ fuel ih =>
    rw [readBytes] at h
    split at h
    · next hquote =>
      obtain ⟨rfl, rfl⟩ := Prod.mk.inj (Option.some.inj h)
      cases text with
      | nil => cases hquote
      | cons b text => exact Nat.le_of_eq (Nat.add_comm _ _)
    · simp only [Option.bind_eq_bind, Option.bind_eq_some_iff, Prod.exists] at h
      obtain ⟨b, text', hbyte, s', rest', hs, he⟩ := h
      obtain ⟨rfl, rfl⟩ := Prod.mk.inj (Option.some.inj he)
      have hbyte := readByte_length hbyte
      have hs := ih hs
      rw [List.flatMap_cons, List.length_append]
      omega

/-- The quotes of a string are two bytes. -/
theorem length_string (s : Bytes) : (string s).length = (s.flatMap escape).length + 2 := by
  rw [string, List.length_cons, List.length_append, List.length_singleton]

/-- A byte that was expected has been taken. -/
theorem expect_length {b : UInt8} {text rest : Bytes} (h : expect b text = some rest) :
    rest.length + 1 ≤ text.length := by
  have hskip := List.length_dropWhile_le isSpace text
  unfold expect at h
  split at h
  · cases h
  · next c rest' heq =>
    split at h
    · obtain rfl := Option.some.inj h
      rw [heq, List.length_cons] at hskip
      exact hskip
    · cases h

/-- So many digits stand for a number below that power of ten. -/
theorem ofDigitChars_lt (chars : List Char) (h : ∀ c ∈ chars, c.toNat ≤ 57) (n : Nat) :
    Nat.ofDigitChars 10 chars n < 10 ^ chars.length * (n + 1) := by
  induction chars generalizing n with
  | nil =>
    rw [Nat.ofDigitChars_nil, List.length_nil, Nat.pow_zero, Nat.one_mul]
    exact Nat.lt_succ_self n
  | cons c chars ih =>
    have hc := h c List.mem_cons_self
    have hnext := ih (fun d hd => h d (List.mem_cons_of_mem _ hd)) (10 * n + (c.toNat - 48))
    have hstep : 10 ^ chars.length * (10 * n + (c.toNat - 48) + 1) ≤
        10 ^ chars.length * (10 * (n + 1)) := Nat.mul_le_mul_left _ (by omega)
    rw [Nat.ofDigitChars_cons, List.length_cons, Nat.pow_succ, Nat.mul_assoc]
    exact Nat.lt_of_lt_of_le hnext hstep

/-- A number that is read has taken at least its digits. -/
theorem readNatural_length {text rest : Bytes} {n : Nat} (h : readNatural text = some (n, rest)) :
    (natural n).length + rest.length ≤ text.length := by
  unfold readNatural at h
  split at h
  · cases h
  · next hne =>
    obtain ⟨rfl, rfl⟩ := Prod.mk.inj (Option.some.inj h)
    have hdigits : ∀ c ∈ (text.takeWhile isDigit).map fun b => Char.ofNat b.toNat,
        c.toNat ≤ 57 := by
      intro c hc
      obtain ⟨b, hb, rfl⟩ := List.mem_map.mp hc
      have hdigit := isDigit_iff.mp (List.all_eq_true.mp List.all_takeWhile b hb)
      have hvalid : b.toNat.isValidChar := .inl (by omega)
      rw [Char.ofNat, dif_pos hvalid]
      exact hdigit.2
    have hvalue := ofDigitChars_lt _ hdigits 0
    rw [List.length_map, Nat.zero_add, Nat.mul_one] at hvalue
    have hlength : (natural (digitsValue (text.takeWhile isDigit))).length ≤
        (text.takeWhile isDigit).length := by
      rw [natural, List.length_map]
      exact (Nat.length_toDigits_le_iff (by decide) (List.length_pos_iff.mpr hne)).mpr hvalue
    have hsplit := congrArg List.length (List.takeWhile_append_dropWhile (p := isDigit) (l := text))
    rw [List.length_append] at hsplit
    omega

/-- An integer that is read has taken at least its sign and digits. -/
theorem readInteger_length {text rest : Bytes} {i : Int}
    (h : readInteger text = some (i, rest)) :
    (integer i).length + rest.length ≤ text.length := by
  cases text with
  | nil => cases h
  | cons b text =>
    rw [readInteger] at h
    split at h
    · obtain ⟨⟨n, rest'⟩, hn, he⟩ := Option.map_eq_some_iff.mp h
      obtain ⟨rfl, rfl⟩ := Prod.mk.inj he
      have hlength := readNatural_length hn
      cases n with
      | zero => exact Nat.le_succ_of_le hlength
      | succ n =>
        change (45 :: natural (n + 1)).length + rest'.length ≤ _
        rw [List.length_cons, List.length_cons]
        omega
    · obtain ⟨⟨n, rest'⟩, hn, he⟩ := Option.map_eq_some_iff.mp h
      obtain ⟨rfl, rfl⟩ := Prod.mk.inj he
      exact readNatural_length hn

section Lists

variable {α : Type} {item : Reader α} {write : α → Bytes} {c : UInt8}

/-- The items that are read, at least one, have taken as much as the writer needs for them and their
end. -/
theorem readItems_length
    (hitem : ∀ {text rest : Bytes} {a : α}, item text = some (a, rest) →
      (write a).length + rest.length ≤ text.length)
    {fuel : Nat} {text rest : Bytes} {as : List α}
    (h : readItems item c fuel text = some (as, rest)) :
    as ≠ [] ∧ (commas (as.map write)).length + 1 + rest.length ≤ text.length := by
  induction fuel generalizing text as with
  | zero => cases h
  | succ fuel ih =>
    rw [readItems] at h
    simp only [Option.bind_eq_bind, Option.bind_eq_some_iff, Prod.exists] at h
    obtain ⟨a, text', ha, h⟩ := h
    have ha := hitem ha
    split at h
    · next hclose =>
      obtain ⟨rfl, rfl⟩ := Prod.mk.inj (Option.some.inj h)
      have hclose := expect_length hclose
      refine ⟨List.cons_ne_nil _ _, ?_⟩
      rw [List.map_cons, List.map_nil, commas]
      omega
    · simp only [Option.bind_eq_some_iff, Prod.exists] at h
      obtain ⟨text'', hcomma, as', rest', has, he⟩ := h
      obtain ⟨rfl, rfl⟩ := Prod.mk.inj (Option.some.inj he)
      have hcomma := expect_length hcomma
      obtain ⟨hne, has⟩ := ih has
      refine ⟨List.cons_ne_nil _ _, ?_⟩
      obtain ⟨a', as, rfl⟩ := List.exists_cons_of_ne_nil hne
      simp only [List.map_cons, commas_cons, List.length_append, List.length_cons] at has ⊢
      omega

/-- So has a whole list. -/
theorem readList_length
    (hitem : ∀ {text rest : Bytes} {a : α}, item text = some (a, rest) →
      (write a).length + rest.length ≤ text.length)
    {text rest : Bytes} {as : List α} (h : readList item c text = some (as, rest)) :
    (commas (as.map write)).length + 1 + rest.length ≤ text.length := by
  unfold readList at h
  split at h
  · next hclose =>
    obtain ⟨rfl, rfl⟩ := Prod.mk.inj (Option.some.inj h)
    have hclose := expect_length hclose
    rw [List.map_nil, commas, List.length_nil]
    omega
  · exact (readItems_length hitem h).2

end Lists

/-- So has a member with its name. -/
theorem readMember_length {value : Reader Json} {text rest : Bytes} {member : Bytes × Json}
    (hvalue : ∀ {text rest : Bytes} {j : Json}, value text = some (j, rest) →
      (render j).length + rest.length ≤ text.length)
    (h : readMember value text = some (member, rest)) :
    (renderMember member).length + rest.length ≤ text.length := by
  unfold readMember at h
  simp only [Option.bind_eq_bind, Option.bind_eq_some_iff, Prod.exists] at h
  obtain ⟨text₁, hquote, name, text₂, hname, text₃, hcolon, j, rest', hj, he⟩ := h
  obtain ⟨rfl, rfl⟩ := Prod.mk.inj (Option.some.inj he)
  have hquote := expect_length hquote
  have hname := readBytes_length hname
  have hcolon := expect_length hcolon
  have hj := hvalue hj
  simp only [renderMember, List.length_append, length_string, List.length_cons]
  omega

/-- A word is taken as it is written. -/
theorem readWord_length {word text rest : Bytes} {value j : Json}
    (h : readWord word value text = some (j, rest)) :
    j = value ∧ word.length + rest.length = text.length := by
  unfold readWord at h
  split at h
  · next hword =>
    obtain ⟨rfl, rfl⟩ := Prod.mk.inj (Option.some.inj h)
    refine ⟨rfl, ?_⟩
    have hlength := (List.isPrefixOf_iff_prefix.mp hword).length_le
    rw [List.length_drop]
    omega
  · cases h

/-- The text that a value was read from is no shorter than its own text. -/
theorem readValue_length {depth : Nat} {text rest : Bytes} {j : Json}
    (h : readValue depth text = some (j, rest)) :
    (render j).length + rest.length ≤ text.length := by
  induction depth generalizing text rest j with
  | zero => cases h
  | succ depth ih =>
    have hskip := List.length_dropWhile_le isSpace text
    rw [readValue] at h
    cases hdrop : text.dropWhile isSpace with
    | nil => rw [hdrop] at h; cases h
    | cons b text' =>
      rw [hdrop, List.length_cons] at hskip
      simp only [hdrop] at h
      split at h
      · obtain ⟨⟨s, rest'⟩, hs, he⟩ := Option.map_eq_some_iff.mp h
        obtain ⟨rfl, rfl⟩ := Prod.mk.inj he
        have hs := readBytes_length hs
        simp only [render, length_string]
        omega
      split at h
      · obtain ⟨⟨items, rest'⟩, hitems, he⟩ := Option.map_eq_some_iff.mp h
        obtain ⟨rfl, rfl⟩ := Prod.mk.inj he
        have hitems : (commas (items.map render)).length + 1 + rest'.length ≤ text'.length :=
          readList_length ih hitems
        simp only [render, renderItems_eq, List.length_cons, List.length_append, List.length_nil]
        omega
      split at h
      · obtain ⟨⟨members, rest'⟩, hmembers, he⟩ := Option.map_eq_some_iff.mp h
        obtain ⟨rfl, rfl⟩ := Prod.mk.inj he
        have hmembers :
            (commas (members.map renderMember)).length + 1 + rest'.length ≤ text'.length :=
          readList_length (readMember_length ih) hmembers
        simp only [render, renderMembers_eq, List.length_cons, List.length_append, List.length_nil]
        omega
      split at h
      · obtain ⟨rfl, hlength⟩ := readWord_length h
        simp only [render, List.length_cons, List.length_nil] at hlength ⊢
        omega
      split at h
      · obtain ⟨rfl, hlength⟩ := readWord_length h
        simp only [render, List.length_cons, List.length_nil] at hlength ⊢
        omega
      split at h
      · obtain ⟨rfl, hlength⟩ := readWord_length h
        simp only [render, List.length_cons, List.length_nil] at hlength ⊢
        omega
      · obtain ⟨⟨i, rest'⟩, hi, he⟩ := Option.map_eq_some_iff.mp h
        obtain ⟨rfl, rfl⟩ := Prod.mk.inj he
        exact Nat.le_trans (readInteger_length hi) hskip

/-- A text that is read as a value is not shorter than what the writer makes of it. -/
theorem length_le_of_parse {text : Bytes} {j : Json} (h : parse text = some j) :
    (render j).length ≤ text.length := by
  unfold parse at h
  split at h
  · next value rest hread =>
    split at h
    · obtain rfl := Option.some.inj h
      exact Nat.le_trans (Nat.le_add_right _ _) (readValue_length hread)
    · cases h
  · cases h

/-! ## Lines -/

/-- A text has no control bytes. -/
theorem mem_commas {texts : List Bytes} (h : ∀ text ∈ texts, ∀ b ∈ text, 32 ≤ b.toNat)
    {b : UInt8} (hb : b ∈ commas texts) : 32 ≤ b.toNat := by
  induction texts with
  | nil => cases hb
  | cons text texts ih =>
    have hrest := ih fun t ht => h t (List.mem_cons_of_mem _ ht)
    cases texts with
    | nil => exact h text List.mem_cons_self b hb
    | cons text' texts =>
      rw [commas_cons, List.mem_append, List.mem_cons] at hb
      rcases hb with hb | rfl | hb
      · exact h text List.mem_cons_self b hb
      · decide
      · exact hrest hb

/-- An integer has no control bytes. -/
theorem mem_integer {i : Int} {b : UInt8} (h : b ∈ integer i) : 32 ≤ b.toNat := by
  have hdigit {b : UInt8} (hb : isDigit b = true) : 32 ≤ b.toNat :=
    Nat.le_trans (by decide) (isDigit_iff.mp hb).1
  cases i with
  | ofNat n => exact hdigit (mem_natural h)
  | negSucc n =>
    rcases List.mem_cons.mp h with rfl | h
    · decide
    · exact hdigit (mem_natural h)

mutual

/-- A written value has no control bytes, so no line ends in it. -/
theorem mem_render : ∀ (j : Json) {b : UInt8}, b ∈ render j → 32 ≤ b.toNat
  | .null, b, h => by
    have hall : ∀ b ∈ render .null, 32 ≤ b.toNat := List.all_iff_forall_prop.mp (by decide)
    exact hall b h
  | .bool true, b, h => by
    have hall : ∀ b ∈ render (.bool true), 32 ≤ b.toNat := List.all_iff_forall_prop.mp (by decide)
    exact hall b h
  | .bool false, b, h => by
    have hall : ∀ b ∈ render (.bool false), 32 ≤ b.toNat := List.all_iff_forall_prop.mp (by decide)
    exact hall b h
  | .num _, _, h => mem_integer h
  | .str _, _, h => mem_string h
  | .arr items, b, h => by
    rcases List.mem_cons.mp h with rfl | h
    · decide
    rcases List.mem_append.mp h with h | h
    · exact mem_commas (mem_renderItems items) h
    · rw [List.mem_singleton.mp h]
      decide
  | .obj members, b, h => by
    rcases List.mem_cons.mp h with rfl | h
    · decide
    rcases List.mem_append.mp h with h | h
    · exact mem_commas (mem_renderMembers members) h
    · rw [List.mem_singleton.mp h]
      decide

/-- Nor have the items of an array. -/
theorem mem_renderItems : ∀ (items : List Json), ∀ text ∈ renderItems items, ∀ b ∈ text,
    32 ≤ b.toNat
  | [], _, h => absurd h List.not_mem_nil
  | item :: items, text, h => by
    intro b hb
    rcases List.mem_cons.mp h with rfl | h
    · exact mem_render item hb
    · exact mem_renderItems items text h b hb

/-- Nor have the members of an object. -/
theorem mem_renderMembers : ∀ (members : List (Bytes × Json)), ∀ text ∈ renderMembers members,
    ∀ b ∈ text, 32 ≤ b.toNat
  | [], _, h => absurd h List.not_mem_nil
  | (name, value) :: members, text, h => by
    intro b hb
    rcases List.mem_cons.mp h with rfl | h
    · rcases List.mem_append.mp hb with hb | hb
      · exact mem_string hb
      rcases List.mem_cons.mp hb with rfl | hb
      · decide
      · exact mem_render value hb
    · exact mem_renderMembers members text h b hb

end

/-- The lines of a text and what stands behind the last of them. -/
def splitLines : Bytes → List Bytes × Bytes
  | [] => ([], [])
  | b :: text =>
    if b = 10 then ([] :: (splitLines text).1, (splitLines text).2)
    else
      match (splitLines text).1 with
      | [] => ([], b :: (splitLines text).2)
      | line :: lines => ((b :: line) :: lines, (splitLines text).2)

/-- The values of a text of lines, each with its end. -/
def readLines (text : Bytes) : Option (List Json) :=
  if (splitLines text).2 = [] then (splitLines text).1.mapM parse else none

/-- The first line ends at the first end of a line. -/
theorem splitLines_append {line : Bytes} (h : 10 ∉ line) (text : Bytes) :
    splitLines (line ++ 10 :: text) = (line :: (splitLines text).1, (splitLines text).2) := by
  induction line with
  | nil => rfl
  | cons b line ih =>
    have hb : b ≠ 10 := fun he => h (he ▸ List.mem_cons_self)
    rw [List.cons_append, splitLines, if_neg hb, ih fun hmem => h (List.mem_cons_of_mem _ hmem)]

/-- The lines, each with its end, and the rest are the text. -/
theorem splitLines_length (text : Bytes) :
    ((splitLines text).1.map fun line => line.length + 1).sum + (splitLines text).2.length =
      text.length := by
  induction text with
  | nil => rfl
  | cons b text ih =>
    rw [splitLines, List.length_cons, ← ih]
    split
    · simp only [List.map_cons, List.sum_cons, List.length_nil]
      omega
    · split
      · next hnil =>
        rw [hnil, List.length_cons]
        rfl
      · next line lines hlines =>
        simp only [hlines, List.map_cons, List.sum_cons, List.length_cons]
        omega

/-- Written values are read back one by one. -/
theorem mapM_parse_render (values : List Json) : (values.map render).mapM parse = some values := by
  induction values with
  | nil => rfl
  | cons j values ih =>
    rw [List.map_cons, List.mapM_cons, parse_render, ih]
    rfl

/-- Texts that are read as values are together not shorter than what the writer makes of them. -/
theorem sum_le_of_mapM_parse {texts : List Bytes} {values : List Json}
    (h : texts.mapM parse = some values) :
    (values.map fun j => (render j).length + 1).sum ≤
      (texts.map fun text => text.length + 1).sum := by
  induction texts generalizing values with
  | nil =>
    obtain rfl := Option.some.inj h
    exact Nat.le_refl _
  | cons text texts ih =>
    simp only [List.mapM_cons, Option.bind_eq_bind, Option.bind_eq_some_iff] at h
    obtain ⟨j, hj, js, hjs, he⟩ := h
    obtain rfl := Option.some.inj he
    simp only [List.map_cons, List.sum_cons]
    exact Nat.add_le_add (Nat.succ_le_succ (length_le_of_parse hj)) (ih hjs)

/-- A file is no shorter than the lines of the values that it holds. -/
theorem readLines_length {text : Bytes} {values : List Json} (h : readLines text = some values) :
    (values.map fun j => (render j).length + 1).sum ≤ text.length := by
  unfold readLines at h
  split at h
  · rw [← splitLines_length text]
    exact Nat.le_trans (sum_le_of_mapM_parse h) (Nat.le_add_right _ _)
  · cases h

section Files

variable {α : Type} {line : α → Bytes} {value : α → Json}

/-- A file of lines reads back as the values that its lines write. -/
theorem readLines_flatMap {as : List α} (h : ∀ a ∈ as, line a = render (value a)) :
    readLines (as.flatMap fun a => line a ++ [10]) = some (as.map value) := by
  have hsplit : splitLines (as.flatMap fun a => line a ++ [10]) =
      ((as.map value).map render, []) := by
    induction as with
    | nil => rfl
    | cons a as ih =>
      have hclean : (10 : UInt8) ∉ line a := by
        intro hmem
        rw [h a List.mem_cons_self] at hmem
        exact absurd (mem_render _ hmem) (by decide)
      rw [List.flatMap_cons, List.append_assoc, List.singleton_append, splitLines_append hclean,
        ih fun b hb => h b (List.mem_cons_of_mem _ hb), h a List.mem_cons_self]
      rfl
  rw [readLines, hsplit, if_pos rfl]
  exact mapM_parse_render _

/-- A file whose lines are no longer than those of the writer reads back as the values exactly
when it has the lines of the writer. -/
theorem readLines_iff {as : List α}
    (hshort : ∀ a ∈ as, (line a).length ≤ (render (value a)).length)
    (hexact : ∀ a ∈ as, (line a).length = (render (value a)).length → line a = render (value a)) :
    readLines (as.flatMap fun a => line a ++ [10]) = some (as.map value) ↔
      ∀ a ∈ as, line a = render (value a) := by
  refine ⟨fun h => ?_, readLines_flatMap⟩
  have hlength := readLines_length h
  simp only [List.map_map, Function.comp_def, List.length_flatMap, List.length_append,
    List.length_singleton] at hlength
  clear h
  induction as with
  | nil => exact fun a ha => absurd ha List.not_mem_nil
  | cons a as ih =>
    have hshort' := fun b hb => hshort b (List.mem_cons_of_mem a hb)
    have hsum : (as.map fun b => (line b).length + 1).sum ≤
        (as.map fun b => (render (value b)).length + 1).sum :=
      List.sum_le_sum fun b hb => Nat.succ_le_succ (hshort' b hb)
    have ha := hshort a List.mem_cons_self
    simp only [List.map_cons, List.sum_cons] at hlength
    have hrest := ih hshort' (fun b hb => hexact b (List.mem_cons_of_mem a hb)) (by omega)
    intro b hb
    rcases List.mem_cons.mp hb with rfl | hb
    · exact hexact b List.mem_cons_self (by omega)
    · exact hrest b hb

end Files

end Json

end GrpcLite
