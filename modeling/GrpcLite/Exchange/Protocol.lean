import GrpcLite.Exchange.Call

/-!
# Header field values

The pure helpers that read the values of response header fields: the status
number, the content type, the message encoding, the HTTP status and the
percent-encoded status message.
-/

namespace GrpcLite.Protocol

/-- A decimal ASCII digit. -/
def isDigit (b : UInt8) : Bool := decide (48 ≤ b.toNat ∧ b.toNat ≤ 57)

/-- The digits read most significant first; none when a byte is not a digit. -/
def parseDigits : Nat → Bytes → Option Nat
  | acc, [] => some acc
  | acc, b :: bs => if isDigit b then parseDigits (acc * 10 + (b.toNat - 48)) bs else none

/-- `grpc_protocol_parse_status_value`: one or two digits without a leading zero, at most 16. -/
def parseStatusValue (value : Bytes) : Int :=
  if value.length = 0 ∨ value.length > 2 ∨ (value.length > 1 ∧ value.head? = some 48) then -1
  else
    match parseDigits 0 value with
    | some status => if status ≤ 16 then status else -1
    | none => -1

/-- Lower case of an ASCII letter; other bytes are unchanged. -/
def lowerByte (b : UInt8) : UInt8 := if 65 ≤ b.toNat ∧ b.toNat ≤ 90 then b + 32 else b

/-- `strncasecmp(value, prefix, n) == 0` for a value with at least `n` bytes. -/
def hasPrefixCaseless (value stem : Bytes) : Bool :=
  (value.take stem.length).map lowerByte == stem

/-- The media type of every gRPC content type. -/
def applicationGrpc : Bytes :=
  ascii ['a', 'p', 'p', 'l', 'i', 'c', 'a', 't', 'i', 'o', 'n', '/', 'g', 'r', 'p', 'c']

/-- `grpc_protocol_is_valid_content_type`. -/
def isValidContentType (value : Bytes) : Bool :=
  if value.length < applicationGrpc.length || !hasPrefixCaseless value applicationGrpc then false
  else
    match value.drop applicationGrpc.length with
    | [] => true
    | b :: rest => (b == 43 && !rest.isEmpty) || b == 59

/-- The encoding that leaves messages as they are. -/
def identity : Bytes := ascii ['i', 'd', 'e', 'n', 't', 'i', 't', 'y']

/-- `grpc_protocol_is_identity_encoding`. -/
def isIdentityEncoding (value : Bytes) : Bool :=
  value.length == identity.length && hasPrefixCaseless value identity

/-- `grpc_lite_hex_value`, with none for its minus one. -/
def hexValue (b : UInt8) : Option Nat :=
  if 48 ≤ b.toNat ∧ b.toNat ≤ 57 then some (b.toNat - 48)
  else if 65 ≤ b.toNat ∧ b.toNat ≤ 70 then some (b.toNat - 65 + 10)
  else if 97 ≤ b.toNat ∧ b.toNat ≤ 102 then some (b.toNat - 97 + 10)
  else none

/-- The byte written by two hexadecimal digits. -/
def hexByte (high low : UInt8) : Option UInt8 := do
  let h ← hexValue high
  let l ← hexValue low
  return UInt8.ofNat (h * 16 + l)

/-- `grpc_protocol_decode_message`: a percent sign with two digits behind it is one byte. -/
def decodeMessage : Bytes → Bytes
  | 37 :: high :: low :: rest =>
    match hexByte high low with
    | some b => b :: decodeMessage rest
    | none => 37 :: decodeMessage (high :: low :: rest)
  | b :: rest => b :: decodeMessage rest
  | [] => []

/-- White space that `atoi` skips. -/
def isSpace (b : UInt8) : Bool := b == 32 || decide (9 ≤ b.toNat ∧ b.toNat ≤ 13)

/-- The leading digits of a string as a number. -/
def leadingDigits : Nat → Bytes → Nat
  | acc, [] => acc
  | acc, b :: bs => if isDigit b then leadingDigits (acc * 10 + (b.toNat - 48)) bs else acc

/-- The conversion of a `long` to an `int`. -/
def toInt32 (n : Int) : Int := n.bmod (2 ^ 32)

/-- `atoi` of a NUL-terminated buffer that holds at most fifteen bytes. -/
def atoi (value : Bytes) : Int :=
  match value.dropWhile isSpace with
  | 45 :: rest => toInt32 (-(leadingDigits 0 rest))
  | 43 :: rest => toInt32 (leadingDigits 0 rest)
  | rest => toInt32 (leadingDigits 0 rest)

/-- The HTTP status of a `:status` value, of which fifteen bytes are copied. -/
def httpStatusValue (value : Bytes) : Int := atoi (value.take 15)

end GrpcLite.Protocol
