import GrpcLite.Surface.Channel

/-!
# Connection keys

The key under which a channel finds its persistent connection: a hash of a
canonical text of everything the connection depends on. The hash is a parameter;
the text follows PHP's formatter, which cuts a string printed with a precision
after 500 bytes.
-/

namespace GrpcLite.Surface

/-- `FORMAT_CONV_MAX_PRECISION`. -/
def formatConvMaxPrecision : Nat := 500

/-- The bytes that `%.*s` prints of a string, its length being the precision: the length is
converted to an `int`, a negative precision means none, and a large one is cut. -/
def printString (value : Bytes) : Bytes :=
  let precision := Protocol.toInt32 value.length
  if precision < 0 then cString value
  else (cString value).take (min precision.toNat formatConvMaxPrecision)

/-- `chars[]`: a hexadecimal digit. -/
def hexDigit (n : Nat) : UInt8 := if n < 10 then UInt8.ofNat (48 + n) else UInt8.ofNat (87 + n)

/-- The hexadecimal text of a digest. -/
def hex (digest : Bytes) : Bytes :=
  digest.flatMap fun b => [hexDigit (b.toNat / 16), hexDigit (b.toNat % 16)]

/-- A string with its length in front. -/
def lengthPrefixed (value text : Bytes) : Bytes := decimal value.length ++ [58] ++ text

variable (sha256 : Bytes → Bytes)

/-- `grpc_lite_sha256_hex`. -/
def sha256Hex (value : Bytes) : Bytes :=
  if value.length = 0 then [48] else hex (sha256 value)

/-- The canonical text of a channel, with a missing string as an empty one. -/
def canonical (channel : Channel) : Bytes :=
  let authority := channel.authority.getD []
  let tlsVerifyName := channel.tlsVerifyName.getD []
  let rootCerts := channel.credentials.rootCerts.getD []
  let certChain := channel.credentials.certChain.getD []
  let privateKey := channel.credentials.privateKey.getD []
  lengthPrefixed channel.host (printString channel.host) ++ [124] ++
    decimal channel.port ++ [124] ++
    lengthPrefixed authority (printString authority) ++ [124] ++
    lengthPrefixed tlsVerifyName (printString tlsVerifyName) ++ [124] ++
    decimal channel.credentials.type.code ++ [124] ++
    lengthPrefixed rootCerts (sha256Hex sha256 rootCerts) ++ [124] ++
    lengthPrefixed certChain (sha256Hex sha256 certChain) ++ [124] ++
    lengthPrefixed privateKey (sha256Hex sha256 privateKey)

/-- `grpc_lite_build_channel_key`. -/
def buildChannelKey (channel : Channel) : Bytes :=
  ascii "sha256:".toList ++ hex (sha256 (canonical sha256 channel))

end GrpcLite.Surface
