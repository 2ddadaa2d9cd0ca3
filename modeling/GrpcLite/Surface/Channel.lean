import GrpcLite.Exchange.RequestHeaders

/-!
# Channels and calls

The constructors of the two user-facing objects: the target is split into host and
port, the options are read by type, and the inputs that end up in the TLS setup and
in the request headers are validated.
-/

namespace GrpcLite

/-- A value of the options array, as far as its type matters. -/
inductive Zval
  /-- A string. -/
  | string (value : Bytes)
  /-- An integer. -/
  | long (value : Int)
  /-- Anything else. -/
  | other
  deriving DecidableEq, Repr

/-- The string of an option, if it is one. -/
def Zval.asString : Zval → Option Bytes
  | .string value => some value
  | _ => none

/-- `grpc_lite_credentials_type`. -/
inductive CredentialsType
  /-- No TLS. -/
  | insecure
  /-- TLS with given certificates. -/
  | ssl
  /-- TLS with the defaults. -/
  | default
  deriving DecidableEq, Repr

/-- The number of a credentials type. -/
def CredentialsType.code : CredentialsType → Nat
  | .insecure => 0
  | .ssl => 1
  | .default => 2

/-- `grpc_lite_channel_credentials_obj`. -/
structure ChannelCredentials where
  /-- Kind of credentials. -/
  type : CredentialsType
  /-- Root certificates. -/
  rootCerts : Option Bytes := none
  /-- Private key. -/
  privateKey : Option Bytes := none
  /-- Certificate chain. -/
  certChain : Option Bytes := none
  deriving DecidableEq, Repr

/-- The options that `Channel::__construct` reads; none for a missing option. -/
structure ChannelOptions where
  /-- `credentials`, if it is a `ChannelCredentials` object. -/
  credentials : Option ChannelCredentials := none
  /-- `grpc.default_authority`. -/
  defaultAuthority : Option Zval := none
  /-- `grpc.ssl_target_name_override`. -/
  sslTargetNameOverride : Option Zval := none
  /-- `grpc.primary_user_agent`. -/
  primaryUserAgent : Option Zval := none
  /-- `grpc.max_receive_message_length`. -/
  maxReceiveMessageLength : Option Zval := none
  /-- `grpc.max_metadata_size`. -/
  maxMetadataSize : Option Zval := none
  /-- `grpc.absolute_max_metadata_size`. -/
  absoluteMaxMetadataSize : Option Zval := none
  deriving DecidableEq, Repr

/-- `grpc_lite_channel_obj`, without its metadata limit. -/
structure Channel where
  /-- The target as given. -/
  target : Bytes
  /-- Host of the target. -/
  host : Bytes
  /-- Port of the target. -/
  port : Nat
  /-- Authority option. -/
  authority : Option Bytes
  /-- TLS verify name option. -/
  tlsVerifyName : Option Bytes
  /-- User agent option. -/
  primaryUserAgent : Option Bytes
  /-- Receive limit option. -/
  maxReceiveMessageLength : Int
  /-- Credentials. -/
  credentials : ChannelCredentials
  deriving DecidableEq, Repr

/-- The exceptions of the two constructors. -/
inductive ConstructError
  /-- `Channel options must include a ChannelCredentials instance`. -/
  | credentials
  /-- `invalid gRPC target port`. -/
  | port
  /-- `grpc.max_receive_message_length must be -1 or non-negative`. -/
  | maxReceiveMessageLength
  /-- `grpc.max_metadata_size must be non-negative`. -/
  | maxMetadataSize
  /-- `grpc.absolute_max_metadata_size must be non-negative`. -/
  | absoluteMaxMetadataSize
  /-- `grpc.absolute_max_metadata_size must be greater than or equal to
  grpc.max_metadata_size`. -/
  | metadataSizes
  /-- `invalid grpc_lite connection key`. -/
  | key
  /-- `invalid gRPC target host`. -/
  | host
  /-- `invalid gRPC authority`. -/
  | authority
  /-- `gRPC authority is too long`. -/
  | authorityTooLong
  /-- `invalid TLS verify name`. -/
  | tlsVerifyName
  /-- `invalid gRPC method path`. -/
  | path
  deriving DecidableEq, Repr

namespace Surface

/-! ## Validation -/

/-- `contains_nul_or_control`. -/
def containsNulOrControl (value : Bytes) : Bool :=
  value.any fun ch => ch == 0 || decide (ch < 0x20) || ch == 0x7f

/-- `contains_authority_forbidden_char`. -/
def containsAuthorityForbiddenChar (value : Bytes) : Bool :=
  value.any fun ch => ch == 64 || ch == 47 || ch == 92 || decide (ch ≤ 0x20) || ch == 0x7f

/-- `validate_grpc_path`: none for a valid path. -/
def validateGrpcPath (path : Bytes) : Option ConstructError :=
  if path.length < 3 ∨ path.head? ≠ some 47 then some .path
  else if path.any fun ch => decide (ch ≤ 0x20) || ch == 0x7f then some .path
  else if path.tail.contains 47 then none
  else some .path

/-- `GRPC_LITE_AUTHORITY_BUFFER_SIZE`. -/
def authorityBufferSize : Nat := 512

/-- `validate_channel_inputs`: none for valid inputs. -/
def validateChannelInputs (key host : Bytes) (port : Int) (authority tlsVerifyName : Bytes) :
    Option ConstructError :=
  if key.length = 0 ∨ key.length > 512 ∨ containsNulOrControl key then some .key
  else if host.length = 0 ∨ containsNulOrControl host then some .host
  else if port ≤ 0 ∨ port > 65535 then some .port
  else if authority.length > 0 ∧
      (authority.length ≥ authorityBufferSize ∨ containsAuthorityForbiddenChar authority) then
    some .authority
  else if authority.length = 0 ∧
      host.length + 1 + (decimal port.toNat).length ≥ authorityBufferSize then
    some .authorityTooLong
  else if tlsVerifyName.length > 0 ∧ containsAuthorityForbiddenChar tlsVerifyName then
    some .tlsVerifyName
  else none

/-! ## The target -/

/-- The loop of `parse_target_port`. -/
def parsePortDigits : Nat → Bytes → Option Nat
  | parsed, [] => some parsed
  | parsed, ch :: rest =>
    if Protocol.isDigit ch = false then none
    else if parsed * 10 + (ch.toNat - 48) > 65535 then none
    else parsePortDigits (parsed * 10 + (ch.toNat - 48)) rest

/-- `parse_target_port`. -/
def parseTargetPort (value : Bytes) : Option Nat :=
  if value.length = 0 then none
  else (parsePortDigits 0 value).filter fun parsed => parsed > 0

/-- The text before the last colon and the text behind it. -/
def splitLastColon (value : Bytes) : Option (Bytes × Bytes) :=
  if 58 ∈ value then
    let behind := (value.reverse.takeWhile (· ≠ 58)).reverse
    some (value.take (value.length - behind.length - 1), behind)
  else none

/-- `split_target_to_host_port`: no colon inside the target means the default port. -/
def splitTargetToHostPort (target : Bytes) : Option (Bytes × Nat) :=
  match splitLastColon target with
  | none => some (target, 443)
  | some (host, port) =>
    if host.length = 0 ∨ port.length = 0 then some (target, 443)
    else (parseTargetPort port).map fun parsed => (host, parsed)

/-! ## Constructors -/

/-- An option that has to be an integer from a bound on: none when it is missing. -/
def readLimit (value : Option Zval) (least : Int) (error : ConstructError) :
    Except ConstructError (Option Int) :=
  match value with
  | none => .ok none
  | some (.long n) => if n < least then .error error else .ok (some n)
  | some _ => .error error

/-- `Channel::__construct`. -/
def construct (target : Bytes) (options : ChannelOptions) : Except ConstructError Channel := do
  let credentials ← match options.credentials with
    | some credentials => .ok credentials
    | none => .error .credentials
  let (host, port) ← match splitTargetToHostPort target with
    | some split => .ok split
    | none => .error .port
  let authority := options.defaultAuthority.bind Zval.asString
  let tlsVerifyName := options.sslTargetNameOverride.bind Zval.asString
  let primaryUserAgent := options.primaryUserAgent.bind Zval.asString
  let maxReceive ← readLimit options.maxReceiveMessageLength (-1) .maxReceiveMessageLength
  let maxMetadata ← readLimit options.maxMetadataSize 0 .maxMetadataSize
  let absoluteMax ← readLimit options.absoluteMaxMetadataSize 0 .absoluteMaxMetadataSize
  if (maxMetadata.getD (-1)) ≥ 0 ∧ (absoluteMax.getD (-1)) ≥ 0 ∧
      absoluteMax.getD (-1) < maxMetadata.getD (-1) then
    .error .metadataSizes
  else
    match validateChannelInputs target host port (authority.getD []) (tlsVerifyName.getD []) with
    | some error => .error error
    | none =>
      .ok
        { target := target, host := host, port := port, authority := authority
          tlsVerifyName := tlsVerifyName, primaryUserAgent := primaryUserAgent
          maxReceiveMessageLength := maxReceive.getD 0, credentials := credentials }

/-- `Call::__construct`: the method path of the call. -/
def constructCall (method : Bytes) : Except ConstructError Bytes :=
  match validateGrpcPath method with
  | some error => .error error
  | none => .ok method

/-- A NUL-terminated string. -/
def cString (bytes : Bytes) : Bytes := bytes.takeWhile (· ≠ 0)

/-- `build_authority` into the buffer of a connection. -/
def buildAuthority (host : Bytes) (port : Nat) (authority : Option Bytes) : Bytes :=
  match authority with
  | some value =>
    if value.length > 0 then cString (value.take (authorityBufferSize - 1))
    else cString ((cString host ++ [58] ++ decimal port).take (authorityBufferSize - 1))
  | none => cString ((cString host ++ [58] ++ decimal port).take (authorityBufferSize - 1))

end Surface

/-- The authority of the connections of a channel. -/
def Channel.connectionAuthority (channel : Channel) : Bytes :=
  Surface.buildAuthority channel.host channel.port channel.authority

end GrpcLite
