import GrpcLite.Exchange.Metadata

/-!
# Request headers

The header list that both drivers hand to `nghttp2_submit_request`: the
pseudo-headers, the fields of the library, the timeout, the user agent and the
user's metadata, in an array that grows up to a fixed capacity.
-/

namespace GrpcLite

/-- One `nghttp2_nv`. -/
structure Header where
  /-- Field name. -/
  name : Bytes
  /-- Field value. -/
  value : Bytes
  deriving DecidableEq, Repr

/-- `h2_request_headers`. -/
structure H2RequestHeaders where
  /-- The fields. -/
  nva : List Header := []
  /-- Room in the arrays. -/
  capacity : Nat := 16
  /-- Names kept alive. -/
  nameCount : Nat := 0
  /-- Values kept alive. -/
  valueCount : Nat := 0
  /-- Metadata values so far. -/
  customValueCount : Nat := 0
  deriving DecidableEq, Repr

/-- A decimal number, as `printf` writes it. -/
def decimal (n : Nat) : Bytes := ascii (Nat.toDigits 10 n)

/-- `%d`, `%ld` and `%zd`. -/
def signedDecimal : Int → Bytes
  | .ofNat n => decimal n
  | .negSucc n => 45 :: decimal (n + 1)

/-- `grpc_lite_ceil_div_timeout`. -/
def ceilDivTimeout (value unit : Nat) : Nat := value / unit + if value % unit ≠ 0 then 1 else 0

/-- `grpc_lite_format_timeout_us`: empty for a timeout that is not positive. -/
def formatTimeoutUs (timeoutUs : Int) : Bytes :=
  let timeout := timeoutUs.toNat
  if timeoutUs ≤ 0 then []
  else if timeout ≤ 99999999 then decimal timeout ++ [117]
  else if ceilDivTimeout timeout 1000 ≤ 99999999 then
    decimal (ceilDivTimeout timeout 1000) ++ [109]
  else if ceilDivTimeout timeout 1000000 ≤ 99999999 then
    decimal (ceilDivTimeout timeout 1000000) ++ [83]
  else if ceilDivTimeout timeout 60000000 ≤ 99999999 then
    decimal (ceilDivTimeout timeout 60000000) ++ [77]
  else decimal (min (ceilDivTimeout timeout 3600000000) 99999999) ++ [72]

/-- `grpc_lite_format_timeout_us` into a buffer of a given size, which has to hold the
terminating byte of `snprintf` too. -/
def formatTimeoutUsInto (bufferLen : Nat) (timeoutUs : Int) : Bytes :=
  if (formatTimeoutUs timeoutUs).length ≥ bufferLen then [] else formatTimeoutUs timeoutUs

/-- The exceptions of `append_custom_request_headers`. -/
inductive MetadataError
  /-- `gRPC request metadata value must be a string`. -/
  | notString
  /-- `gRPC request metadata exceeds maximum count`. -/
  | tooMany
  /-- `invalid gRPC request metadata value`. -/
  | invalidValue
  /-- `forbidden gRPC request metadata key`. -/
  | forbiddenKey
  deriving DecidableEq, Repr

/-- A value of the metadata array; an element of an inner array is none when it is not a
string. -/
inductive MetadataValue
  /-- A string. -/
  | string (value : Bytes)
  /-- An array of values. -/
  | array (values : List (Option Bytes))
  /-- Anything else. -/
  | other
  deriving DecidableEq, Repr

/-- The values that an entry stands for. -/
def MetadataValue.values : MetadataValue → List (Option Bytes)
  | .string value => [some value]
  | .array values => values
  | .other => [none]

/-- The metadata array: its keys, none for an integer key, with their values. -/
abbrev MetadataArray := List (Option Bytes × MetadataValue)

namespace H2RequestHeaders

/-- `GRPC_LITE_MAX_REQUEST_METADATA_VALUES`. -/
def maxRequestMetadataValues : Nat := 256

/-- `GRPC_LITE_REQUEST_FIXED_HEADER_COUNT`. -/
def requestFixedHeaderCount : Nat := 8

/-- `grow_request_headers`. -/
def growRequestHeaders (headers : H2RequestHeaders) : H2RequestHeaders :=
  { headers with
    capacity := max headers.capacity
      (min (headers.capacity * 2) (maxRequestMetadataValues + requestFixedHeaderCount)) }

/-- `append_request_header_unchecked`. -/
def appendRequestHeaderUnchecked (headers : H2RequestHeaders) (name value : Bytes) :
    H2RequestHeaders :=
  { headers with nva := headers.nva ++ [⟨name, value⟩] }

/-- `append_request_header`: without room the field is dropped. -/
def appendRequestHeader (headers : H2RequestHeaders) (name value : Bytes) : H2RequestHeaders :=
  if headers.nva.length ≥ headers.capacity then
    if headers.growRequestHeaders.nva.length ≥ headers.growRequestHeaders.capacity then
      headers.growRequestHeaders
    else headers.growRequestHeaders.appendRequestHeaderUnchecked name value
  else headers.appendRequestHeaderUnchecked name value

/-- `append_grpc_timeout_request_header`. -/
def appendGrpcTimeoutRequestHeader (headers : H2RequestHeaders) (timeoutUs : Int) :
    H2RequestHeaders :=
  if (formatTimeoutUs timeoutUs).length = 0 then headers
  else if headers.valueCount < headers.capacity then
    { headers with valueCount := headers.valueCount + 1 }.appendRequestHeader
      (ascii "grpc-timeout".toList) (formatTimeoutUs timeoutUs)
  else headers

/-- `PHP_GRPC_LITE_USER_AGENT`. -/
def libraryUserAgent : Bytes := ascii "php-grpc-lite/0.0.15".toList

/-- The user agent of a channel: the library's own without a non-empty option. -/
def userAgentValue : Option Bytes → Bytes
  | some value => if value.length > 0 then value else libraryUserAgent
  | none => libraryUserAgent

/-- `append_user_agent_request_header`. -/
def appendUserAgentRequestHeader (headers : H2RequestHeaders) (primaryUserAgent : Option Bytes) :
    H2RequestHeaders :=
  headers.appendRequestHeader Metadata.userAgent (userAgentValue primaryUserAgent)

/-- No room is left in one of the arrays. -/
def full (headers : H2RequestHeaders) : Bool :=
  decide (headers.nva.length ≥ headers.capacity) || decide (headers.nameCount ≥ headers.capacity) ||
    decide (headers.valueCount ≥ headers.capacity)

/-- The growth in front of a metadata value. -/
def makeRoom (headers : H2RequestHeaders) : H2RequestHeaders :=
  if headers.full then headers.growRequestHeaders else headers

/-- `append_custom_request_header_value`. -/
def appendCustomRequestHeaderValue (headers : H2RequestHeaders) (key : Bytes) :
    Option Bytes → Except MetadataError H2RequestHeaders
  | none => .error .notString
  | some value =>
    if headers.customValueCount ≥ maxRequestMetadataValues then .error .tooMany
    else if headers.makeRoom.full then .error .tooMany
    else if Metadata.isInvalidWireValue key (Metadata.wireValue key value) then
      .error .invalidValue
    else
      .ok { headers.makeRoom.appendRequestHeaderUnchecked key (Metadata.wireValue key value) with
        nameCount := headers.nameCount + 1
        valueCount := headers.valueCount + 1
        customValueCount := headers.customValueCount + 1 }

/-- The loop over the values of one key. -/
def appendCustomRequestHeaderValues (headers : H2RequestHeaders) (key : Bytes) :
    List (Option Bytes) → Except MetadataError H2RequestHeaders
  | [] => .ok headers
  | value :: values => do
    let headers ← headers.appendCustomRequestHeaderValue key value
    headers.appendCustomRequestHeaderValues key values

/-- `append_custom_request_headers`: a user agent in the metadata is skipped. -/
def appendCustomRequestHeaders (headers : H2RequestHeaders) :
    MetadataArray → Except MetadataError H2RequestHeaders
  | [] => .ok headers
  | (key, value) :: rest =>
    if Metadata.isUserAgentCustomRequestHeader key then headers.appendCustomRequestHeaders rest
    else if Metadata.isForbiddenCustomRequestHeader key then .error .forbiddenKey
    else do
      let headers ← headers.appendCustomRequestHeaderValues (key.getD []) value.values
      headers.appendCustomRequestHeaders rest

/-- The header list of a request, as both drivers build it. -/
def build (tls : Bool) (authority path : Bytes) (remainingTimeoutUs : Int)
    (primaryUserAgent : Option Bytes) (metadata : MetadataArray) :
    Except MetadataError H2RequestHeaders :=
  let headers : H2RequestHeaders := {}
  let headers := headers.appendRequestHeader (ascii ":method".toList) (ascii "POST".toList)
  let headers := headers.appendRequestHeader (ascii ":scheme".toList)
    (if tls then ascii "https".toList else ascii "http".toList)
  let headers := headers.appendRequestHeader (ascii ":authority".toList) authority
  let headers := headers.appendRequestHeader (ascii ":path".toList) path
  let headers := headers.appendRequestHeader (ascii "content-type".toList)
    (ascii "application/grpc".toList)
  let headers := headers.appendRequestHeader (ascii "te".toList) (ascii "trailers".toList)
  let headers := headers.appendGrpcTimeoutRequestHeader remainingTimeoutUs
  let headers := headers.appendUserAgentRequestHeader primaryUserAgent
  headers.appendCustomRequestHeaders metadata

end H2RequestHeaders

end GrpcLite
