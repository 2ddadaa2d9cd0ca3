import GrpcLite.Core.Base64
import GrpcLite.Exchange.Response

/-!
# Metadata

The checks and the encoding of the metadata that the user sends, and the map that
the user reads from the stored response fields. Values of `-bin` keys travel as
base64 without padding, several of them possibly joined by commas.
-/

namespace GrpcLite

namespace Metadata

/-- `is_valid_custom_request_header_name_char`. -/
def isValidCustomRequestHeaderNameChar (ch : UInt8) : Bool :=
  (decide (97 ≤ ch) && decide (ch ≤ 122)) || (decide (48 ≤ ch) && decide (ch ≤ 57)) ||
    ch == 95 || ch == 46 || ch == 45

/-- `reserved_headers`. -/
def reservedHeaders : List Bytes :=
  [ascii "content-type".toList, ascii "te".toList, ascii "grpc-accept-encoding".toList,
    ascii "grpc-encoding".toList, ascii "grpc-message".toList, ascii "grpc-status".toList,
    ascii "grpc-status-details-bin".toList, ascii "host".toList, ascii "connection".toList,
    ascii "keep-alive".toList, ascii "proxy-connection".toList, ascii "transfer-encoding".toList,
    ascii "upgrade".toList]

/-- The start of the names that the protocol keeps for itself. -/
def grpcDash : Bytes := ascii "grpc-".toList

/-- `is_reserved_custom_request_header`. -/
def isReservedCustomRequestHeader (name : Bytes) : Bool :=
  reservedHeaders.contains name ||
    (decide (name.length > grpcDash.length) && name.take grpcDash.length == grpcDash)

/-- `is_forbidden_custom_request_header`; an integer key of the array has no name. -/
def isForbiddenCustomRequestHeader : Option Bytes → Bool
  | none => true
  | some name =>
    name.isEmpty || name.head? == some 58 ||
      !name.all isValidCustomRequestHeaderNameChar || isReservedCustomRequestHeader name

/-- The name of the library's own user agent. -/
def userAgent : Bytes := ascii "user-agent".toList

/-- `is_user_agent_custom_request_header`. -/
def isUserAgentCustomRequestHeader (key : Option Bytes) : Bool := key == some userAgent

/-- The end of the names of binary fields. -/
def dashBin : Bytes := ascii "-bin".toList

/-- `is_binary_metadata_header`. -/
def isBinaryMetadataHeader (key : Bytes) : Bool :=
  decide (key.length ≥ dashBin.length) && key.drop (key.length - dashBin.length) == dashBin

/-- `is_invalid_binary_request_header_value`. -/
def isInvalidBinaryRequestHeaderValue (value : Bytes) : Bool :=
  value.any fun ch => !(Base64.isDigit ch || ch == 61)

/-- `is_invalid_ascii_request_header_value`. -/
def isInvalidAsciiRequestHeaderValue (value : Bytes) : Bool :=
  value.any fun ch => decide (ch < 0x20) || ch == 0x7f || decide (ch ≥ 0x80)

/-- The wire form of a value: base64 without padding under a binary key. -/
def wireValue (key value : Bytes) : Bytes :=
  if isBinaryMetadataHeader key then Base64.trimPadding (Base64.encode value) else value

/-- The check of a wire value, which depends on the key. -/
def isInvalidWireValue (key value : Bytes) : Bool :=
  if isBinaryMetadataHeader key then isInvalidBinaryRequestHeaderValue value
  else isInvalidAsciiRequestHeaderValue value

/-! ## The response map -/

/-- An ordered map from keys to the list of their values. -/
abbrev Map := List (Bytes × List Bytes)

/-- The values of a key. -/
def Map.find (map : Map) (key : Bytes) : Option (List Bytes) := List.lookup key map

/-- `add_metadata_value_to_map`. -/
def addMetadataValueToMap (map : Map) (key value : Bytes) : Map :=
  match map.find key with
  | none => map ++ [(key, [value])]
  | some _ =>
    map.map fun entry => if entry.1 = key then (entry.1, entry.2 ++ [value]) else entry

/-- The pieces of a field between its commas, behind the start of the current piece. -/
def splitCommas : Bytes → Bytes → List Bytes
  | piece, [] => [piece]
  | piece, b :: rest =>
    if b = 44 then piece :: splitCommas [] rest else splitCommas (piece ++ [b]) rest

/-- `add_binary_metadata_values_to_map`; the lenient decoder always has a result. -/
def addBinaryMetadataValuesToMap (map : Map) (key field : Bytes) : Map :=
  (splitCommas [] field).foldl
    (fun map piece => addMetadataValueToMap map key (Base64.decode piece)) map

/-- One stored field. -/
def addFieldToMap (map : Map) (key field : Bytes) : Map :=
  if isBinaryMetadataHeader key then addBinaryMetadataValuesToMap map key field
  else addMetadataValueToMap map key field

end Metadata

/-- `grpc_protocol_copy_metadata_map`. -/
def GrpcCall.copyMetadataMap (call : GrpcCall) (trailing : Bool) : Metadata.Map :=
  (call.metadataMap trailing).foldl (fun map field => Metadata.addFieldToMap map field.1 field.2) []

end GrpcLite
