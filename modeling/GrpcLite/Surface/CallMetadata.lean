import GrpcLite.Core.OrderedMap
import GrpcLite.Exchange.RequestHeaders

/-!
# Metadata of a call

The metadata array of a call and the merge of the metadata that a credentials
plugin returns: values are appended behind those of the call, except for
`x-goog-api-client`, whose parts are folded into one value.
-/

namespace GrpcLite

/-- A key of a metadata array. -/
inductive ArrayKey
  /-- An integer key. -/
  | index (n : Int)
  /-- A string key. -/
  | name (text : Bytes)
  deriving DecidableEq, Repr

/-- The string of a key; none for an integer key, as `ZEND_HASH_FOREACH_STR_KEY_VAL` has it. -/
def ArrayKey.string : ArrayKey → Option Bytes
  | .index _ => none
  | .name text => some text

/-- A metadata array of userland. -/
abbrev MetadataMap := OrderedMap ArrayKey MetadataValue

namespace MetadataMap

/-- `add_next_index_zval`. -/
def addNextIndex (values : List (Option Bytes)) (value : Option Bytes) : List (Option Bytes) :=
  values ++ [value]

/-- `grpc_lite_append_metadata_zval`: an existing entry becomes an array first. -/
def appendMetadataZval (metadata : MetadataMap) (key : Option Bytes) (value : MetadataValue) :
    MetadataMap :=
  match key with
  | none => metadata
  | some key =>
    match metadata.find (.name key) with
    | none => metadata.update (.name key) value
    | some existing =>
      let existing :=
        match existing with
        | .array values => values
        | .string text => addNextIndex [] (some text)
        | .other => addNextIndex [] none
      metadata.update (.name key) <| .array <|
        match value with
        | .array values => values.foldl addNextIndex existing
        | .string text => addNextIndex existing (some text)
        | .other => addNextIndex existing none

/-- The key `x-goog-api-client`. -/
def xGoogApiClient : Bytes := ascii "x-goog-api-client".toList

/-- `grpc_lite_append_x_goog_api_client_part`: the buffer is none as long as nothing was
appended to it, and the result is none when the value is not a string. -/
def appendXGoogApiClientPart (buffer : Option Bytes) : Option Bytes → Option (Option Bytes)
  | none => none
  | some value =>
    match buffer with
    | none => some (some value)
    | some text => some (some ((if text.length > 0 then text ++ [32] else text) ++ value))

/-- `grpc_lite_append_x_goog_api_client_parts`. -/
def appendXGoogApiClientParts (buffer : Option Bytes) : MetadataValue → Option (Option Bytes)
  | .array values => values.foldlM appendXGoogApiClientPart buffer
  | .string text => appendXGoogApiClientPart buffer (some text)
  | .other => appendXGoogApiClientPart buffer none

/-- The buffer behind the existing entry. -/
def existingXGoogApiClientParts (metadata : MetadataMap) : Option (Option Bytes) :=
  match metadata.find (.name xGoogApiClient) with
  | none => some none
  | some existing => appendXGoogApiClientParts none existing

/-- `grpc_lite_fold_x_goog_api_client`; none where it returns false. -/
def foldXGoogApiClient (metadata : MetadataMap) (key : Option Bytes) (value : MetadataValue) :
    Option MetadataMap :=
  if key ≠ some xGoogApiClient then none
  else
    match metadata.existingXGoogApiClientParts with
    | none => none
    | some buffer =>
      match appendXGoogApiClientParts buffer value with
      | none => none
      | some none => none
      | some (some text) => some (metadata.update (.name xGoogApiClient) (.array [some text]))

/-- One turn of the loop of `grpc_lite_merge_metadata_append_values`. -/
def mergeEntry (metadata : MetadataMap) (entry : ArrayKey × MetadataValue) : MetadataMap :=
  match metadata.foldXGoogApiClient entry.1.string entry.2 with
  | some folded => folded
  | none => metadata.appendMetadataZval entry.1.string entry.2

/-- `grpc_lite_merge_metadata_append_values`. -/
def mergeMetadataAppendValues (metadata source : MetadataMap) : MetadataMap :=
  source.entries.foldl mergeEntry metadata

end MetadataMap

end GrpcLite
