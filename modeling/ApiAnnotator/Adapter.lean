import ApiAnnotator.Model.Lookup
import ApiAnnotator.Model.Usage
import ApiAnnotator.Options

/-!
# Serialization adapters

The JSON form of some values is not the default form of their types: integers of 64 bits travel as
texts, floating-point numbers allow infinities and the like as texts, and bytes are encoded in an
alphabet of 64 characters. A field that holds such values names an adapter, wrapped like the field
itself.

The well-known wrapper messages hold a single scalar and travel like that scalar.

## Main definitions

* `FieldKind.adapter?`, `wrapperAdapter?` — the adapter of a scalar and of a wrapper message.
* `Api.fieldAdapter?` — the adapter of a field.
* `Api.needsBox` — whether a field has to be kept behind a pointer.
-/

namespace ApiAnnotator

/-- The adapter for bytes. -/
def BytesAlphabet.adapter : BytesAlphabet → String
  | .standard => "serde_with::base64::Base64"
  | .urlSafe => "serde_with::base64::Base64<serde_with::base64::UrlSafe>"

/-- The adapter of a kind of scalar, if it needs one. -/
def FieldKind.adapter? (alphabet : BytesAlphabet) : FieldKind → Option String
  | .int32 | .sint32 | .sfixed32 => some "wkt::internal::I32"
  | .int64 | .sint64 | .sfixed64 => some "wkt::internal::I64"
  | .uint32 | .fixed32 => some "wkt::internal::U32"
  | .uint64 | .fixed64 => some "wkt::internal::U64"
  | .float => some "wkt::internal::F32"
  | .double => some "wkt::internal::F64"
  | .bytes => some alphabet.adapter
  | .bool | .string | .enum | .message => none

/-- The name that a well-known type has within its package. -/
def wellKnownName? (typeId : String) : Option String :=
  Text.afterPrefix? ".google.protobuf." typeId

/-- The kinds of the scalars in wrapper messages whose form is not the default one. -/
def wrappedKinds : List (String × FieldKind) :=
  [("DoubleValue", .double), ("FloatValue", .float), ("Int64Value", .int64),
    ("UInt64Value", .uint64), ("Int32Value", .int32), ("UInt32Value", .uint32),
    ("BytesValue", .bytes)]

/-- The adapter of a wrapper message, if it needs one. -/
def wrapperAdapter? (alphabet : BytesAlphabet) (typeId : String) : Option String := do
  let kind ← wrappedKinds.lookup (← wellKnownName? typeId)
  kind.adapter? alphabet

/-- The adapter between a value and its text. -/
def displayAdapter : String := "serde_with::DisplayFromStr"

/-- The adapter that changes nothing. -/
def sameAdapter : String := "serde_with::Same"

namespace Field

/-- Whether the field holds a wrapper message. The type for values of any kind is none. -/
def isWrapper (f : Field) : Bool :=
  f.kind = .message &&
    ((f.typeId.bind wellKnownName?).any fun name =>
      "Value".toList.isSuffixOf name.toList && name ≠ "Value")

/-- The adapter of a single value of the field. -/
def elementAdapter? (alphabet : BytesAlphabet) (f : Field) : Option String :=
  if f.kind = .message then f.typeId.bind (wrapperAdapter? alphabet)
  else f.kind.adapter? alphabet

/-- The adapter of a key of a map: truth values travel as texts. -/
def keyAdapter? (alphabet : BytesAlphabet) (f : Field) : Option String :=
  if f.kind = .bool then some displayAdapter else f.elementAdapter? alphabet

/-- Whether the field is left out when it has its default value. Texts and bytes always stay. -/
def skipIfDefault (f : Field) : Bool :=
  !f.kind.isStringLike

end Field

/-- A list type, or the adapter of one. -/
def vecOf (element : String) : String :=
  "std::vec::Vec<" ++ element ++ ">"

/-- A type for values that may be absent, or the adapter of one. -/
def optionOf (element : String) : String :=
  "std::option::Option<" ++ element ++ ">"

/-- A type for values behind a pointer. -/
def boxOf (element : String) : String :=
  "std::boxed::Box<" ++ element ++ ">"

/-- A map type, or the adapter of one. -/
def mapOf (key value : String) : String :=
  "std::collections::HashMap<" ++ key ++ ", " ++ value ++ ">"

namespace Api

/-- The adapter of a map field, if its keys or its values need one. -/
def mapAdapter? (api : Api) (alphabet : BytesAlphabet) (f : Field) : Option String := do
  let entry ← f.typeId
  let key := (api.mapKey? entry).bind (Field.keyAdapter? alphabet)
  let value := (api.mapValue? entry).bind (Field.elementAdapter? alphabet)
  if key.isNone && value.isNone then none
  else some (mapOf (key.getD sameAdapter) (value.getD sameAdapter))

/-- The adapter of a field, if it needs one. -/
def fieldAdapter? (api : Api) (alphabet : BytesAlphabet) (f : Field) : Option String :=
  if f.map then api.mapAdapter? alphabet f
  else do
    let adapter ← f.elementAdapter? alphabet
    if f.repeated then some (vecOf adapter)
    else if f.oneof.isSome then some adapter
    else if f.optional || f.isWrapper then some (optionOf adapter)
    else some adapter

/-- Whether a field has to be kept behind a pointer: a single message that is a oneof member, or
that can contain the message it is a field of. -/
def needsBox (api : Api) (containerId : String) (f : Field) : Bool :=
  f.isSingularMessage &&
    (f.oneof.isSome || f.typeId.any fun target => api.isRecursive containerId target)

end Api

end ApiAnnotator
