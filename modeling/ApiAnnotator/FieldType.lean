import ApiAnnotator.Adapter
import ApiAnnotator.Naming.Lexicon
import ApiAnnotator.Warning

/-!
# Field types

The type that a field has in generated code. It is built around the type of a single value, which
is a scalar or the qualified name of a message or enum: a list for a repeated field, an optional
value for a field that can be absent, a pointer for a field that could contain itself, and a map of
its own for a map field.

A type that the model does not declare is noted and replaced by the unit type.

## Main definitions

* `Annotating` — annotations that note warnings and stop at an unmapped package.
* `Lexicon.elementType` — the type of a single value.
* `Lexicon.fieldType` — the type of the whole field.
-/

namespace ApiAnnotator

/-- Making an annotation: warnings are noted, and a package that no crate is known for stops it. -/
abbrev Annotating (α : Type) := ExceptT UnmappedPackage Noted α

/-- The type of a field and that of a single value of it. -/
structure ResolvedType where
  full : String
  element : String
  deriving DecidableEq

/-- The type that stands for one that is not declared. -/
def unitType : String := "()"

/-- The type of a scalar. -/
def FieldKind.scalarType? : FieldKind → Option String
  | .double => some "f64"
  | .float => some "f32"
  | .int64 | .sint64 | .sfixed64 => some "i64"
  | .uint64 | .fixed64 => some "u64"
  | .int32 | .sint32 | .sfixed32 => some "i32"
  | .uint32 | .fixed32 => some "u32"
  | .bool => some "bool"
  | .string => some "std::string::String"
  | .bytes => some "::bytes::Bytes"
  | .message | .enum => none

/-- The type of a field, which is no map, around the type of a single value. -/
def Field.wrapType (boxed : Bool) (f : Field) (element : String) : String :=
  if f.repeated then vecOf element
  else if boxed then
    if f.oneof.isSome then boxOf element else optionOf (boxOf element)
  else if f.optional || (f.kind = .message && f.oneof.isNone) then optionOf element
  else element

namespace Lexicon

variable [Speller] (lx : Lexicon)

/-- The qualified name of the type of an ID. -/
def typeOf (id referencedBy : String) : Annotating String := do
  match ← lx.ofId id with
  | some names => return names.qualified
  | none => do
    Noted.warn (.missingType id referencedBy)
    return unitType

/-- The type of a single value of a field. -/
def elementType (f : Field) (referencedBy : String) : Annotating String :=
  match f.kind.scalarType? with
  | some scalar => return scalar
  | none => lx.typeOf f.typeRef referencedBy

/-- The type of a map field. -/
def mapType (f : Field) : Annotating String :=
  match lx.api.mapKey? f.typeRef, lx.api.mapValue? f.typeRef with
  | some key, some value => do
    let keyType ← lx.elementType key f.id
    let valueType ← lx.elementType value f.id
    return mapOf keyType valueType
  | _, _ => do
    Noted.warn (.missingType f.typeRef f.id)
    return mapOf unitType unitType

/-- The type of a field. -/
def fieldType (boxed : Bool) (f : Field) : Annotating ResolvedType :=
  if f.map then do
    let type ← lx.mapType f
    return ⟨type, type⟩
  else do
    let element ← lx.elementType f f.id
    return ⟨f.wrapType boxed element, element⟩

end Lexicon

end ApiAnnotator
