import ApiAnnotator.Annotated.Model
import ApiAnnotator.FieldType
import ApiAnnotator.Sample
import ApiAnnotator.Text.Lines
import ApiAnnotator.Variant

/-!
# Annotating types

The annotations of a message with its fields and oneofs, and of an enum with its values. A type of
another package gets a basic annotation, made from its names alone.

## Main definitions

* `Lexicon.annotateField`, `Lexicon.annotateOneOf`, `Lexicon.annotateMessage`.
* `annotateValue`, `Lexicon.annotateEnum`.
* `Lexicon.basicMessage`, `Lexicon.basicEnum`.
-/

namespace ApiAnnotator

/-- A message annotated together with its fields and oneofs, each under its ID. -/
structure MessageParts where
  entry : AnnotatedMessage
  fields : List (String × AnnotatedField)
  oneofs : List (String × AnnotatedOneOf)

/-- An enum annotated together with its values, each under its ID. -/
structure EnumParts where
  entry : AnnotatedEnum
  values : List (String × AnnotatedValue)

variable [Speller]

/-- The annotation of a value of an enum. -/
def annotateValue (e : Enum) (v : EnumValue) : AnnotatedValue where
  variantName := e.variantOf v
  constantName := Identifier.constName v.name
  number := v.number
  docs := Text.docLines v.documentation

namespace Lexicon

variable (lx : Lexicon)

/-- The annotation of a field. -/
def annotateField (container : Message) (containerName : String) (f : Field) :
    Annotating AnnotatedField := do
  let isBoxed := lx.api.needsBox container.id f
  let type ← lx.fieldType isBoxed f
  return {
    fieldName := Identifier.fieldName f.name
    setterName := "set_" ++ Identifier.snake f.name
    branchName := if f.oneof.isSome then some (Identifier.typeName f.name) else none
    fieldType := type.full
    elementType := type.element
    adapter := lx.api.fieldAdapter? lx.options.bytesAlphabet f
    skipIfDefault := f.skipIfDefault
    isBoxed
    aliasName := lx.fieldAlias? container containerName f
    docs := Text.docLines f.documentation }

/-- The annotation of a oneof. -/
def annotateOneOf (container : Message) (names : QualifiedName) (o : OneOf) : AnnotatedOneOf :=
  let own := lx.ofOneOf container names o
  let members := container.members o
  { enumName := own.enumName
    fieldName := own.fieldName
    qualifiedName := own.qualified
    relativeName := own.relative
    aliasName := own.aliasName
    exampleField := (bestField? members).map (·.id)
    branches := members.map (·.id)
    docs := Text.docLines o.documentation }

/-- The annotation that consists of the names of a message. -/
def nameMessage (m : Message) (names : QualifiedName) : AnnotatedMessage where
  name := names.name
  moduleName := lx.moduleName m
  modulePath := names.modulePath
  qualifiedName := names.qualified
  relativeName := names.relative
  exampleName := names.exampleName
  aliasName := names.aliasName
  basic := true

/-- The annotation of a message of another package. -/
def basicMessage (m : Message) : Except UnmappedPackage AnnotatedMessage := do
  return lx.nameMessage m (← lx.ofMessage m)

/-- The annotation of a message of the API's own package, without its gates. -/
def annotateMessage (m : Message) : Annotating MessageParts := do
  let names ← lx.ofMessage m
  let fields ← m.fields.mapM fun f => do
    return (f.id, ← lx.annotateField m names.name f)
  let oneofs := m.oneofs.map fun o => (o.id, lx.annotateOneOf m names o)
  let entry := { lx.nameMessage m names with
    internal := m.id ∈ lx.options.internalTypes
    deprecated := m.deprecated
    docs := Text.docLines m.documentation
    basic := false
    hasNestedTypes := lx.api.hasNestedTypes m.id
    fields := m.fields.map (·.id)
    oneofs := m.oneofs.map (·.id) }
  return ⟨entry, fields, oneofs⟩

/-- The annotation that consists of the names of an enum. -/
def nameEnum (names : QualifiedName) : AnnotatedEnum where
  name := names.name
  modulePath := names.modulePath
  qualifiedName := names.qualified
  relativeName := names.relative
  exampleName := names.exampleName
  aliasName := names.aliasName
  basic := true

/-- The annotation of an enum of another package. -/
def basicEnum (e : Enum) : Except UnmappedPackage AnnotatedEnum := do
  return nameEnum (← lx.ofEnum e)

/-- A value of an enum as it stands in a sample. -/
def enumExample (names : QualifiedName) (e : Enum) (v : EnumValue) : EnumExample :=
  ⟨v.id, inModule names.exampleName (e.variantOf v)⟩

/-- The annotation of an enum of the API's own package, without its gates. -/
def annotateEnum (e : Enum) : Except UnmappedPackage EnumParts := do
  let names ← lx.ofEnum e
  let entry := { nameEnum names with
    uniqueValues := e.uniqueValues.map (·.id)
    examples := e.exampleValues.map (enumExample names e)
    internal := e.id ∈ lx.options.internalTypes
    deprecated := e.deprecated
    docs := Text.docLines e.documentation
    basic := false }
  return ⟨entry, e.values.map fun v => (v.id, annotateValue e v)⟩

end Lexicon

end ApiAnnotator
