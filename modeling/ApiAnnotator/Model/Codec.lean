import ApiAnnotator.Json.Codec
import ApiAnnotator.Model.Basic
import ApiAnnotator.PathTemplate.Parser

/-!
# The API model as JSON

The codecs of the model, one for each type, with a slot for each field in the order of the fields.
Only a binding has fields that it cannot do without; path templates are given in their written form.
-/

namespace ApiAnnotator

open Json

/-- Path templates as texts in their written form. -/
def PathTemplate.codec : Codec PathTemplate :=
  Codec.text.refine (fun s => (PathTemplate.parse s).mapError (·.message)) PathTemplate.render

/-- Kinds of values by name. -/
def FieldKind.codec : Codec FieldKind :=
  .variant FieldKind.named FieldKind.name

/-- Fields of a message. -/
def Field.codec : Codec Field :=
  .record "Field" {}
    [slot "id" .text (·.id) fun v s => { s with id := v },
      slot "name" .text (·.name) fun v s => { s with name := v },
      slot "typez" FieldKind.codec (·.kind) fun v s => { s with kind := v },
      slot "typeId" .optionalText (·.typeId) fun v s => { s with typeId := v },
      slot "repeated" .flag (·.repeated) fun v s => { s with repeated := v },
      slot "optional" .flag (·.optional) fun v s => { s with optional := v },
      slot "map" .flag (·.map) fun v s => { s with map := v },
      slot "deprecated" .flag (·.deprecated) fun v s => { s with deprecated := v },
      slot "resourceReference" .flag (·.resourceReference)
        fun v s => { s with resourceReference := v },
      slot "oneof" .optionalText (·.oneof) fun v s => { s with oneof := v },
      slot "documentation" .text (·.documentation) fun v s => { s with documentation := v }]

/-- Oneofs of a message. -/
def OneOf.codec : Codec OneOf :=
  .record "OneOf" {}
    [slot "id" .text (·.id) fun v s => { s with id := v },
      slot "name" .text (·.name) fun v s => { s with name := v },
      slot "documentation" .text (·.documentation) fun v s => { s with documentation := v }]

/-- Messages. -/
def Message.codec : Codec Message :=
  .record "Message" {}
    [slot "id" .text (·.id) fun v s => { s with id := v },
      slot "name" .text (·.name) fun v s => { s with name := v },
      slot "package" .text (·.package) fun v s => { s with package := v },
      slot "parent" .optionalText (·.parent) fun v s => { s with parent := v },
      slot "documentation" .text (·.documentation) fun v s => { s with documentation := v },
      slot "deprecated" .flag (·.deprecated) fun v s => { s with deprecated := v },
      slot "fields" (.list Field.codec) (·.fields) fun v s => { s with fields := v },
      slot "oneofs" (.list OneOf.codec) (·.oneofs) fun v s => { s with oneofs := v },
      slot "isMapEntry" .flag (·.isMapEntry) fun v s => { s with isMapEntry := v }]

/-- Values of an enum. -/
def EnumValue.codec : Codec EnumValue :=
  .record "EnumValue" {}
    [slot "id" .text (·.id) fun v s => { s with id := v },
      slot "name" .text (·.name) fun v s => { s with name := v },
      slot "number" .int32 (·.number) fun v s => { s with number := v },
      slot "deprecated" .flag (·.deprecated) fun v s => { s with deprecated := v },
      slot "documentation" .text (·.documentation) fun v s => { s with documentation := v }]

/-- Enums. -/
def Enum.codec : Codec Enum :=
  .record "Enum" {}
    [slot "id" .text (·.id) fun v s => { s with id := v },
      slot "name" .text (·.name) fun v s => { s with name := v },
      slot "package" .text (·.package) fun v s => { s with package := v },
      slot "parent" .optionalText (·.parent) fun v s => { s with parent := v },
      slot "documentation" .text (·.documentation) fun v s => { s with documentation := v },
      slot "deprecated" .flag (·.deprecated) fun v s => { s with deprecated := v },
      slot "values" (.list EnumValue.codec) (·.values) fun v s => { s with values := v }]

/-- Bindings of a method. -/
def Binding.codec : Codec Binding :=
  .record "PathBinding" ⟨"", ⟨[], none⟩⟩
    [requiredSlot "verb" .text (·.verb) fun v s => { s with verb := v },
      requiredSlot "template" PathTemplate.codec (·.template) fun v s => { s with template := v }]

/-- HTTP rules of a method. -/
def HttpRule.codec : Codec HttpRule :=
  .record "PathInfo" {}
    [slot "bindings" (.list Binding.codec) (·.bindings) fun v s => { s with bindings := v },
      slot "bodyFieldPath" .optionalText (·.body) fun v s => { s with body := v }]

/-- Methods. -/
def Method.codec : Codec Method :=
  .record "Method" {}
    [slot "id" .text (·.id) fun v s => { s with id := v },
      slot "name" .text (·.name) fun v s => { s with name := v },
      slot "documentation" .text (·.documentation) fun v s => { s with documentation := v },
      slot "inputTypeId" .text (·.inputTypeId) fun v s => { s with inputTypeId := v },
      slot "outputTypeId" .text (·.outputTypeId) fun v s => { s with outputTypeId := v },
      slot "clientSideStreaming" .flag (·.clientSideStreaming)
        fun v s => { s with clientSideStreaming := v },
      slot "serverSideStreaming" .flag (·.serverSideStreaming)
        fun v s => { s with serverSideStreaming := v },
      slot "deprecated" .flag (·.deprecated) fun v s => { s with deprecated := v },
      slot "pathInfo" (.optional HttpRule.codec) (·.http) fun v s => { s with http := v }]

/-- Services. -/
def Service.codec : Codec Service :=
  .record "Service" {}
    [slot "id" .text (·.id) fun v s => { s with id := v },
      slot "name" .text (·.name) fun v s => { s with name := v },
      slot "package" .text (·.package) fun v s => { s with package := v },
      slot "documentation" .text (·.documentation) fun v s => { s with documentation := v },
      slot "defaultHost" .text (·.defaultHost) fun v s => { s with defaultHost := v },
      slot "deprecated" .flag (·.deprecated) fun v s => { s with deprecated := v },
      slot "methods" (.list Method.codec) (·.methods) fun v s => { s with methods := v }]

/-- API models. -/
def Api.codec : Codec Api :=
  .record "Api" {}
    [slot "name" .text (·.name) fun v s => { s with name := v },
      slot "packageName" .text (·.packageName) fun v s => { s with packageName := v },
      slot "title" .text (·.title) fun v s => { s with title := v },
      slot "description" .optionalText (·.description) fun v s => { s with description := v },
      slot "messages" (.list Message.codec) (·.messages) fun v s => { s with messages := v },
      slot "enums" (.list Enum.codec) (·.enums) fun v s => { s with enums := v },
      slot "services" (.list Service.codec) (·.services) fun v s => { s with services := v }]

end ApiAnnotator
