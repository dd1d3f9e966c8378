import ApiAnnotator.Annotated.Model

/-!
# The annotated model as JSON

Every annotation is an object with all its keys, whether or not they have values, and every table is
an object keyed by ID.
-/

namespace ApiAnnotator

/-- A text, or `null` if there is none. -/
def Json.text? : Option String → Json :=
  Json.ofOption .str

open Json

/-- A message as JSON. -/
def AnnotatedMessage.toJson (m : AnnotatedMessage) : Json :=
  .obj [("name", .str m.name), ("moduleName", .str m.moduleName),
    ("modulePath", .str m.modulePath), ("qualifiedName", .str m.qualifiedName),
    ("relativeName", .str m.relativeName), ("exampleName", .str m.exampleName),
    ("alias", text? m.aliasName), ("featureGates", m.featureGates.toJson),
    ("internal", .bool m.internal), ("deprecated", .bool m.deprecated), ("docs", .texts m.docs),
    ("basic", .bool m.basic), ("hasNestedTypes", .bool m.hasNestedTypes),
    ("fields", .texts m.fields), ("oneofs", .texts m.oneofs)]

/-- A field as JSON. -/
def AnnotatedField.toJson (f : AnnotatedField) : Json :=
  .obj [("fieldName", .str f.fieldName), ("setterName", .str f.setterName),
    ("branchName", text? f.branchName), ("fieldType", .str f.fieldType),
    ("primitiveFieldType", .str f.elementType), ("serdeAs", text? f.adapter),
    ("skipIfIsDefault", .bool f.skipIfDefault), ("isBoxed", .bool f.isBoxed),
    ("alias", text? f.aliasName), ("docs", .texts f.docs)]

/-- A oneof as JSON. -/
def AnnotatedOneOf.toJson (o : AnnotatedOneOf) : Json :=
  .obj [("enumName", .str o.enumName), ("fieldName", .str o.fieldName),
    ("qualifiedName", .str o.qualifiedName), ("relativeName", .str o.relativeName),
    ("alias", text? o.aliasName), ("exampleField", text? o.exampleField),
    ("branches", .texts o.branches), ("docs", .texts o.docs)]

/-- An example as JSON. -/
def EnumExample.toJson (e : EnumExample) : Json :=
  .obj [("valueId", .str e.valueId), ("expression", .str e.expression)]

/-- An enum as JSON. -/
def AnnotatedEnum.toJson (e : AnnotatedEnum) : Json :=
  .obj [("name", .str e.name), ("modulePath", .str e.modulePath),
    ("qualifiedName", .str e.qualifiedName), ("relativeName", .str e.relativeName),
    ("exampleName", .str e.exampleName), ("alias", text? e.aliasName),
    ("uniqueValues", .texts e.uniqueValues),
    ("examples", .arr (e.examples.map EnumExample.toJson)),
    ("featureGates", e.featureGates.toJson), ("internal", .bool e.internal),
    ("deprecated", .bool e.deprecated), ("docs", .texts e.docs), ("basic", .bool e.basic)]

/-- A value of an enum as JSON. -/
def AnnotatedValue.toJson (v : AnnotatedValue) : Json :=
  .obj [("variantName", .str v.variantName), ("constantName", .str v.constantName),
    ("number", .int v.number.toInt), ("docs", .texts v.docs)]

/-- A service as JSON. -/
def AnnotatedService.toJson (s : AnnotatedService) : Json :=
  .obj [("name", .str s.name), ("moduleName", .str s.moduleName),
    ("featureName", .str s.featureName), ("defaultHost", .str s.defaultHost),
    ("methods", .texts s.methods), ("docs", .texts s.docs)]

/-- A candidate for a resource name as JSON. -/
def ResourceName.toJson (r : ResourceName) : Json :=
  .obj [("fieldPath", .texts r.fieldPath), ("accessor", .str r.accessor),
    ("isNested", .bool r.isNested), ("isPathParameter", .bool r.isPathParameter)]

/-- A substitution as JSON. -/
def Substitution.toJson (s : Substitution) : Json :=
  .obj [("fieldPath", .str s.fieldPath), ("fieldAccessor", .str s.fieldAccessor),
    ("template", .arr (s.template.map Matcher.toJson)), ("templateExpr", .str s.templateExpr)]

/-- A query parameter as JSON. -/
def QueryParameter.toJson (p : QueryParameter) : Json :=
  .obj [("name", .str p.name), ("fieldName", .str p.fieldName),
    ("isOptional", .bool p.isOptional), ("isRepeated", .bool p.isRepeated),
    ("isStructured", .bool p.isStructured)]

/-- A route as JSON. -/
def Route.toJson (r : Route) : Json :=
  .obj [("verb", .str r.verb), ("pathFmt", .str r.pathFormat),
    ("substitutions", .arr (r.substitutions.map Substitution.toJson)),
    ("queryParams", .arr (r.queryParams.map QueryParameter.toJson)),
    ("hasBody", .bool r.hasBody), ("queryParamsCanFail", .bool r.queryParamsCanFail)]

/-- A method as JSON. -/
def AnnotatedMethod.toJson (m : AnnotatedMethod) : Json :=
  .obj [("name", .str m.name), ("builderName", .str m.builderName),
    ("serviceName", .str m.serviceName), ("inputType", .str m.inputType),
    ("returnType", .str m.returnType),
    ("resourceNames", .arr (m.resourceNames.map ResourceName.toJson)),
    ("pathBindings", .arr (m.routes.map Route.toJson)), ("isIdempotent", .bool m.isIdempotent),
    ("docs", .texts m.docs)]

/-- A package as JSON. -/
def ExternPackage.toJson (p : ExternPackage) : Json :=
  .obj [("alias", .str p.aliasName), ("crateName", .str p.crate), ("sources", .texts p.sources),
    ("feature", text? p.feature)]

/-- The crate as JSON. -/
def CrateInfo.toJson (c : CrateInfo) : Json :=
  .obj [("crateName", .str c.crateName), ("crateNamespace", .str c.crateNamespace),
    ("modulePath", .str c.modulePath), ("title", .str c.title),
    ("perServiceFeatures", .bool c.perServiceFeatures), ("allFeatures", .texts c.allFeatures),
    ("defaultFeatures", .texts c.defaultFeatures),
    ("generateSetterSamples", .bool c.generateSetterSamples),
    ("generateRpcSamples", .bool c.generateRpcSamples),
    ("templateOverride", text? c.templateOverride), ("version", text? c.version),
    ("copyrightYear", text? c.copyrightYear),
    ("externPackages", .arr (c.externPackages.map ExternPackage.toJson)),
    ("services", .texts c.services)]

/-- The annotated model as JSON. -/
def AnnotatedModel.toJson (m : AnnotatedModel) : Json :=
  .obj [("crate", m.crate.toJson), ("messages", m.messages.toJson AnnotatedMessage.toJson),
    ("fields", m.fields.toJson AnnotatedField.toJson),
    ("oneofs", m.oneofs.toJson AnnotatedOneOf.toJson),
    ("enums", m.enums.toJson AnnotatedEnum.toJson),
    ("enumValues", m.enumValues.toJson AnnotatedValue.toJson),
    ("services", m.services.toJson AnnotatedService.toJson),
    ("methods", m.methods.toJson AnnotatedMethod.toJson)]

end ApiAnnotator
