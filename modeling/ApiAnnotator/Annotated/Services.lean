import ApiAnnotator.Annotated.Model
import ApiAnnotator.FieldType
import ApiAnnotator.Text.Lines

/-!
# Annotating services

A method is generated if it can be called over HTTP and does not stream, or if the options ask for
all methods. A service is kept if any of its methods is generated.

Types of requests and responses that are annotated already are referred to by their annotations, all
others are looked up.

## Main definitions

* `isGenerated`, `generatedMethods` — which methods are generated.
* `Lexicon.annotateMethod`, `Lexicon.annotateService`.
* `RetainedService` — a kept service with its feature and its generated methods.
-/

namespace ApiAnnotator

/-- The message whose absence of content is written as the unit type. -/
def emptyMessageId : String := ".google.protobuf.Empty"

/-- Whether a method is generated. -/
def isGenerated (options : Options) (m : Method) : Bool :=
  options.includeGrpcOnlyMethods || (!m.isStreaming && m.http.isSome)

/-- The methods of a service that are generated. -/
def generatedMethods (options : Options) (s : Service) : List Method :=
  s.methods.filter (isGenerated options)

/-- A service that is kept. -/
structure RetainedService where
  service : Service
  feature : String
  methods : List Method
  deriving DecidableEq

namespace RetainedService

/-- The types of the requests and responses of the generated methods. -/
def seeds (r : RetainedService) : List String :=
  r.methods.flatMap fun m => [m.inputTypeId, m.outputTypeId]

end RetainedService

variable [Speller]

/-- A service, if any of its methods is generated. -/
def retain? (options : Options) (s : Service) : Option RetainedService :=
  match generatedMethods options s with
  | [] => none
  | methods => some ⟨s, Identifier.featureName s.name, methods⟩

/-- A service annotated together with its methods, each under its ID. -/
structure ServiceParts where
  entry : AnnotatedService
  methods : List (String × AnnotatedMethod)

/-- The types that are annotated already, by ID. -/
structure KnownTypes where
  messages : Table AnnotatedMessage
  enums : Table AnnotatedEnum

/-- The name under which a type is annotated already. -/
def KnownTypes.name? (known : KnownTypes) (id : String) : Option String :=
  match known.messages[id]? with
  | some m => some m.qualifiedName
  | none => (known.enums[id]?).map (·.qualifiedName)

namespace Lexicon

variable (lx : Lexicon)

/-- The name of the type of a request or response. -/
def callType (known : KnownTypes) (id methodId : String) : Annotating String :=
  match known.name? id with
  | some name => return name
  | none => lx.typeOf id methodId

/-- The name of the type of a response. -/
def returnType (known : KnownTypes) (m : Method) : Annotating String :=
  if m.outputTypeId = emptyMessageId then return unitType
  else lx.callType known m.outputTypeId m.id

/-- The routes and the candidates for the resource name of a method. Both need the fields of the
request, so there are none if its message is not declared. -/
def callShape (m : Method) : Noted (List Route × List ResourceName) :=
  match lx.api.message? m.inputTypeId with
  | some input => do
    let routes ← m.bindings.mapM (lx.api.route m.id input m.body)
    let candidates ← lx.api.resourceNames m input
    return (routes, candidates)
  | none => return ([], [])

/-- The annotation of a method. -/
def annotateMethod (known : KnownTypes) (serviceName : String) (m : Method) :
    Annotating AnnotatedMethod := do
  let inputType ← lx.callType known m.inputTypeId m.id
  let returnType ← lx.returnType known m
  let (routes, resourceNames) ← lx.callShape m
  return {
    name := Identifier.fieldName m.name
    builderName := Identifier.typeName m.name
    serviceName, inputType, returnType, resourceNames, routes
    isIdempotent := bindingsIdempotent m.bindings
    docs := Text.docLines m.documentation }

/-- The annotation of a service that is kept. -/
def annotateService (known : KnownTypes) (r : RetainedService) : Annotating ServiceParts := do
  let s := r.service
  let name := Identifier.typeName s.name
  let methods ← r.methods.mapM fun m => do
    return (m.id, ← lx.annotateMethod known name m)
  let entry := {
    name
    moduleName := Identifier.fieldName s.name
    featureName := r.feature
    defaultHost := s.defaultHost
    methods := r.methods.map (·.id)
    docs := Text.docLines s.documentation }
  return ⟨entry, methods⟩

end Lexicon

end ApiAnnotator
