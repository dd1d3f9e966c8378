import ApiAnnotator.Gates
import ApiAnnotator.Options
import ApiAnnotator.Routing.ResourceName
import ApiAnnotator.Routing.Route

/-!
# The annotated model

What the generation of code needs to know about each entity of an API, in one table for each kind of
entity. Annotations are plain data; they refer to each other by ID, as the entities do.

Types of other packages are basic: they carry their names and nothing else.
-/

namespace ApiAnnotator

/-- The annotation of a message. -/
structure AnnotatedMessage where
  name : String
  /-- The module that holds the types nested in the message. -/
  moduleName : String
  /-- The module that the message itself is declared in. -/
  modulePath : String
  qualifiedName : String
  relativeName : String
  exampleName : String
  aliasName : Option String
  featureGates : FeatureGates := {}
  internal : Bool := false
  deprecated : Bool := false
  docs : List String := []
  basic : Bool
  hasNestedTypes : Bool := false
  fields : List String := []
  oneofs : List String := []
  deriving DecidableEq

/-- The annotation of a field. -/
structure AnnotatedField where
  fieldName : String
  setterName : String
  /-- The variant for the field if it is a member of a oneof. -/
  branchName : Option String
  fieldType : String
  /-- The type of a single value. -/
  elementType : String
  adapter : Option String
  skipIfDefault : Bool
  isBoxed : Bool
  aliasName : Option String
  docs : List String
  deriving DecidableEq

/-- The annotation of a oneof. -/
structure AnnotatedOneOf where
  enumName : String
  fieldName : String
  qualifiedName : String
  relativeName : String
  aliasName : Option String
  /-- The member that samples set. -/
  exampleField : Option String
  branches : List String
  docs : List String
  deriving DecidableEq

/-- A value of an enum in a sample. -/
structure EnumExample where
  valueId : String
  expression : String
  deriving DecidableEq

/-- The annotation of an enum. -/
structure AnnotatedEnum where
  name : String
  modulePath : String
  qualifiedName : String
  relativeName : String
  exampleName : String
  aliasName : Option String
  /-- The values that have a variant of their own. -/
  uniqueValues : List String := []
  examples : List EnumExample := []
  featureGates : FeatureGates := {}
  internal : Bool := false
  deprecated : Bool := false
  docs : List String := []
  basic : Bool
  deriving DecidableEq

/-- The annotation of a value of an enum. -/
structure AnnotatedValue where
  variantName : String
  constantName : String
  number : Int32
  docs : List String
  deriving DecidableEq

/-- The annotation of a service. -/
structure AnnotatedService where
  name : String
  moduleName : String
  featureName : String
  defaultHost : String
  methods : List String
  docs : List String
  deriving DecidableEq

/-- The annotation of a method. -/
structure AnnotatedMethod where
  name : String
  builderName : String
  serviceName : String
  inputType : String
  returnType : String
  resourceNames : List ResourceName
  routes : List Route
  isIdempotent : Bool
  docs : List String
  deriving DecidableEq

/-- The annotation of the crate. -/
structure CrateInfo where
  crateName : String
  crateNamespace : String
  modulePath : String
  title : String
  perServiceFeatures : Bool
  allFeatures : List String
  defaultFeatures : List String
  generateSetterSamples : Bool
  generateRpcSamples : Bool
  templateOverride : Option String
  version : Option String
  copyrightYear : Option String
  externPackages : List ExternPackage
  /-- The services with at least one generated method. -/
  services : List String
  deriving DecidableEq

/-- The annotations of all entities of an API. -/
structure AnnotatedModel where
  crate : CrateInfo
  messages : Table AnnotatedMessage
  fields : Table AnnotatedField
  oneofs : Table AnnotatedOneOf
  enums : Table AnnotatedEnum
  enumValues : Table AnnotatedValue
  services : Table AnnotatedService
  methods : Table AnnotatedMethod
  deriving DecidableEq

/-- What an annotation pass did, in numbers, and the warnings that it noted. -/
structure Statistics where
  messages : Nat
  enums : Nat
  external : Nat
  services : Nat
  methods : Nat
  skipped : Nat
  features : Nat
  warnings : List Warning
  deriving DecidableEq

end ApiAnnotator
