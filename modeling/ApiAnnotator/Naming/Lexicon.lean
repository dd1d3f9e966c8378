import ApiAnnotator.Naming.Target

/-!
# Qualified names

How generated code refers to a type. A qualified name is built from a root module, which is the
configured module path for the types of the API's own package and the alias of a crate for all
others, one module for each message around the type, and the target name of the type.

A relative name leaves the configured module path out. An example name is how code outside of the
crate refers to the type: it starts with the namespace of the crate.

## Main definitions

* `Lexicon` — an API with its options and the names that depend on both.
* `QualifiedName`, `OneOfName` — the names of a type and of a oneof.
* `Lexicon.ofMessage`, `Lexicon.ofEnum`, `Lexicon.ofId` — the names of a type.
* `UnmappedPackage` — the only problem: a package that no crate is known for.
-/

namespace ApiAnnotator

/-- A type of a package that no crate is known for. -/
structure UnmappedPackage where
  package : String
  referencedBy : String
  deriving DecidableEq

/-- The wording of the problem. -/
def UnmappedPackage.message (e : UnmappedPackage) : String :=
  s!"package `{e.package}` (used by `{e.referencedBy}`) has no `package:` mapping"

/-- The names of a type. -/
structure QualifiedName where
  /-- The name in its module. -/
  name : String
  /-- The module that the type is declared in. -/
  modulePath : String
  qualified : String
  relative : String
  exampleName : String
  /-- The name again if the type did not get the one it asked for. -/
  aliasName : Option String
  deriving DecidableEq

/-- The names of a oneof. -/
structure OneOfName where
  enumName : String
  fieldName : String
  qualified : String
  relative : String
  aliasName : Option String
  deriving DecidableEq

/-- The path of a name in a module. -/
def inModule (module name : String) : String :=
  module ++ "::" ++ name

/-- An API with its options and the names that depend on both. -/
structure Lexicon where
  api : Api
  options : Options
  /-- The identifier under which other crates refer to the crate. -/
  crateNamespace : String
  /-- The types that did not get the name they asked for. -/
  renames : List (String × String)

namespace Lexicon

variable [Speller]

/-- The lexicon of an API under the given options. -/
def of (api : Api) (options : Options) : Lexicon where
  api
  options
  crateNamespace := Identifier.crateNamespace (options.crateName api.packageName)
  renames := api.renames options

@[simp] theorem api_of (api : Api) (options : Options) : (of api options).api = api := rfl

@[simp] theorem options_of (api : Api) (options : Options) :
    (of api options).options = options := rfl

variable (lx : Lexicon)

/-- The name of a type that did not get the one it asked for. -/
def alias? (id : String) : Option String :=
  lx.renames.lookup id

/-- The target name of a type with the given declared name. -/
def targetName (id name : String) : String :=
  (lx.alias? id).getD (leafName lx.options id name)

/-- The module that holds the types nested in a message. -/
def moduleName (m : Message) : String :=
  Identifier.fieldName (lx.targetName m.id m.name)

/-- A path with the configured module path left out. -/
def relativeName (path : String) : String :=
  (Text.afterPrefix? (lx.options.modulePath ++ "::") path).getD path

/-- The path by which code outside of the crate refers to an own type. -/
def ownExample (relative : String) : String :=
  match Text.afterPrefix? "crate" lx.options.modulePath with
  | some rest => inModule (lx.crateNamespace ++ rest) relative
  | none => inModule (inModule lx.crateNamespace lx.options.modulePath) relative

/-- The root module of the types of a package. -/
def rootModule (package referencedBy : String) : Except UnmappedPackage String :=
  if lx.api.isOwn package then .ok lx.options.modulePath
  else
    let source := Options.packageSource package
    match lx.options.externPackage? source with
    | some external => .ok external.aliasName
    | none => .error ⟨source, referencedBy⟩

/-- The module that a type with the given parent is declared in, below a root module. -/
def moduleBelow (root : String) (parent : Option String) : String :=
  (lx.api.enclosing parent).foldl (fun path m => inModule path (lx.moduleName m)) root

/-- The names of a type. -/
def qualify (d : DeclaredType) : Except UnmappedPackage QualifiedName := do
  let root ← lx.rootModule d.package d.id
  let modulePath := lx.moduleBelow root d.parent
  let name := lx.targetName d.id d.name
  let qualified := inModule modulePath name
  let relative := lx.relativeName qualified
  return {
    name, modulePath, qualified, relative
    exampleName := if lx.api.isOwn d.package then lx.ownExample relative else qualified
    aliasName := lx.alias? d.id }

/-- The names of a message. -/
def ofMessage (m : Message) : Except UnmappedPackage QualifiedName :=
  lx.qualify (.ofMessage m)

/-- The names of an enum. -/
def ofEnum (e : Enum) : Except UnmappedPackage QualifiedName :=
  lx.qualify (.ofEnum e)

/-- The names of the message or enum that an ID refers to, if it refers to one. -/
def ofId (id : String) : Except UnmappedPackage (Option QualifiedName) :=
  match lx.api.message? id, lx.api.enum? id with
  | some m, _ => some <$> lx.ofMessage m
  | none, some e => some <$> lx.ofEnum e
  | none, none => .ok none

/-- The ID of the type that a field holds; for a map it is the type of the values. -/
def heldType? (f : Field) : Option String :=
  if f.kind = .message ∧ f.map then do
    let value ← lx.api.mapValue? (← f.typeId)
    if value.kind.isNamed then value.typeId else none
  else if f.kind.isNamed then f.typeId
  else none

/-- Another name for the type of a field, needed if that type has the name of the message that the
field belongs to. -/
def fieldAlias? (container : Message) (containerName : String) (f : Field) : Option String := do
  let target ← lx.heldType? f
  if target = container.id then none
  else
    let name ← lx.api.declaredName? target
    if lx.targetName target name ≠ containerName then none
    else
      let aliasName := Identifier.typeName f.name
      if aliasName = containerName then some (aliasName ++ "Field") else some aliasName

/-- The names of a oneof of a message. -/
def ofOneOf (container : Message) (names : QualifiedName) (o : OneOf) : OneOfName :=
  let enumName := Identifier.typeName o.name
  let qualified := inModule (inModule names.modulePath (lx.moduleName container)) enumName
  { enumName
    fieldName := Identifier.fieldName o.name
    qualified
    relative := lx.relativeName qualified
    aliasName := if enumName = names.name then some (enumName ++ "OneOf") else none }

end Lexicon

end ApiAnnotator
