import ApiAnnotator.Identifier.Basic
import ApiAnnotator.Identifier.Fresh
import ApiAnnotator.Model.Lookup
import ApiAnnotator.Options

/-!
# Target names

Every message and enum gets a target name: the override given for its ID, or its declared name as a
type name. Types with the same package and the same parent share a scope, and there the names have
to differ: whoever comes first keeps the name, messages before enums and both in the order of their
declaration, and a later type with the same name gets a number. Map entries never become types and
take no part.

## Main definitions

* `Api.declaredTypes` — the types in the order in which they claim names.
* `leafName` — the name that a type asks for.
* `claimNames` — the names that the types of all scopes get.
* `renames` — the names of those that did not get what they asked for.
-/

namespace ApiAnnotator

/-- What a type's name depends on. -/
structure DeclaredType where
  id : String
  name : String
  package : String
  parent : Option String
  deriving DecidableEq

namespace DeclaredType

/-- The part of the code in which the name of the type has to be unique. -/
def scope (d : DeclaredType) : String × Option String :=
  (d.package, d.parent)

/-- What the name of a message depends on. -/
def ofMessage (m : Message) : DeclaredType :=
  ⟨m.id, m.name, m.package, m.parent⟩

/-- What the name of an enum depends on. -/
def ofEnum (e : Enum) : DeclaredType :=
  ⟨e.id, e.name, e.package, e.parent⟩

end DeclaredType

/-- The types of an API in the order in which they claim names. -/
def Api.declaredTypes (api : Api) : List DeclaredType :=
  api.structs.map .ofMessage ++ api.enums.map .ofEnum

variable [Speller]

/-- The name that a type asks for. -/
def leafName (options : Options) (id name : String) : String :=
  (options.nameOverrides[id]?).getD (Identifier.typeName name)

/-- A type, the name it asked for and the name it got. -/
structure NamedType where
  decl : DeclaredType
  leaf : String
  target : String
  deriving DecidableEq

namespace NamedType

/-- Whether the type did not get the name it asked for. -/
def isRenamed (n : NamedType) : Bool :=
  n.target ≠ n.leaf

end NamedType

/-- The names that types get one after the other, where the types in `named` have theirs already. -/
def claimNames (options : Options) (named : List NamedType) : List DeclaredType → List NamedType
  | [] => []
  | d :: rest =>
    let taken := (named.filter (·.decl.scope = d.scope)).map (·.target)
    let leaf := leafName options d.id d.name
    let result := ⟨d, leaf, Identifier.fresh leaf taken⟩
    result :: claimNames options (result :: named) rest

/-- The names of all types of an API. -/
def Api.namedTypes (api : Api) (options : Options) : List NamedType :=
  claimNames options [] api.declaredTypes

/-- The IDs of the types that were renamed with their names, the last declaration of an ID first. -/
def Api.renames (api : Api) (options : Options) : List (String × String) :=
  (((api.namedTypes options).filter (·.isRenamed)).map fun n => (n.decl.id, n.target)).reverse

end ApiAnnotator
