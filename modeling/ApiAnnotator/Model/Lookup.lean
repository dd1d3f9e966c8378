import ApiAnnotator.Graph
import ApiAnnotator.Model.Basic

/-!
# Looking up entities

What an ID refers to: of several declarations with the same ID the last one counts. The messages
around a type are found by following parents; the walk ends at an ID that is not declared or has
been passed before, so it ends for every model.

## Main definitions

* `Api.message?`, `Api.enum?` — what an ID refers to.
* `Api.enclosing` — the messages around a type, outermost first.
* `Api.mapKey?`, `Api.mapValue?` — the two fields of a map entry.
-/

namespace ApiAnnotator.Api

/-- The message that an ID refers to. -/
def message? (api : Api) (id : String) : Option Message :=
  api.messages.reverse.find? (·.id = id)

/-- The enum that an ID refers to. -/
def enum? (api : Api) (id : String) : Option Enum :=
  api.enums.reverse.find? (·.id = id)

/-- A message that an ID refers to is declared with that ID. -/
theorem of_message?_eq_some {api : Api} {id : String} {m : Message}
    (h : api.message? id = some m) : m ∈ api.messages ∧ m.id = id := by
  have hmem := List.mem_of_find?_eq_some h
  have hid := List.find?_some h
  exact ⟨by simpa using hmem, by simpa using hid⟩

/-- Whether a package is the one that the API belongs to. -/
def isOwn (api : Api) (package : String) : Bool :=
  package = api.packageName

/-- The messages that become types: all but map entries. -/
def structs (api : Api) : List Message :=
  api.messages.filter fun m => !m.isMapEntry

/-- Whether a type is declared inside of the given one. -/
def hasNestedTypes (api : Api) (id : String) : Bool :=
  api.structs.any (·.parent = some id) || api.enums.any (·.parent = some id)

/-- The name that a type is declared with. -/
def declaredName? (api : Api) (id : String) : Option String :=
  match api.message? id with
  | some m => some m.name
  | none => (api.enum? id).map (·.name)

/-- The messages met on the way from a type's parent outwards, except those that are seen already.
-/
def outwards (api : Api) (seen : List String) : Option String → List Message
  | none => []
  | some id =>
    match _found : api.message? id with
    | none => []
    | some m => if m.id ∈ seen then [] else m :: api.outwards (m.id :: seen) m.parent
termination_by (unseen Message.id seen api.messages).length
decreasing_by
  rename_i hnew
  exact length_unseen_lt (of_message?_eq_some _found).1 hnew

/-- The messages around a type with the given parent, outermost first. -/
def enclosing (api : Api) (parent : Option String) : List Message :=
  (api.outwards [] parent).reverse

/-- The key field of a map entry. -/
def mapKey? (api : Api) (entryId : String) : Option Field :=
  (api.message? entryId).bind (·.field? "key")

/-- The value field of a map entry. -/
def mapValue? (api : Api) (entryId : String) : Option Field :=
  (api.message? entryId).bind (·.field? "value")

end ApiAnnotator.Api
