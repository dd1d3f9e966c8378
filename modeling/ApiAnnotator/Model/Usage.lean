import ApiAnnotator.Graph
import ApiAnnotator.Model.Basic

/-!
# Which types use which

A message uses the types of its fields, and a nested type uses the message around it. What a service
needs is all that can be reached from the types of its requests and responses. A message is
recursive if it can be reached from itself through fields alone.

Both questions are about IDs: an ID that is mentioned but not declared is reached like any other.
-/

namespace ApiAnnotator.Api

/-- From each message to the types of its fields. -/
def fieldEdges (api : Api) : List (String × String) :=
  api.messages.flatMap fun m =>
    m.fields.filterMap fun f => f.typeId.map fun target => (m.id, target)

/-- From each nested type to its parent. -/
def parentEdges (api : Api) : List (String × String) :=
  api.messages.filterMap (fun m => m.parent.map fun parent => (m.id, parent)) ++
    api.enums.filterMap fun e => e.parent.map fun parent => (e.id, parent)

/-- The types as they are held by fields. -/
def fieldGraph (api : Api) : Graph String :=
  ⟨api.fieldEdges⟩

/-- The types as they are used, by fields or by nesting. -/
def usageGraph (api : Api) : Graph String :=
  ⟨api.fieldEdges ++ api.parentEdges⟩

/-- Whether an ID is that of a message or of the type of a field. -/
def isFieldVertex (api : Api) (id : String) : Bool :=
  api.messages.any (·.id = id) || api.fieldEdges.any (·.2 = id)

/-- Whether the container can be reached from the target through fields alone. -/
def isRecursive (api : Api) (container target : String) : Bool :=
  api.isFieldVertex container && container ∈ api.fieldGraph.reach [target]

/-- All IDs used by the given ones, themselves included. -/
def usedBy (api : Api) (seeds : List String) : List String :=
  api.usageGraph.reach seeds

end ApiAnnotator.Api
