import ApiAnnotator.Accessor
import ApiAnnotator.Warning

/-!
# Resource names

The fields of a request that may hold the name of the resource that the request is about: the
references to resources in the request itself and in the messages directly inside of it. Fields of
the request come before those inside, and among each of them the fields that are part of a path come
first; apart from that the order of declaration is kept.

## Main definitions

* `Method.pathParameters` — the field paths that are part of a path.
* `Api.referencePaths` — the field paths of the references.
* `Api.resourceNames` — the candidates in order.
-/

namespace ApiAnnotator

/-- A field that may hold the name of the resource. -/
structure ResourceName where
  fieldPath : List String
  accessor : String
  isNested : Bool
  isPathParameter : Bool
  deriving DecidableEq

/-- Whether a field is a single reference to a resource. -/
def Field.isReference (f : Field) : Bool :=
  f.isSingularString && f.resourceReference

/-- The field paths, with dots, that are part of the path of some binding. -/
def Method.pathParameters (m : Method) : List String :=
  m.bindings.flatMap fun b => b.template.vars.map Variable.dotted

/-- The place of a candidate among the others. -/
def ResourceName.rank (c : ResourceName) : Nat :=
  2 * c.isNested.toNat + (!c.isPathParameter).toNat

namespace Api

/-- The field paths of the references that a field of a request leads to. A message that is not
declared is noted. -/
def referencePathsOf (api : Api) (f : Field) : Noted (List (List String)) :=
  if f.isReference then return [[f.name]]
  else if f.isSingularMessage then
    match api.message? f.typeRef with
    | some inner => return (inner.fields.filter (·.isReference)).map fun g => [f.name, g.name]
    | none => do
      Noted.warn (.missingType f.typeRef f.id)
      return []
  else return []

/-- The field paths of all references in a request, in the order of declaration. -/
def referencePaths (api : Api) (input : Message) : Noted (List (List String)) := do
  return (← input.fields.mapM api.referencePathsOf).flatten

variable [Speller]

/-- The candidate for a field path, if the path can be followed. -/
def resourceName? (api : Api) (m : Method) (input : Message) (path : List String) :
    Option ResourceName :=
  match api.accessor input path with
  | .ok accessor =>
    some ⟨path, accessor, 1 < path.length, Text.join "." path ∈ m.pathParameters⟩
  | .error _ => none

/-- The candidates for the name of the resource that a method is about. -/
def resourceNames (api : Api) (m : Method) (input : Message) : Noted (List ResourceName) := do
  let candidates := (← api.referencePaths input).filterMap (api.resourceName? m input)
  return candidates.mergeSort fun a b => a.rank ≤ b.rank

end Api

end ApiAnnotator
