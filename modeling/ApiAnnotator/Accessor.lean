import ApiAnnotator.Identifier.Basic
import ApiAnnotator.Model.Lookup

/-!
# Accessors

An accessor is an expression that reads a field of a request, which may lie inside of other
messages. It starts from the request as an optional value and goes through one hop for each name of
the field path, so that a message that is absent on the way makes the whole expression absent.
Nothing is copied or moved.

## Main definitions

* `hop` — the step from a message to one of its fields.
* `Api.hops` — the steps along a field path.
* `Api.accessor` — the whole expression.
-/

namespace ApiAnnotator

/-- Why a field path leads nowhere. -/
inductive AccessorError where
  | emptyPath
  | unknownField (field messageId : String)
  | notAMessage (field : String)
  | missingMessage (id : String)
  deriving DecidableEq

/-- The wording of an accessor error. -/
def AccessorError.message : AccessorError → String
  | .emptyPath => "empty field path"
  | .unknownField field messageId => s!"no field '{field}' in '{messageId}'"
  | .notAMessage field => s!"field '{field}' is not a singular message"
  | .missingMessage id => s!"unknown message '{id}'"

variable [Speller]

/-- The step from a message to a field: through the getter of a oneof member, into the optional
value of a field that can be absent, or to the field itself. -/
def hop (f : Field) : String :=
  let name := Identifier.fieldName f.name
  if f.oneof.isSome then ".and_then(|m| m." ++ name ++ "())"
  else if f.optional || f.isSingularMessage then ".and_then(|m| m." ++ name ++ ".as_ref())"
  else ".map(|m| &m." ++ name ++ ")"

/-- The step to the last field of a path, which gives a single text as a text slice. -/
def lastHop (f : Field) : String :=
  if f.isSingularString then hop f ++ ".map(|s| s.as_str())" else hop f

/-- The expression that accessors start from. -/
def accessorRoot : String := "Some(&req)"

namespace Api

/-- The field of a message that a field path goes through. -/
def fieldOf (m : Message) (name : String) : Except AccessorError Field :=
  match m.field? name with
  | some f => .ok f
  | none => .error (.unknownField name m.id)

/-- The message that a field path goes on in after a field. -/
def messageOf (api : Api) (name : String) (f : Field) : Except AccessorError Message :=
  if f.isSingularMessage then
    match api.message? f.typeRef with
    | some m => .ok m
    | none => .error (.missingMessage f.typeRef)
  else .error (.notAMessage name)

/-- The steps along a field path that starts in a message. -/
def hops (api : Api) (m : Message) : List String → Except AccessorError String
  | [] => .error .emptyPath
  | [name] => do return lastHop (← fieldOf m name)
  | name :: rest => do
    let f ← fieldOf m name
    let next ← api.messageOf name f
    return hop f ++ (← api.hops next rest)

/-- The expression that reads the field at the end of a field path. -/
def accessor (api : Api) (root : Message) (path : List String) : Except AccessorError String := do
  return accessorRoot ++ (← api.hops root path)

end Api

end ApiAnnotator
