import ApiAnnotator.Accessor
import ApiAnnotator.PathTemplate.Matcher
import ApiAnnotator.Routing.Verb
import ApiAnnotator.Warning

/-!
# Routes

A route is a binding of a method made ready for code generation: the path with placeholders, for
each placeholder the accessor of the field that goes into it and the pattern that its value has to
match, and the fields that are sent as query parameters because neither the path nor the body takes
them.

## Main definitions

* `Route`, `Substitution`, `QueryParameter` — the annotations of a binding.
* `Api.substitution` — the value of a placeholder.
* `queryParameters` — the fields left for the query.
* `Api.route` — the whole binding.
-/

namespace ApiAnnotator

/-- What goes into a placeholder of a path. -/
structure Substitution where
  fieldPath : String
  fieldAccessor : String
  template : List Matcher
  templateExpr : String
  deriving DecidableEq

/-- A field that is sent in the query. -/
structure QueryParameter where
  name : String
  fieldName : String
  isOptional : Bool
  isRepeated : Bool
  isStructured : Bool
  deriving DecidableEq

/-- A binding made ready for code generation. -/
structure Route where
  verb : String
  pathFormat : String
  substitutions : List Substitution
  queryParams : List QueryParameter
  hasBody : Bool
  queryParamsCanFail : Bool
  deriving DecidableEq

/-- The body that takes the whole request. -/
def wholeBody : String := "*"

variable [Speller]

/-- The fields of a request that neither the path nor the body takes. -/
def queryParameters (input : Message) (template : PathTemplate) (body : Option String) :
    List QueryParameter :=
  if body = some wholeBody then []
  else
    let inPath := template.vars.filterMap (·.fieldPath.head?)
    (input.fields.filter fun f => f.name ∉ inPath && body ≠ some f.name).map fun f =>
      { name := f.name
        fieldName := Identifier.fieldName f.name
        isOptional := f.optional || f.isSingularMessage
        isRepeated := f.repeated
        isStructured := f.kind = .message }

/-- The verb of a binding; one that no binding can use is noted and kept in capitals. -/
def Binding.verbName (methodId : String) (b : Binding) : Noted String :=
  match HttpVerb.parse? b.verb with
  | some verb => return verb.name
  | none => do
    Noted.warn (.unsupportedVerb methodId b.verb)
    return b.verb.toUpper

namespace Api

/-- The accessor of a variable; one that leads nowhere is noted and left empty. -/
def variableAccessor (api : Api) (methodId : String) (input : Message) (v : Variable) :
    Noted String :=
  match api.accessor input v.fieldPath with
  | .ok accessor => return accessor
  | .error e => do
    Noted.warn (.unresolvedFieldPath methodId v.dotted e.message)
    return ""

/-- What goes into the placeholder of a variable. -/
def substitution (api : Api) (methodId : String) (input : Message) (v : Variable) :
    Noted Substitution := do
  let accessor ← api.variableAccessor methodId input v
  let matchers := Matcher.compile v.pieces
  return ⟨v.dotted, accessor, matchers, Matcher.listExpression matchers⟩

/-- A binding made ready for code generation. -/
def route (api : Api) (methodId : String) (input : Message) (body : Option String) (b : Binding) :
    Noted Route := do
  let verb ← b.verbName methodId
  let substitutions ← b.template.vars.mapM (api.substitution methodId input)
  let queryParams := queryParameters input b.template body
  return {
    verb, substitutions, queryParams
    pathFormat := b.template.format
    hasBody := body.isSome
    queryParamsCanFail := queryParams.any (·.isStructured) }

end Api

end ApiAnnotator
