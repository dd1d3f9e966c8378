import ApiAnnotator.Model.Basic

/-!
# HTTP verbs

The verbs that a binding can use. They are recognized in any case and written in capitals.
-/

namespace ApiAnnotator

/-- The verbs that a binding can use. -/
inductive HttpVerb where
  | get
  | post
  | put
  | patch
  | delete
  deriving DecidableEq

namespace HttpVerb

/-- The written form of a verb. -/
def name : HttpVerb → String
  | get => "GET"
  | post => "POST"
  | put => "PUT"
  | patch => "PATCH"
  | delete => "DELETE"

/-- All verbs. -/
def every : List HttpVerb :=
  [get, post, put, patch, delete]

/-- The verb that a text names in any case. -/
def parse? (s : String) : Option HttpVerb :=
  every.find? (·.name = s.toUpper)

/-- Whether sending the same request again makes no difference. -/
def isIdempotent : HttpVerb → Bool
  | post | patch => false
  | get | put | delete => true

end HttpVerb

/-- Whether a method with these bindings can be called again without making a difference. Verbs that
no binding can use do not count; without bindings nothing is known. -/
def bindingsIdempotent (bindings : List Binding) : Bool :=
  !bindings.isEmpty &&
    (bindings.filterMap fun b => HttpVerb.parse? b.verb).all HttpVerb.isIdempotent

end ApiAnnotator
