import ApiAnnotator.Annotated.Services
import ApiAnnotator.Model.Usage

/-!
# Gating types

Each kept service has a feature. A type that a service needs is gated on its feature, so that with a
part of the features only the types that their services need are compiled. A type that no service
needs is gated on all features together.

A service needs the types of its requests and responses and all that they use. Basic types are not
gated.

## Main definitions

* `Need` — the feature of a service with the types that it needs.
* `gatesOf` — the gates of a type.
* `gateMessages`, `gateEnums` — the tables with their gates.
-/

namespace ApiAnnotator

/-- The feature of a service and the types that the service needs. -/
structure Need where
  feature : String
  types : List String

/-- What a kept service needs. -/
def Api.need (api : Api) (r : RetainedService) : Need :=
  ⟨r.feature, api.usedBy r.seeds⟩

/-- The gates of a type that no service needs. -/
def allGates (needs : List Need) : FeatureGates :=
  ⟨.ofList (needs.map (·.feature)), .all⟩

/-- The gates of a type. -/
def gatesOf (needs : List Need) (id : String) : FeatureGates :=
  match needs.filter (id ∈ ·.types) with
  | [] => allGates needs
  | users => ⟨.ofList (users.map (·.feature)), .any⟩

/-- The messages with their gates. -/
def gateMessages (needs : List Need) (messages : Table AnnotatedMessage) : Table AnnotatedMessage :=
  messages.map fun id m => if m.basic then m else { m with featureGates := gatesOf needs id }

/-- The enums with their gates. An ID that is also that of a message stands for the message when
services are asked for what they need. -/
def gateEnums (needs : List Need) (messages : Table AnnotatedMessage)
    (enums : Table AnnotatedEnum) :
    Table AnnotatedEnum :=
  enums.map fun id e =>
    if e.basic then e
    else if (messages[id]?).any (!·.basic) then { e with featureGates := allGates needs }
    else { e with featureGates := gatesOf needs id }

end ApiAnnotator
