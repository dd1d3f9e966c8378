import ApiAnnotator.Table

/-!
# Feature gates

A type is compiled only if the features that it is gated on are enabled: any of them, or all of
them. Without features there is no gate.
-/

namespace ApiAnnotator

/-- How many of the listed features have to be enabled. -/
inductive GateOperator where
  | any
  | all
  deriving DecidableEq

/-- The name of an operator. -/
def GateOperator.name : GateOperator → String
  | any => "any"
  | all => "all"

/-- The features that a type is gated on. -/
structure FeatureGates where
  features : Names := ∅
  operator : GateOperator := .any
  deriving DecidableEq

namespace FeatureGates

/-- The gates with one more feature. -/
def add (g : FeatureGates) (feature : String) : FeatureGates :=
  { g with features := g.features.insert feature }

/-- Whether there is no gate. -/
def isEmpty (g : FeatureGates) : Bool :=
  g.features.isEmpty

/-- Whether a type with these gates is compiled when exactly the features in `enabled` are. -/
def holds (g : FeatureGates) (enabled : String → Bool) : Bool :=
  g.isEmpty ||
    match g.operator with
    | .any => g.features.toList.any enabled
    | .all => g.features.toList.all enabled

/-- The condition under which a type with these gates is compiled, if there is one. -/
def predicate? (g : FeatureGates) : Option String :=
  if g.isEmpty then none
  else
    let conditions := g.features.toList.map fun feature => "feature = \"" ++ feature ++ "\""
    some (g.operator.name ++ "(" ++ ", ".intercalate conditions ++ ")")

/-- The gates as JSON. -/
def toJson (g : FeatureGates) : Json :=
  .obj [("features", .texts g.features.toList), ("operator", .str g.operator.name)]

end FeatureGates

end ApiAnnotator
