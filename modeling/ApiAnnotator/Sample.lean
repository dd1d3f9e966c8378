import ApiAnnotator.Model.Basic

/-!
# The sample field of a oneof

Samples set one member of a oneof. A member that is not deprecated is preferred, then one that is no
map, then one that is not repeated, then a message. Of members that are equally good the first one
is taken.
-/

namespace ApiAnnotator

/-- How well a field serves as a sample: each criterion weighs more than all that follow it. -/
def Field.merit (f : Field) : Nat :=
  8 * (!f.deprecated).toNat + 4 * (!f.map).toNat + 2 * (!f.repeated).toNat +
    (f.kind = .message : Bool).toNat

/-- The better of two fields; the first one unless the second one is strictly better. -/
def betterField : Option Field → Field → Option Field
  | some best, f => if best.merit < f.merit then some f else some best
  | none, f => some f

/-- The first field that no other field is better than. -/
def bestField? (fields : List Field) : Option Field :=
  fields.foldl betterField none

end ApiAnnotator
