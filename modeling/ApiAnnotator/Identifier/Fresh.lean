/-!
# Fresh names

A name that is taken gets a number: `Book`, `Book2`, `Book3` and so on. Of any `n + 1` numbered
names at most `n` can be among `n` taken ones, so the search among the first `n + 1` numbers always
finds one.
-/

namespace ApiAnnotator.Identifier

/-- The name with a number at its end. -/
def numbered (base : String) (i : Nat) : String :=
  base ++ toString i

/-- The base name if it is free, otherwise the base name with the least number from two on that
makes it free. -/
def fresh (base : String) (taken : List String) : String :=
  if base ∈ taken then
    match (List.range' 2 (taken.length + 1)).find? (fun i => numbered base i ∉ taken) with
    | some i => numbered base i
    | none => base
  else base

/-- Each name made fresh against the taken names and the names before it. -/
def freshAll (taken : List String) : List String → List String
  | [] => []
  | name :: names =>
    let result := fresh name taken
    result :: freshAll (result :: taken) names

end ApiAnnotator.Identifier
