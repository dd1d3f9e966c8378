/-!
# JSON values

The values of the data format in which API models are read and annotated models are written. An
object is a list of members, so it keeps the order of its keys; numbers are integers as long as they
fit into 64 bits and floating-point numbers otherwise.
-/

namespace ApiAnnotator

/-- A JSON value. -/
inductive Json where
  | null
  | bool (b : Bool)
  | int (n : Int)
  | float (x : Float)
  | str (s : String)
  | arr (items : List Json)
  | obj (members : List (String × Json))
  deriving Inhabited

namespace Json

/-- The value of a key of an object. -/
def get? (key : String) : Json → Option Json
  | .obj members => members.lookup key
  | _ => none

/-- A list of texts. -/
def texts (items : List String) : Json :=
  .arr (items.map .str)

/-- The value, or `null` if there is none. -/
def ofOption (f : α → Json) : Option α → Json
  | some a => f a
  | none => .null

/-- A natural number. -/
def nat (n : Nat) : Json :=
  .int n

/-- Sets a key of a member list: a key that is there keeps its place and gets the new value. -/
def setMember (key : String) (value : Json) : List (String × Json) → List (String × Json)
  | [] => [(key, value)]
  | (k, v) :: rest => if k = key then (k, value) :: rest else (k, v) :: setMember key value rest

end Json

end ApiAnnotator
