import ApiAnnotator.Json.Basic
import ApiAnnotator.PathTemplate.Basic
import ApiAnnotator.Text.Quoted

/-!
# Matchers

The pieces of a variable in the form in which generated code matches them against a path: literal
text, slashes included, and wildcards. Neighbouring literal text is one matcher. A deep wildcard at
the end of several pieces also matches if nothing is left, together with the slash before it, and is
told apart from the others.
-/

namespace ApiAnnotator

/-- A part of a pattern for paths. -/
inductive Matcher where
  | literal (text : String)
  | single
  | multi
  | trailing
  deriving DecidableEq

namespace Matcher

/-- The literal matcher of a text, if it has one. -/
def ofLiteral (text : String) : List Matcher :=
  if text = "" then [] else [.literal text]

/-- The matchers of pieces after the literal text `pending`. -/
def ofPieces (several : Bool) (pending : String) : List String → List Matcher
  | [] => ofLiteral pending
  | piece :: pieces =>
    let slash := if pieces.isEmpty then "" else "/"
    if piece = wildcard then
      ofLiteral pending ++ single :: ofPieces several slash pieces
    else if piece = deepWildcard then
      ofLiteral pending ++
        (if pieces.isEmpty && several then trailing else multi) :: ofPieces several slash pieces
    else ofPieces several (pending ++ piece ++ slash) pieces

/-- The matchers of the pieces of a variable. -/
def compile (pieces : List String) : List Matcher :=
  ofPieces (1 < pieces.length) "" pieces

/-- The matcher as JSON. -/
def toJson : Matcher → Json
  | .literal text => .obj [("kind", .str "literal"), ("value", .str text)]
  | .single => .obj [("kind", .str "single_wildcard")]
  | .multi => .obj [("kind", .str "multi_wildcard")]
  | .trailing => .obj [("kind", .str "trailing_multi_wildcard")]

/-- The matcher as an expression of generated code. -/
def expression : Matcher → String
  | .literal text => "Segment::Literal(" ++ Text.quoted text ++ ")"
  | .single => "Segment::SingleWildcard"
  | .multi => "Segment::MultiWildcard"
  | .trailing => "Segment::TrailingMultiWildcard"

/-- A list of matchers as an expression of generated code. -/
def listExpression (matchers : List Matcher) : String :=
  "&[" ++ Text.join ", " (matchers.map expression) ++ "]"

end Matcher

end ApiAnnotator
