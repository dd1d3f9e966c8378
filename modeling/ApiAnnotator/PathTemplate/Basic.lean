import ApiAnnotator.Text.Pieces

/-!
# Path templates

A path template describes the path of an HTTP request: `/v1/{parent=projects/*}/secrets:list` has a
literal segment, a variable segment bound to the request field `parent`, another literal segment,
and the custom verb `list`. The pieces of a variable are literals or the wildcards `*` and `**`; a
variable written without pieces binds a single `*`.

## Main definitions

* `Segment`, `Variable` — what stands between slashes.
* `PathTemplate.render` — the template in its written form.
* `PathTemplate.format` — the path with a placeholder for each variable.
* `PathTemplate.vars` — the variables in order.
-/

namespace ApiAnnotator

/-- A variable of a path template: the field it is bound to, as a path through nested messages, and
the pieces of the path that it takes. -/
structure Variable where
  fieldPath : List String
  pieces : List String
  deriving DecidableEq

/-- What stands between two slashes of a path template. -/
inductive Segment where
  | literal (text : String)
  | variable (v : Variable)
  deriving DecidableEq

/-- A path template. -/
structure PathTemplate where
  segments : List Segment
  verb : Option String
  deriving DecidableEq

/-- The wildcard for one piece of a path. -/
def wildcard : String := "*"

/-- The wildcard for any number of pieces of a path. -/
def deepWildcard : String := "**"

/-- The field path with dots between the names. -/
def Variable.dotted (v : Variable) : String :=
  Text.join "." v.fieldPath

/-- The variable in its written form, where a single wildcard is understood. -/
def Variable.render (v : Variable) : String :=
  if v.pieces = [wildcard] then "\x7b" ++ v.dotted ++ "\x7d"
  else "\x7b" ++ v.dotted ++ "=" ++ Text.join "/" v.pieces ++ "\x7d"

/-- The segment in its written form. -/
def Segment.render : Segment → String
  | .literal text => text
  | .variable v => v.render

/-- The segment with a placeholder in place of a variable. -/
def Segment.format : Segment → String
  | .literal text => text
  | .variable _ => "\x7b\x7d"

namespace PathTemplate

/-- The verb with the colon before it. -/
def verbText (t : PathTemplate) : String :=
  match t.verb with
  | some verb => ":" ++ verb
  | none => ""

/-- Each segment after a slash, and the verb. -/
def assemble (text : Segment → String) (t : PathTemplate) : String :=
  Text.join "" (t.segments.map fun segment => "/" ++ text segment) ++ t.verbText

/-- The template in its written form. -/
def render (t : PathTemplate) : String :=
  t.assemble Segment.render

/-- The path with a placeholder in place of each variable. -/
def format (t : PathTemplate) : String :=
  t.assemble Segment.format

/-- The variables of the template in order. -/
def vars (t : PathTemplate) : List Variable :=
  t.segments.filterMap fun
    | .variable v => some v
    | .literal _ => none

end PathTemplate

end ApiAnnotator
