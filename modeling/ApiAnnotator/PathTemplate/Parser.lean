import ApiAnnotator.PathTemplate.Basic

/-!
# Reading path templates

A template is read in three cuts. The verb is what follows a colon in the last segment, outside of
variables. Slashes outside of variables separate the segments. Inside a variable, an equals sign
separates the field path from the pieces, dots separate the names of the field path, and slashes the
pieces.

Problems with braces are reported with their position, counted in bytes from the start of the
template.

## Main definitions

* `PathTemplate.Fault` — what can be wrong with a template; `ParseError` adds the template.
* `splitVerb`, `splitSegments`, `parseSegment` — the three cuts.
* `PathTemplate.parse` — reads a template.
-/

namespace ApiAnnotator

open Text

/-- What can be wrong with a path template. -/
inductive PathTemplate.Fault where
  | missingLeadingSlash
  | unclosedBrace (position : Nat)
  | unmatchedClosingBrace (position : Nat)
  | nestedBraces (position : Nat)
  | emptyVariable
  | emptySegment
  | unboundWildcard (segment : String)
  deriving DecidableEq

/-- A template that cannot be read, and why. -/
structure PathTemplate.ParseError where
  template : String
  fault : PathTemplate.Fault
  deriving DecidableEq

/-- The wording of a template error. -/
def PathTemplate.ParseError.message (e : PathTemplate.ParseError) : String :=
  let shown := "'" ++ e.template ++ "'"
  match e.fault with
  | .missingLeadingSlash => "path template " ++ shown ++ " must start with '/'"
  | .unclosedBrace position => s!"unclosed '\x7b' at position {position} in " ++ shown
  | .unmatchedClosingBrace position => s!"unmatched '\x7d' at position {position} in " ++ shown
  | .nestedBraces position => s!"nested '\x7b' at position {position} in " ++ shown
  | .emptyVariable => "empty variable in " ++ shown
  | .emptySegment => "empty segment in " ++ shown
  | .unboundWildcard segment =>
    "wildcard '" ++ segment ++ "' outside a variable in " ++ shown

namespace PathTemplate

/-- Whether a character may stand in a verb: a slash, a brace or a further colon ends it to the
left. -/
def isVerbChar (c : Char) : Bool :=
  c != ':' && c != '/' && c != '\x7d'

/-- The path and the verb after the last colon, if that colon stands in the last segment and outside
of variables. -/
def splitVerb (cs : List Char) : List Char × Option (List Char) :=
  match cs.reverse.span isVerbChar with
  | (verb, ':' :: path) => (path.reverse, some verb.reverse)
  | _ => (cs, none)

/-- The segments between slashes outside of variables. `opened` is the position of the brace that is
open, and `position` that of the first character. -/
def splitSegments (opened : Option Nat) (position : Nat) :
    List Char → Except Fault (List (List Char))
  | [] =>
    match opened with
    | some brace => .error (.unclosedBrace brace)
    | none => .ok [[]]
  | c :: rest =>
    let next := position + c.utf8Size
    if c = '\x7b' then
      if opened.isSome then .error (.nestedBraces position)
      else extendFirst c <$> splitSegments (some position) next rest
    else if c = '\x7d' then
      if opened.isNone then .error (.unmatchedClosingBrace position)
      else extendFirst c <$> splitSegments none next rest
    else if c = '/' ∧ opened = none then
      ([] :: ·) <$> splitSegments none next rest
    else extendFirst c <$> splitSegments opened next rest

/-- The position at which one text first occurs in another. -/
def findOffset (needle : List Char) : List Char → Option Nat
  | [] => if needle.isEmpty then some 0 else none
  | c :: rest =>
    if needle.isPrefixOf (c :: rest) then some 0
    else (findOffset needle rest).map (· + c.utf8Size)

/-- The inside of a variable segment, which ends with a brace. -/
def dropClosingBrace? (cs : List Char) : Option (List Char) :=
  if cs.getLast? = some '\x7d' then some cs.dropLast else none

/-- Texts that character lists stand for. -/
def strings (parts : List (List Char)) : List String :=
  parts.map String.ofList

/-- Reads the inside of a variable. -/
def parseVariable (inside : List Char) : Except Fault Variable :=
  let (path, pieces) := (splitOnce '=' inside).getD (inside, wildcard.toList)
  if path = [] ∨ pieces = [] then .error .emptyVariable
  else if [] ∈ pieces.splitOn '/' then .error .emptySegment
  else .ok ⟨strings (path.splitOn '.'), strings (pieces.splitOn '/')⟩

/-- Reads one segment. A variable has to fill its segment; the position of one that does not is
where the segment first occurs in the template. -/
def parseSegment (template : List Char) : List Char → Except Fault Segment
  | [] => .error .emptySegment
  | '\x7b' :: rest =>
    match dropClosingBrace? rest with
    | some inside => .variable <$> parseVariable inside
    | none => .error (.unclosedBrace ((findOffset ('\x7b' :: rest) template).getD 0))
  | text =>
    if text = wildcard.toList ∨ text = deepWildcard.toList then
      .error (.unboundWildcard (String.ofList text))
    else .ok (.literal (String.ofList text))

/-- Reads the characters of a template. -/
def parseChars (template : List Char) : Except Fault PathTemplate :=
  match template with
  | '/' :: rest => do
    let (path, verb) := splitVerb rest
    let parts ← splitSegments none 1 path
    let segments ← parts.mapM (parseSegment template)
    return ⟨segments, verb.map String.ofList⟩
  | _ => .error .missingLeadingSlash

/-- Reads a template. -/
def parse (template : String) : Except ParseError PathTemplate :=
  (parseChars template.toList).mapError fun fault => ⟨template, fault⟩

end PathTemplate

end ApiAnnotator
