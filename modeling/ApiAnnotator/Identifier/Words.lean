import ApiAnnotator.Text.Pieces

/-!
# Words of a name

A name consists of words. Everything that is neither a letter nor a digit separates words, and
inside a run of letters and digits a change of case may start a new one: `displayName` has the words
`display` and `Name`, and `HTTPServer` has `HTTP` and `Server`. Whether two neighbours are cut apart
is decided by them and the one character that follows, so a word list is built in one pass from the
right.

## Main definitions

* `wordsBy cut` — the words under a rule for cuts between neighbours.
* `runs` — no further cuts: the maximal runs of letters and digits.
* `splitWords` — cuts at changes of case.
* `capitalize` — a word with its first letter upper case and all others lower case.
-/

namespace ApiAnnotator.Identifier

open Text

/-- The runs of letters and digits of a text, cut further between neighbours `c` and `d` wherever
`cut c d after` holds for the character `after` that follows them. -/
def wordsBy (cut : Char → Char → Option Char → Bool) : List Char → List (List Char)
  | [] => []
  | c :: rest =>
    if c.isAlphanum then
      match rest with
      | [] => [[c]]
      | d :: after =>
        if d.isAlphanum && !cut c d after.head? then extendFirst c (wordsBy cut rest)
        else [c] :: wordsBy cut rest
    else wordsBy cut rest

/-- The maximal runs of letters and digits. -/
def runs : List Char → List (List Char) :=
  wordsBy fun _ _ _ => false

/-- A new word starts at an upper-case letter that follows a lower-case letter or stands before
one. -/
def startsWord (c d : Char) (after : Option Char) : Bool :=
  d.isUpper && (c.isLower || after.any Char.isLower)

/-- The words of a name, cut at separators and at changes of case. -/
def splitWords : List Char → List (List Char) :=
  wordsBy startsWord

/-- The word with its first letter upper case and all others lower case. -/
def capitalize : List Char → List Char
  | [] => []
  | c :: rest => c.toUpper :: rest.map Char.toLower

end ApiAnnotator.Identifier
