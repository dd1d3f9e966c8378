import ApiAnnotator.Text.Pieces

/-!
# Blank characters

The characters of the Unicode property `White_Space`, and the cuts that remove them from the ends of
a text. The property has more members than the six blanks of ASCII: the next-line control, the
no-break space, the typographic spaces and the two separators belong to it, while the zero-width
characters do not.

## Main definitions

* `isBlank` — membership in `White_Space`.
* `trimEnd`, `trim` — a text without blanks at its end, or at both ends.
* `trimmedParts` — the non-empty parts of a comma-separated list, each trimmed.
-/

namespace ApiAnnotator.Text

/-- The members of `White_Space`. -/
def isBlank (c : Char) : Bool :=
  let n := c.toNat
  (9 ≤ n && n ≤ 13) || n == 0x20 || n == 0x85 || n == 0xA0 || n == 0x1680 ||
    (0x2000 ≤ n && n ≤ 0x200A) || n == 0x2028 || n == 0x2029 || n == 0x202F || n == 0x205F ||
    n == 0x3000

/-- The characters without the blanks at the end. -/
def dropBlanksEnd (cs : List Char) : List Char :=
  (cs.reverse.dropWhile isBlank).reverse

/-- The text without the blanks at its end. -/
def trimEnd (s : String) : String :=
  String.ofList (dropBlanksEnd s.toList)

/-- The text without the blanks at both ends. -/
def trim (s : String) : String :=
  String.ofList (dropBlanksEnd (s.toList.dropWhile isBlank))

/-- The entries of a comma-separated list, each without surrounding blanks; empty entries do not
count. -/
def trimmedParts (s : String) : List String :=
  ((splitAll ',' s).map trim).filter (· ≠ "")

end ApiAnnotator.Text
