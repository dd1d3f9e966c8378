import ApiAnnotator.Text.Width.Classes

/-!
# Display width

How many columns a text takes up on a screen. Most characters take one. The characters of the East
Asian scripts and the pictographs, which Unicode calls wide or full-width, take two, and marks that
combine with the character before them and characters that are never shown take none.

Some characters are drawn together: a selector makes the character before it an emoji or a text, a
joiner makes one picture of several emoji, and a few scripts have ligatures. So a text is measured
from its end, and what a character adds depends on what follows it.

## Main definitions

* `Width.Follower` — what the text from some place on begins with, as far as the character before it
  can be drawn together with it.
* `Width.Context` — a follower, and the selector that may stand in front of it.
* `Width.Context.before` — the columns that a character adds in front of a context.
* `width` — the columns of a text.
-/

namespace ApiAnnotator.Text

namespace Width

/-- The last part of a ligature. -/
inductive Ligature where
  | hebrewLamed
  | bugineseYa
  | bugineseVowelAndYa
  | tifinaghConsonant
  | tifinaghJoinerAndConsonant
  | lisuTone
  | oldTurkicI
  | khmerLetter

/-- What a text begins with. -/
inductive Follower where
  | ordinary
  | lineFeed
  | emoji
  | modifier
  /-- Regional indicators: one, or several. -/
  | regional (several : Bool)
  /-- A joiner before an emoji. -/
  | joinedEmoji
  /-- A keycap before a joined emoji. -/
  | joinedKeycap
  /-- One regional indicator before a joined emoji. -/
  | joinedRegional
  /-- Two or more regional indicators before a joined emoji. -/
  | joinedRegionals (even : Bool)
  /-- The end of a flag's tags before a joined emoji, with so many letters and digits. -/
  | joinedTags (letters digits : Nat)
  | arabicAlef
  /-- The last part of a ligature, and whether a joiner stands before it. -/
  | ligature (part : Ligature) (joined : Bool)
  | kiratRaiE
  | kiratRaiAi

/-- How a selector asks for the character before it to be shown. -/
inductive Presentation where
  | emoji
  | text
  deriving DecidableEq

/-- What a text begins with: a follower, and the selector that may stand in front of it. -/
structure Context where
  follower : Follower
  selector : Option Presentation := none

/-- Whether a character has a code point from `first` to `last`. -/
def isFrom (first last : Nat) (c : Char) : Bool :=
  inRanges [(first, last)] c

/-- Whether a character has the given code point. -/
def isAt (code : Nat) (c : Char) : Bool :=
  c.toNat == code

/-- Whether a character joins what stands on its two sides. -/
def isJoiner : Char → Bool := isAt 0x200D

/-- Whether a character is a letter of a flag. -/
def isRegional : Char → Bool := isFrom 0x1F1E6 0x1F1FF

/-- Whether a character modifies the skin tone of the one before it. -/
def isModifier : Char → Bool := isFrom 0x1F3FB 0x1F3FF

/-- Whether a character is a Tifinagh consonant. -/
def isTifinagh : Char → Bool := inRanges [(0x2D31, 0x2D65), (0x2D6F, 0x2D6F)]

/-- Whether a character is a mark without a column that a ligature passes over. -/
def isPassedOver : Char → Bool :=
  inRanges [(0x34F, 0x34F), (0x17B4, 0x17B5), (0x180B, 0x180D), (0x180F, 0x180F), (0xFE00, 0xFE0F),
    (0xE0100, 0xE01EF)]

/-- Whether a character is an Arabic alef. -/
def isAlef : Char → Bool :=
  inRanges [(0x622, 0x623), (0x625, 0x625), (0x627, 0x627), (0x671, 0x673), (0x675, 0x675),
    (0x773, 0x774), (0x870, 0x882)]

/-- Whether a character is an Arabic lam. -/
def isLam : Char → Bool :=
  inRanges [(0x644, 0x644), (0x6B5, 0x6B8), (0x76A, 0x76A), (0x8A6, 0x8A6), (0x8C7, 0x8C7)]

/-- Whether a character is a Khmer letter that can be written below another one. -/
def isKhmerLetter : Char → Bool :=
  inRanges [(0x1780, 0x1782), (0x1784, 0x1787), (0x1789, 0x178C), (0x178E, 0x1793),
    (0x1795, 0x1798), (0x179B, 0x179D), (0x17A0, 0x17A0), (0x17A2, 0x17A2), (0x17A7, 0x17A7),
    (0x17AB, 0x17AC), (0x17AF, 0x17AF)]

/-- The ligature that ends with a character. -/
def Ligature.of? (c : Char) : Option Ligature :=
  if isAt 0x5DC c then some .hebrewLamed
  else if isAt 0x1A10 c then some .bugineseYa
  else if isTifinagh c then some .tifinaghConsonant
  else if isFrom 0xA4FC 0xA4FD c then some .lisuTone
  else if isAt 0x10C03 c then some .oldTurkicI
  else if isKhmerLetter c then some .khmerLetter
  else none

/-- The columns of a character that stands alone. The controls take one like any other character,
and two signs of Khmer stand for words and are wider than letters. -/
def columns (c : Char) : Nat :=
  if c.toNat ≤ 0xA0 then 1
  else if isAt 0x17A4 c then 2
  else if isAt 0x17D8 c then 3
  else if isZeroWidth c then 0
  else if isWide c then 2
  else 1

/-- What a text begins with whose first character stands alone. -/
def Follower.of (c : Char) : Follower :=
  if c = '\n' then .lineFeed
  else if isModifier c then .modifier
  else if isRegional c then .regional false
  else if isEmoji c then .emoji
  else if isAlef c then .arabicAlef
  else if isAt 0x16D67 c then .kiratRaiE
  else if isAt 0x16D68 c then .kiratRaiAi
  else match Ligature.of? c with
    | some part => .ligature part false
    | none => .ordinary

/-- The columns that a character adds as the first part of a ligature, and the new follower. -/
def Ligature.join? (c : Char) (joined : Bool) : Ligature → Option (Int × Follower)
  | hebrewLamed => if joined && isAt 0x5D0 c then some (0, .ordinary) else none
  | bugineseYa =>
    if joined && isAt 0x1A17 c then some (0, .ligature .bugineseVowelAndYa true) else none
  | bugineseVowelAndYa => if isAt 0x1A15 c then some (0, .ordinary) else none
  | tifinaghConsonant =>
    if isAt 0x2D7F c then some (1, .ligature .tifinaghJoinerAndConsonant true)
    else if joined && isTifinagh c then some (0, .ordinary)
    else none
  | tifinaghJoinerAndConsonant => if isTifinagh c then some (-1, .ordinary) else none
  | lisuTone => if isFrom 0xA4F8 0xA4FB c then some (0, .ordinary) else none
  | oldTurkicI => if joined && isAt 0x10C32 c then some (0, .ordinary) else none
  | khmerLetter => if isAt 0x17D2 c then some (-1, .ordinary) else none

/-- The columns that a character adds when it is drawn together with its follower, and the follower
that the two of them are. -/
def Follower.join? (c : Char) : Follower → Option (Int × Follower)
  | ordinary => none
  | lineFeed => if c = '\r' then some (0, .ordinary) else none
  | emoji => if isJoiner c then some (0, .joinedEmoji) else none
  | modifier =>
    if isModifierBase c then some (0, .emoji)
    else if isJoiner c then some (0, .joinedEmoji)
    else none
  | regional several =>
    if isRegional c then some (1, .regional true)
    else if several && isJoiner c then some (0, .joinedEmoji)
    else none
  | joinedEmoji =>
    if isAt 0x20E3 c then some (0, .joinedKeycap)
    else if isRegional c then some (1, .joinedRegional)
    else if isModifier c then some (0, .modifier)
    else if isAt 0xE007F c then some (0, .joinedTags 0 0)
    else if isEmoji c then some (0, .emoji)
    else none
  | joinedKeycap => none
  | joinedRegional => if isRegional c then some (-1, .joinedRegionals true) else none
  | joinedRegionals even =>
    if isRegional c then some (if even then 3 else -1, .joinedRegionals !even)
    else if isJoiner c then some (0, .joinedEmoji)
    else none
  | joinedTags letters digits =>
    if isFrom 0xE0061 0xE007A c && digits == 0 && letters < 6 then
      some (0, .joinedTags (letters + 1) 0)
    else if isFrom 0xE0030 0xE0039 c && letters < 5 && digits < 3 then
      some (0, .joinedTags letters (digits + 1))
    else if isAt 0x1F3F4 c && (digits == 3 || digits == 0 && 3 ≤ letters) then some (0, .emoji)
    else none
  | arabicAlef =>
    if isLam c then some (0, .ordinary)
    else if isTransparent c then some (0, .arabicAlef)
    else none
  | ligature part joined =>
    if isJoiner c then some (0, .ligature part true)
    else if isPassedOver c then some (0, .ligature part joined)
    else part.join? c joined
  | kiratRaiE =>
    if isAt 0x16D63 c || isAt 0x16D69 c then some (0, .ordinary)
    else if isAt 0x16D67 c then some (0, .kiratRaiAi)
    else if isAt 0x16D68 c then some (1, .kiratRaiE)
    else none
  | kiratRaiAi => if isAt 0x16D63 c then some (0, .ordinary) else none

/-- Whether letters before a selector can still be drawn together with what follows it. -/
def Follower.isScript : Follower → Bool
  | arabicAlef | ligature .. => true
  | _ => false

/-- Whether what follows is joined to an emoji. -/
def Follower.isJoined : Follower → Bool
  | joinedEmoji | joinedKeycap => true
  | _ => false

namespace Context

/-- What a character without use for the selector can be drawn together with. -/
def neighbour (next : Context) : Follower :=
  if next.selector.isNone || next.follower.isScript then next.follower else .ordinary

/-- The context after a selector. -/
def select (next : Context) (selector : Presentation) : Context :=
  let follower := next.neighbour
  { follower := if follower.isScript || selector = .emoji && follower.isJoined then follower
      else .ordinary
    selector }

/-- The columns that a character adds in front of a text, and the new beginning of the text. -/
def before (c : Char) (next : Context) : Int × Context :=
  if next.selector = some .emoji && isEmojiOnDemand c then
    (if next.follower.isJoined then 0 else 2, ⟨.emoji, none⟩)
  else if next.selector = some .text && isTextOnDemand c then (1, ⟨.ordinary, none⟩)
  else if isAt 0xFE0F c then (0, next.select .emoji)
  else if isAt 0xFE0E c then (0, next.select .text)
  else match next.neighbour.join? c with
    | some (added, follower) => (added, ⟨follower, none⟩)
    | none => (columns c, ⟨.of c, none⟩)

end Context

end Width

/-- The columns that a text takes up. -/
def width (s : String) : Nat :=
  (s.toList.foldr (fun c (total, next) =>
    let (added, context) := Width.Context.before c next
    (total + added, context)) ((0 : Int), ⟨.ordinary, none⟩)).1.toNat

end ApiAnnotator.Text
