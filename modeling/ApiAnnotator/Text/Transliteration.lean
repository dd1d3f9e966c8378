/-!
# Transliteration

Names may be written in any script, identifiers only in ASCII. Each character is replaced by an
ASCII spelling of its own, whatever stands around it.

How the scripts of the world are spelled is not a matter of names, so it is left to a speller. Two
facts are known about it and no more: its spellings are ASCII, and an ASCII character is its own
spelling.

## Main definitions

* `Speller` — what spells characters in ASCII.
* `transliterate` — a text in ASCII.

## Main statements

* `transliterate_of_ascii` — transliteration leaves ASCII text unchanged.
-/

namespace ApiAnnotator

/-- The characters of the seven-bit code. -/
def Text.isAscii (c : Char) : Bool :=
  c.toNat < 128

/-- What spells characters in ASCII. The spelling of a character of another script is up to the
speller, and may be empty. -/
class Speller where
  /-- The ASCII spelling of a character. -/
  spell : Char → List Char
  /-- Spellings are ASCII. -/
  isAscii_of_mem_spell {c d : Char} (h : d ∈ spell c) : Text.isAscii d = true
  /-- An ASCII character is its own spelling. -/
  spell_of_isAscii {c : Char} (h : Text.isAscii c = true) : spell c = [c]

namespace Text

variable [Speller]

/-- The text with every character replaced by its ASCII spelling. -/
def transliterate (cs : List Char) : List Char :=
  cs.flatMap Speller.spell

/-- **Transliteration leaves ASCII text unchanged.** -/
theorem transliterate_of_ascii {cs : List Char} (h : ∀ c ∈ cs, isAscii c = true) :
    transliterate cs = cs := by
  induction cs with
  | nil => rfl
  | cons c rest ih =>
    simp only [transliterate, List.flatMap_cons] at ih ⊢
    rw [Speller.spell_of_isAscii (h c (by simp)), ih fun d hd => h d (by simp [hd])]
    rfl

end Text

end ApiAnnotator
