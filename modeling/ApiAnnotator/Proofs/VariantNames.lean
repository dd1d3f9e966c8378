import ApiAnnotator.Proofs.JoinedParts
import ApiAnnotator.Proofs.TypeNames
import ApiAnnotator.Proofs.WordCuts
import ApiAnnotator.Text.Spellings
import ApiAnnotator.Variant

/-!
# Names of variants without the repeated name

A variant is named by what follows the repeated name of its enum, unless that is nothing or starts
with a digit, for then the type name would have to be made up. But the question is put to the text
as it stands, while type names are made of the letters and digits that are left after
transliteration. A text such as `_2FA` starts with an underscore and passes, and then the underscore
is dropped and the digit comes first. So the repeated name is taken off in some cases in which a
type name has to be made up only because of that.

## Main definitions

* `letters` — the letters and digits that a type name is made of.
* `UsesFallback` — the type name of a name is made up, or has a letter in front of a digit.

## Main statements

* `map_toLower_typeStem` — a type name keeps all letters and digits, in order.
* `usesFallback_iff` — which names need a fallback.
* `variant_usesFallback_iff` — **when taking off the repeated name makes a fallback necessary**.
-/

namespace ApiAnnotator

namespace Identifier

open Text

/-! ## The letters and digits of a type name -/

theorem toLower_toUpper {c : Char} (h : c.isAlphanum = true) : c.toUpper.toLower = c.toLower :=
  of_isAlphanum (p := fun c => c.toUpper.toLower = c.toLower) (by decide) h

theorem isDigit_toLower {c : Char} (h : c.isAlphanum = true) : c.toLower.isDigit = c.isDigit :=
  of_isAlphanum (p := fun c => c.toLower.isDigit = c.isDigit) (by decide) h

/-- The letters and digits of a name, in small letters. -/
def letters [Speller] (name : List Char) : List Char :=
  ((transliterate (bare name)).filter Char.isAlphanum).map Char.toLower

theorem letters_of_all_isAscii [Speller] {name : List Char} (h : (bare name).all isAscii = true) :
    letters name = ((bare name).filter Char.isAlphanum).map Char.toLower := by
  rw [letters, transliterate_of_ascii (List.all_eq_true.1 h)]

theorem map_toLower_capitalize {word : List Char} (h : ∀ c ∈ word, c.isAlphanum = true) :
    (capitalize word).map Char.toLower = word.map Char.toLower := by
  cases word with
  | nil => rfl
  | cons c rest =>
      have hrest : (rest.map Char.toLower).map Char.toLower = rest.map Char.toLower := by
        rw [List.map_map]
        exact List.map_congr_left fun d hd => toLower_toLower (h d (List.mem_cons_of_mem c hd))
      rw [capitalize, List.map_cons, List.map_cons, hrest, toLower_toUpper (h c List.mem_cons_self)]

theorem map_toLower_pascalWords (text : List Char) :
    (pascalWords text).map Char.toLower = (text.filter Char.isAlphanum).map Char.toLower := by
  rw [← flatten_wordsBy startsWord, List.map_flatten, pascalWords, List.map_flatMap]
  refine congrArg List.flatten (List.map_congr_left fun word hword => ?_)
  exact map_toLower_capitalize fun c hc => isAlphanum_of_mem_wordsBy hword hc

theorem map_toLower_pascalChars (text : List Char) :
    (pascalChars text).map Char.toLower = (text.filter Char.isAlphanum).map Char.toLower := by
  unfold pascalChars
  dsimp only
  split
  · exact map_toLower_pascalWords text
  · -- the words in capitals are nothing but letters and digits
    have hall : (pascalWords text).filter Char.isAlphanum = pascalWords text :=
      List.filter_eq_self.2 fun c hc => isAlphanum_of_mem_pascalWords hc
    rw [map_toLower_pascalWords, hall, map_toLower_pascalWords]

theorem map_toLower_keepCase (text : List Char) :
    (keepCase text).map Char.toLower = (text.filter Char.isAlphanum).map Char.toLower := by
  unfold keepCase
  cases hkept : text.filter Char.isAlphanum with
  | nil => rfl
  | cons c rest =>
      have hc : c ∈ text.filter Char.isAlphanum := by simp [hkept]
      rw [List.map_cons, List.map_cons, toLower_toUpper (List.mem_filter.1 hc).2]

/-- **A type name keeps all letters and digits of a name**, in whatever way it finds the words. -/
theorem map_toLower_typeStem [Speller] (name : List Char) :
    (typeStem (bare name)).map Char.toLower = letters name := by
  unfold typeStem letters
  split
  · exact map_toLower_keepCase _
  · exact map_toLower_pascalChars _

/-! ## Fallbacks -/

/-- The type name of a name is not what is left of the name itself: all of it is made up, or a
letter is put in front of a digit. The suffix of a reserved name does not count. -/
def UsesFallback [Speller] (name : List Char) : Prop :=
  typeChars name ≠ avoidReserved (typeStem (bare name))

variable [Speller] {name more : List Char} {c : Char}

theorem typeStem_bare_eq_nil (h : letters name = []) : typeStem (bare name) = [] := by
  rwa [← map_toLower_typeStem, List.map_eq_nil_iff] at h

/-- A name without a letter or digit gets the name for all such names. -/
theorem typeChars_of_letters_eq_nil (h : letters name = []) :
    typeChars name = "Unnamed".toList := by
  simp [typeChars, typeStem_bare_eq_nil h]

/-- What becomes of a name with a letter or digit: a digit gets a letter in front of it. -/
theorem exists_stem_of_letters_eq_cons (h : letters name = c :: more) :
    ∃ d rest, d.toLower = c ∧ d.isDigit = c.isDigit ∧
      avoidReserved (typeStem (bare name)) = d :: rest ∧
      typeChars name = if c.isDigit then 'T' :: d :: rest else d :: rest := by
  rw [← map_toLower_typeStem] at h
  obtain ⟨d, tail, hstem, hd, -⟩ := List.map_eq_cons_iff.1 h
  obtain ⟨rest, hrest⟩ := exists_avoidReserved_cons d tail
  have halphanum : d.isAlphanum = true := isAlphanum_of_mem_typeStem (hstem ▸ List.mem_cons_self)
  have hdigit : d.isDigit = c.isDigit := by rw [← hd, isDigit_toLower halphanum]
  refine ⟨d, rest, hd, hdigit, by rw [hstem, hrest], ?_⟩
  rw [typeChars_of_typeStem_ne_nil (by simp [hstem]), hstem, hrest, guardDigit, hdigit]

/-- **A name needs a fallback** exactly if it has no letter or digit, or a digit first. -/
theorem usesFallback_iff :
    UsesFallback name ↔ ∀ c ∈ (letters name).head?, c.isDigit = true := by
  unfold UsesFallback
  cases hletters : letters name with
  | nil =>
      rw [typeChars_of_letters_eq_nil hletters, typeStem_bare_eq_nil hletters]
      exact iff_of_true (by decide) (by simp)
  | cons c more =>
      obtain ⟨d, rest, -, -, hstem, hchars⟩ := exists_stem_of_letters_eq_cons hletters
      rw [hchars, hstem]
      cases hdigit : c.isDigit <;> simp [hdigit]

end Identifier

/-! ## Taking off the repeated name -/

open Identifier

section Variants

variable [Speller] {enumName valueName rest : String}

/-- The repeated name is taken off where the rest looks as if it started a name. -/
theorem valueStem_append (h : startsName rest = true) :
    valueStem enumName (constName enumName ++ "_" ++ rest) = rest := by
  rw [valueStem, Text.afterPrefix?_eq_some_iff.2 rfl, Option.filter_some_pos h, Option.getD_some]

/-- Otherwise the value keeps its name. -/
theorem valueStem_eq_or (enumName valueName : String) :
    valueStem enumName valueName = valueName ∨ ∃ rest,
      valueName = constName enumName ++ "_" ++ rest ∧ startsName rest = true := by
  unfold valueStem
  cases hafter : Text.afterPrefix? (constName enumName ++ "_") valueName with
  | none => exact .inl rfl
  | some rest =>
      cases hrest : startsName rest with
      | false => exact .inl (by rw [Option.filter_some_neg hrest, Option.getD_none])
      | true => exact .inr ⟨rest, Text.afterPrefix?_eq_some_iff.1 hafter, hrest⟩

omit [Speller] in
theorem toList_toLower (s : String) : s.toLower.toList = s.toList.map Char.toLower :=
  String.toList_map

theorem toList_variantName : (variantName enumName valueName).toList =
    typeChars (valueStem enumName valueName).toLower.toList :=
  toList_typeName _

theorem variantName_eq_ofList : variantName enumName valueName =
    String.ofList (typeChars ((valueStem enumName valueName).toList.map Char.toLower)) := by
  rw [variantName, typeName, toList_toLower]

/-- **Taking off the repeated name makes a fallback necessary exactly if the rest looks as if it
started a name but its first letter or digit is a digit, or it has none.** This is for values whose
whole name needs no fallback; the variant is then unnamed or has a letter in front of the digit. -/
theorem variant_usesFallback_iff
    (h : ¬ UsesFallback valueName.toLower.toList) :
    (UsesFallback (valueStem enumName valueName).toLower.toList ↔
      ∃ rest, valueName = constName enumName ++ "_" ++ rest ∧ startsName rest = true ∧
        ∀ c ∈ (letters rest.toLower.toList).head?, c.isDigit = true) ∧
    ∀ rest, valueName = constName enumName ++ "_" ++ rest → startsName rest = true →
      (letters rest.toLower.toList = [] → variantName enumName valueName = "Unnamed") ∧
      ∀ c more, letters rest.toLower.toList = c :: more → c.isDigit = true →
        ∃ tail, (variantName enumName valueName).toList = 'T' :: c :: tail := by
  constructor
  · constructor
    · intro hfallback
      rcases valueStem_eq_or enumName valueName with hstem | ⟨rest, rfl, hrest⟩
      · exact absurd (hstem ▸ hfallback) h
      · rw [valueStem_append hrest] at hfallback
        exact ⟨rest, rfl, hrest, usesFallback_iff.1 hfallback⟩
    · rintro ⟨rest, rfl, hrest, hdigit⟩
      rw [valueStem_append hrest]
      exact usesFallback_iff.2 hdigit
  · rintro rest rfl hrest
    refine ⟨fun hnone => ?_, fun c more hletters hdigit => ?_⟩
    · rw [← String.toList_inj, toList_variantName, valueStem_append hrest]
      exact typeChars_of_letters_eq_nil hnone
    · obtain ⟨d, tail, hd, hsame, -, hchars⟩ := exists_stem_of_letters_eq_cons hletters
      obtain rfl : d = c := (toLower_of_isDigit (hsame.trans hdigit)).symm.trans hd
      rw [toList_variantName, valueStem_append hrest, hchars, if_pos hdigit]
      exact ⟨tail, rfl⟩

end Variants

/-- Behind the repeated name stands one more underscore, which does not count for the type name. -/
theorem variant_usesFallback_of_underscore :
    ¬ UsesFallback "STATE__2FA".toLower.toList ∧
      UsesFallback (valueStem "State" "STATE__2FA").toLower.toList ∧
      ∃ tail, (variantName "State" "STATE__2FA").toList = 'T' :: '2' :: tail := by
  have hletters : letters "STATE__2FA".toLower.toList = 's' :: "tate2fa".toList := by
    rw [toList_toLower, letters_of_all_isAscii (by decide)]
    decide
  have hrest : letters "_2FA".toLower.toList = '2' :: "fa".toList := by
    rw [toList_toLower, letters_of_all_isAscii (by decide)]
    decide
  have hwhole : ¬ UsesFallback "STATE__2FA".toLower.toList := by
    simp [usesFallback_iff, hletters]
  have hvalue : "STATE__2FA" = constName "State" ++ "_" ++ "_2FA" := by decide
  obtain ⟨hiff, hname⟩ := @variant_usesFallback_iff _ "State" "STATE__2FA" hwhole
  refine ⟨hwhole, hiff.2 ⟨"_2FA", hvalue, by decide, by simp [hrest]⟩, ?_⟩
  exact (hname "_2FA" hvalue (by decide)).2 '2' _ hrest (by decide)

end ApiAnnotator
