import ApiAnnotator.Proofs.JoinedWords

/-!
# Names that are converted again

A converted name may meet the same conversion again, or another one. What each of them does depends
on the words of the name alone, and the forms that a conversion gives to them spell the same words:
the mark of a raw identifier, the underscore after `self` or in front of a digit and the hyphens of
a feature are all taken away when the name is sanitized.

So it is enough to say once what it means that a text spells the words of a name, and to show it of
each converted name. A converted name is in ASCII, whatever the speller makes of other scripts, so
spelling it once more changes nothing.

## Main definitions

* `snakeStem` — a name in `snake_case` before an empty name and a leading digit are looked at.
* `Spells` — the text has the words of the name.

## Main statements

* `Spells.snake_eq`, `Spells.fieldName_eq`, `Spells.featureName_eq` — a text converts as the name
  whose words it spells.
* `spells_snake`, `spells_fieldName`, `spells_featureName` — converted names spell the name.
* `conversions_settle` — **field, setter, constant and feature names are their own conversions**,
  and what is done to keywords makes no difference to them.
-/

namespace ApiAnnotator.Identifier

open Text

/-! ## Names in `snake_case` -/

variable [Speller]

/-- The words of a name in small letters, joined by underscores. -/
def snakeStem (name : List Char) : List Char :=
  recase Char.toLower (bare name)

theorem snakeChars_of_snakeStem_eq_nil {name : List Char} (h : snakeStem name = []) :
    snakeChars name = ['_'] := by
  unfold snakeStem recase at h
  simp [snakeChars, h]

theorem snakeChars_of_snakeStem_ne_nil {name : List Char} (h : snakeStem name ≠ []) :
    snakeChars name = guardDigit '_' (snakeStem name) := by
  unfold snakeStem recase at h ⊢
  unfold snakeChars
  split
  · contradiction
  · rfl

theorem isJoined_snakeStem {name : List Char} (h : snakeStem name ≠ []) :
    IsJoined (snakeStem name) :=
  isJoined_recase oneCase_toLower h

theorem sanitizeChars_snakeStem (name : List Char) :
    sanitizeChars (snakeStem name) = snakeStem name :=
  sanitizeChars_recase oneCase_toLower (bare name)

theorem sanitizeChars_snakeChars (name : List Char) :
    sanitizeChars (snakeChars name) = snakeStem name := by
  by_cases h : snakeStem name = []
  · rw [snakeChars_of_snakeStem_eq_nil h, h]
    exact sanitizeChars_underscore_cons []
  · rw [snakeChars_of_snakeStem_ne_nil h, sanitizeChars_guardDigit, sanitizeChars_snakeStem]

/-- Only the underscore of an empty name and the guard stand in front of the words. -/
theorem dropWhile_snakeChars (name : List Char) :
    (snakeChars name).dropWhile (· == '_') = snakeStem name := by
  by_cases h : snakeStem name = []
  · rw [snakeChars_of_snakeStem_eq_nil h, h]
    rfl
  · rw [snakeChars_of_snakeStem_ne_nil h]
    obtain ⟨c, rest, hstem, hc⟩ := (isJoined_snakeStem h).exists_head
    have hne : c ≠ '_' := ne_of_isAlphanum hc (by decide)
    rw [hstem, guardDigit]
    split <;> simp [hne]

/-! ## Texts that spell the words of a name -/

/-- The text has the words of the name, in small letters. -/
def Spells (text name : String) : Prop :=
  sanitizeChars (bare text.toList) = snakeStem name.toList

namespace Spells

variable {text name : String}

theorem snakeStem_eq (h : Spells text name) : snakeStem text.toList = snakeStem name.toList :=
  recase_of_sanitizeChars_eq oneCase_toLower h

theorem snakeChars_eq (h : Spells text name) :
    snakeChars text.toList = snakeChars name.toList := by
  by_cases hnil : snakeStem name.toList = []
  · rw [snakeChars_of_snakeStem_eq_nil hnil,
      snakeChars_of_snakeStem_eq_nil (h.snakeStem_eq.trans hnil)]
  · have hne : snakeStem text.toList ≠ [] := by rwa [h.snakeStem_eq]
    rw [snakeChars_of_snakeStem_ne_nil hnil, snakeChars_of_snakeStem_ne_nil hne, h.snakeStem_eq]

/-- **A text that spells the words of a name converts as the name does.** -/
theorem snake_eq (h : Spells text name) : snake text = snake name := by
  rw [snake, snake, h.snakeChars_eq]

theorem fieldName_eq (h : Spells text name) : fieldName text = fieldName name := by
  rw [fieldName, fieldName, h.snake_eq]

theorem featureName_eq (h : Spells text name) : featureName text = featureName name := by
  rw [featureName, featureName, h.snakeChars_eq]

end Spells

/-! ## What converted names spell -/

omit [Speller] in
/-- Without its first character no text is marked as a raw identifier. -/
theorem bare_of_not_mem {text : List Char} (h : '#' ∉ text) : bare text = text := by
  unfold bare
  split
  · simp at h
  · rfl

theorem hash_not_mem_snake (name : String) : '#' ∉ (snake name).toList := fun hmem =>
  absurd (of_mem_snake hmem) (by decide)

theorem spells_snake (name : String) : Spells (snake name) name := by
  rw [Spells, bare_of_not_mem (hash_not_mem_snake name), snake, String.toList_ofList]
  exact sanitizeChars_snakeChars name.toList

/-- The mark of a keyword and the underscore after `self` do not count. -/
theorem spells_fieldName (name : String) : Spells (fieldName name) name := by
  have hsnake : sanitizeChars (snake name).toList = snakeStem name.toList := by
    rw [snake, String.toList_ofList, sanitizeChars_snakeChars]
  unfold fieldName
  by_cases hself : snake name = "self"
  · have hunderscore : sanitizeChars (bare "self_".toList) = sanitizeChars "self".toList := by
      rw [sanitizeChars_of_all_isAscii (by decide), sanitizeChars_of_all_isAscii (by decide)]
      decide
    rw [hself] at hsnake
    simpa [hself, Spells] using hunderscore.trans hsnake
  · by_cases hkeyword : snake name ∈ keywords
    · have hbare : bare ("r#" ++ snake name).toList = (snake name).toList := by simp [bare]
      simpa only [hself, hkeyword, if_false, if_true, Spells, hbare] using hsnake
    · simpa only [hself, hkeyword, if_false] using spells_snake name

/-- Hyphens separate words as underscores do. -/
theorem spells_featureName (name : String) : Spells (featureName name) name := by
  let hyphen (c : Char) : Char := if c = '_' then '-' else c
  have htext : (featureName name).toList = (snakeStem name.toList).map hyphen := by
    rw [featureName, String.toList_ofList, dropWhile_snakeChars]
  by_cases hnil : snakeStem name.toList = []
  · rw [Spells, htext, hnil]
    rfl
  · have hjoined : IsJoined (snakeStem name.toList) := isJoined_snakeStem hnil
    have hkept : ∀ {c : Char}, c.isAlphanum = true → hyphen c = c := fun hc =>
      if_neg (ne_of_isAlphanum hc (by decide))
    have hchars : ∀ c ∈ (snakeStem name.toList).map hyphen, isAscii c = true ∧ c ≠ '#' := by
      intro c hc
      obtain ⟨d, hd, rfl⟩ := List.mem_map.1 hc
      rcases hjoined.of_mem hd with hd | rfl
      · rw [hkept hd]
        exact ⟨isAscii_of_isAlphanum hd, ne_of_isAlphanum hd (by decide)⟩
      · decide
    have hhash : '#' ∉ (snakeStem name.toList).map hyphen := fun h => (hchars _ h).2 rfl
    have hseparator : ∀ {c : Char}, c.isAlphanum = false → (hyphen c).isAlphanum = false := by
      intro c hc
      simp only [hyphen]
      split
      · decide
      · exact hc
    have hascii : ((snakeStem name.toList).map hyphen).all isAscii = true :=
      List.all_eq_true.2 fun c hc => (hchars c hc).1
    rw [Spells, htext, bare_of_not_mem hhash, sanitizeChars_of_all_isAscii hascii,
      runs_map hkept hseparator]
    exact hjoined.intercalate_runs

/-! ## Constants -/

theorem constChars_of_sanitizeChars_ne_nil {name : List Char} (h : sanitizeChars name ≠ []) :
    constChars name = guardDigit '_' (recase Char.toUpper name) := by
  unfold constChars recase
  split
  · contradiction
  · rfl

/-- The constant for an empty name is in capitals. -/
theorem recase_unnamed : recase Char.toUpper "UNNAMED".toList = "UNNAMED".toList := by
  rw [recase, sanitizeChars_of_all_isAscii (by decide)]
  decide

theorem constChars_constChars (name : List Char) :
    constChars (constChars name) = constChars name := by
  by_cases hnil : sanitizeChars name = []
  · have hchars : constChars name = "UNNAMED".toList := by simp [constChars, hnil]
    have hne : recase Char.toUpper "UNNAMED".toList ≠ [] := by
      rw [recase_unnamed]
      decide
    rw [hchars, constChars_of_sanitizeChars_ne_nil (mt recase_eq_nil_iff.2 hne), recase_unnamed]
    decide
  · have hread : sanitizeChars (constChars name) = recase Char.toUpper name := by
      rw [constChars_of_sanitizeChars_ne_nil hnil, sanitizeChars_guardDigit,
        sanitizeChars_recase oneCase_toUpper]
    have hne : sanitizeChars (constChars name) ≠ [] := by
      rw [hread]
      exact mt recase_eq_nil_iff.1 hnil
    rw [constChars_of_sanitizeChars_ne_nil hne, recase_of_sanitizeChars_eq oneCase_toUpper hread,
      constChars_of_sanitizeChars_ne_nil hnil]

theorem constName_constName (name : String) : constName (constName name) = constName name := by
  rw [constName, constName, String.toList_ofList, constChars_constChars]

/-! ## All conversions -/

/-- **Field, setter, constant and feature names are their own conversions**, and what is done to
keywords in field names makes no difference: a field name has the setter and the feature of the name
that it is made from, and a setter has its field name. -/
theorem conversions_settle (name : String) :
    fieldName (fieldName name) = fieldName name ∧
      snake (snake name) = snake name ∧
      constName (constName name) = constName name ∧
      featureName (featureName name) = featureName name ∧
      snake (fieldName name) = snake name ∧
      fieldName (snake name) = fieldName name ∧
      featureName (fieldName name) = featureName name :=
  ⟨(spells_fieldName name).fieldName_eq, (spells_snake name).snake_eq, constName_constName name,
    (spells_featureName name).featureName_eq, (spells_fieldName name).snake_eq,
    (spells_snake name).fieldName_eq, (spells_fieldName name).featureName_eq⟩

end ApiAnnotator.Identifier
