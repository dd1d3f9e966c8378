import ApiAnnotator.Proofs.SettledNames

/-!
# Names that may stand in code

What the names of fields, types and constants look like, for every name they are made from and
every speller. A type name is letters and digits after a capital; a constant is capitals and digits
in words with single underscores between them, with another one in front if it would start with a
digit.

A field name is a word in small letters or the raw form of a keyword. Most keywords may be written
as raw identifiers, but those that stand for modules and types may not. `self` is spelled
differently for this reason. `crate` and `super` are not: they are written as `r#crate` and
`r#super`, which no code may contain. All other field names are legal, if a lone underscore is
counted as a word; it is what a name without letters and digits becomes, and no other name.

## Main definitions

* `IsWord` — small letters, digits and underscores, with no digit in front.
* `IsLegal` — a word that is no keyword, or a keyword as a raw identifier.
* `IsConstant` — what every constant is.

## Main statements

* `isLegal_fieldName_iff` — **a field name is legal unless it is made from `crate` or `super`**.
* `type_and_constant_names_usable` — **type and constant names are always legal**.
-/

namespace ApiAnnotator.Identifier

open Text

/-- The guard keeps a digit from standing in front. -/
theorem exists_guardDigit_cons {guard c : Char} {rest : List Char}
    (hguard : guard.isDigit = false) :
    ∃ d more, guardDigit guard (c :: rest) = d :: more ∧ d.isDigit = false := by
  cases hc : c.isDigit with
  | true => exact ⟨guard, c :: rest, by simp [guardDigit, hc], hguard⟩
  | false => exact ⟨c, rest, by simp [guardDigit, hc], hc⟩

/-! ## Words and keywords -/

/-- The words with a meaning in the language. -/
def strictKeywords : List String :=
  ["as", "async", "await", "break", "const", "continue", "crate", "dyn", "else", "enum", "extern",
    "false", "fn", "for", "if", "impl", "in", "let", "loop", "match", "mod", "move", "mut", "pub",
    "ref", "return", "self", "Self", "static", "struct", "super", "trait", "true", "type", "unsafe",
    "use", "where", "while"]

/-- The words that the language keeps for later. -/
def reservedKeywords : List String :=
  ["abstract", "become", "box", "do", "final", "gen", "macro", "override", "priv", "try", "typeof",
    "unsized", "virtual", "yield"]

/-- The words that cannot be names as they are. -/
def languageKeywords : List String :=
  strictKeywords ++ reservedKeywords

/-- The keywords without a raw form: they stand for a module or a type. -/
def pathKeywords : List String :=
  ["self", "super", "crate", "Self"]

/-- Small letters, digits and underscores, with no digit in front. -/
structure IsWord (text : List Char) : Prop where
  isSnake : ∀ c ∈ text, IsSnake c
  exists_head : ∃ c rest, text = c :: rest ∧ c.isDigit = false

/-- What may stand in code as the name of a field, a method or a module. -/
inductive IsLegal : String → Prop
  | word {name : String} (hword : IsWord name.toList) (hkeyword : name ∉ languageKeywords) :
      IsLegal name
  | raw {keyword : String} (hkeyword : keyword ∈ languageKeywords)
      (hpath : keyword ∉ pathKeywords) : IsLegal ("r#" ++ keyword)

/-- `self` and `Self` apart, the keywords are those that are looked for. -/
theorem mem_languageKeywords_iff {word : String} :
    word ∈ languageKeywords ↔ word ∈ keywords ∨ word = "self" ∨ word = "Self" := by
  have hlisted : ∀ word ∈ languageKeywords, word ∈ keywords ∨ word = "self" ∨ word = "Self" := by
    decide
  have hkept : ∀ word ∈ "self" :: "Self" :: keywords, word ∈ languageKeywords := by decide
  refine ⟨hlisted word, fun h => hkept word ?_⟩
  rcases h with h | rfl | rfl <;> simp [*]

/-- A keyword is legal as a raw identifier if and only if it has a raw form. -/
theorem isLegal_raw_iff {keyword : String} (h : keyword ∈ languageKeywords) :
    IsLegal ("r#" ++ keyword) ↔ keyword ∉ pathKeywords := by
  refine ⟨fun hlegal => ?_, .raw h⟩
  generalize hname : "r#" ++ keyword = name at hlegal
  cases hlegal with
  | word hword _ =>
      have hhash : '#' ∈ name.toList := by simp [← hname]
      exact absurd (hword.isSnake '#' hhash) (by decide)
  | raw _ hpath =>
      rw [String.append_right_inj] at hname
      rwa [hname]

/-! ## Field names -/

section FieldNames

variable [Speller]

theorem isWord_snake (name : String) : IsWord (snake name).toList := by
  refine ⟨fun c hc => of_mem_snake hc, ?_⟩
  rw [snake, String.toList_ofList]
  by_cases h : snakeStem name.toList = []
  · exact ⟨'_', [], snakeChars_of_snakeStem_eq_nil h, by decide⟩
  · obtain ⟨c, rest, hstem, -⟩ := (isJoined_snakeStem h).exists_head
    rw [snakeChars_of_snakeStem_ne_nil h, hstem]
    exact exists_guardDigit_cons (by decide)

theorem snake_ne_capital_self (name : String) : snake name ≠ "Self" := by
  intro h
  have hmem : 'S' ∈ (snake name).toList := by simp [h]
  exact absurd (of_mem_snake hmem) (by decide)

theorem fieldName_of_mem_keywords {name : String} (h : snake name ∈ keywords) :
    fieldName name = "r#" ++ snake name := by
  have hself : snake name ≠ "self" := fun heq => absurd (heq ▸ h) (by decide)
  rw [fieldName, if_neg hself, if_pos h]

theorem fieldName_of_not_mem_keywords {name : String} (hself : snake name ≠ "self")
    (h : snake name ∉ keywords) : fieldName name = snake name := by
  rw [fieldName, if_neg hself, if_neg h]

theorem snake_eq_underscore_iff (name : String) :
    snake name = "_" ↔ ∀ c ∈ transliterate (bare name.toList), c.isAlphanum = false := by
  rw [← sanitizeChars_eq_nil_iff, ← recase_eq_nil_iff (f := Char.toLower), ← snakeStem,
    ← String.toList_inj, snake, String.toList_ofList]
  constructor
  · intro h
    rw [← sanitizeChars_snakeChars, h]
    exact sanitizeChars_underscore_cons []
  · exact snakeChars_of_snakeStem_eq_nil

theorem fieldName_eq_underscore_iff (name : String) :
    fieldName name = "_" ↔ snake name = "_" := by
  by_cases hself : snake name = "self"
  · simp [fieldName, hself]
  by_cases hkeyword : snake name ∈ keywords
  · rw [fieldName_of_mem_keywords hkeyword]
    refine iff_of_false ?_ fun h => absurd (h ▸ hkeyword) (by decide)
    simp [← String.toList_inj]
  · rw [fieldName_of_not_mem_keywords hself hkeyword]

/-- **A field name is legal unless it is made from `crate` or `super`**, whatever the speller: then
it is written as a raw identifier, which neither of them can be. It is a lone underscore only where
the name, without the mark of a raw identifier, has no letter or digit in its transliteration. -/
theorem isLegal_fieldName_iff (name : String) :
    (IsLegal (fieldName name) ↔ snake name ≠ "crate" ∧ snake name ≠ "super") ∧
      (fieldName name = "_" ↔ ∀ c ∈ transliterate (bare name.toList), c.isAlphanum = false) := by
  refine ⟨?_, (fieldName_eq_underscore_iff name).trans (snake_eq_underscore_iff name)⟩
  by_cases hself : snake name = "self"
  · have hfield : fieldName name = "self_" := by simp [fieldName, hself]
    have hword : IsWord "self_".toList :=
      ⟨by simp [IsSnake], ⟨'s', "elf_".toList, rfl, by decide⟩⟩
    rw [hfield, hself]
    exact iff_of_true (.word hword (by decide)) (by decide)
  by_cases hkeyword : snake name ∈ keywords
  · have hpath : ∀ word ∈ keywords, word ∉ pathKeywords ↔ word ≠ "crate" ∧ word ≠ "super" := by
      decide
    rw [fieldName_of_mem_keywords hkeyword,
      isLegal_raw_iff (mem_languageKeywords_iff.2 (.inl hkeyword))]
    exact hpath _ hkeyword
  · have hfree : snake name ∉ languageKeywords := by
      simp [mem_languageKeywords_iff, hkeyword, hself, snake_ne_capital_self]
    rw [fieldName_of_not_mem_keywords hself hkeyword]
    refine iff_of_true (.word (isWord_snake name) hfree) ⟨?_, ?_⟩
    · exact fun h => absurd (h ▸ hkeyword) (by decide)
    · exact fun h => absurd (h ▸ hkeyword) (by decide)

end FieldNames

/-- Neither `crate` nor `super` gets a spelling of its own, as `self` does. -/
example : fieldName "crate" = "r#crate" ∧ fieldName "super" = "r#super" ∧
    fieldName "self" = "self_" ∧ fieldName "type" = "r#type" := by decide

/-! ## Constants -/

/-- Capitals and digits in words with single underscores between them, guarded by an underscore in
front of a digit. -/
structure IsConstant (text : List Char) : Prop where
  isCapital : ∀ c ∈ text, c.isUpper = true ∨ c.isDigit = true ∨ c = '_'
  exists_head : ∃ c rest, text = c :: rest ∧ c.isDigit = false
  exists_isAlphanum : ∃ c ∈ text, c.isAlphanum = true
  not_infix : ¬ ['_', '_'] <:+: text
  guards : ∀ rest, text = '_' :: rest → ∃ d more, rest = d :: more ∧ d.isDigit = true

variable [Speller]

/-- A constant is words in capitals, guarded. -/
theorem exists_constChars_eq (name : List Char) :
    ∃ stem, recase Char.toUpper stem ≠ [] ∧
      constChars name = guardDigit '_' (recase Char.toUpper stem) := by
  by_cases hnil : sanitizeChars name = []
  · have hchars : constChars name = "UNNAMED".toList := by simp [constChars, hnil]
    refine ⟨"UNNAMED".toList, ?_, ?_⟩
    · rw [recase_unnamed]
      decide
    · rw [hchars, recase_unnamed]
      decide
  · exact ⟨name, mt recase_eq_nil_iff.1 hnil, constChars_of_sanitizeChars_ne_nil hnil⟩

theorem of_mem_recase_toUpper {stem : List Char} {c : Char} (hc : c ∈ recase Char.toUpper stem) :
    c.isUpper = true ∨ c.isDigit = true ∨ c = '_' := by
  obtain ⟨d, hd, rfl⟩ := List.mem_map.1 hc
  rcases of_mem_separateCase hd with rfl | hd
  · exact .inr (.inr (by decide))
  · rcases of_mem_sanitizeChars hd with rfl | hd
    · exact .inr (.inr (by decide))
    · rcases isUpper_or_isDigit_toUpper hd with hupper | hdigit
      · exact .inl hupper
      · exact .inr (.inl hdigit)

theorem isConstant_constName (name : String) : IsConstant (constName name).toList := by
  obtain ⟨stem, hstem, hchars⟩ := exists_constChars_eq name.toList
  have hjoined : IsJoined (recase Char.toUpper stem) := isJoined_recase oneCase_toUpper hstem
  have hcapital : ∀ c ∈ recase Char.toUpper stem, c.isUpper = true ∨ c.isDigit = true ∨ c = '_' :=
    fun c hc => of_mem_recase_toUpper hc
  obtain ⟨c, rest, hwords, hc⟩ := hjoined.exists_head
  have hunderscore : c ≠ '_' := ne_of_isAlphanum hc (by decide)
  rw [constName, String.toList_ofList, hchars]
  rw [hwords] at hjoined hcapital ⊢
  have hmem : c ∈ guardDigit '_' (c :: rest) := subset_guardDigit '_' _ List.mem_cons_self
  refine ⟨?_, exists_guardDigit_cons (by decide), ⟨c, hmem, hc⟩, ?_, ?_⟩
  · intro d hd
    rcases mem_guardDigit hd with rfl | hd
    · exact .inr (.inr rfl)
    · exact hcapital d hd
  · cases hdigit : c.isDigit with
    | true =>
        simp only [guardDigit, hdigit, if_true, List.infix_cons_iff (a := '_'), hjoined.not_infix]
        simp [List.cons_prefix_cons, Ne.symm hunderscore]
    | false => simpa [guardDigit, hdigit] using hjoined.not_infix
  · intro more hguard
    cases hdigit : c.isDigit with
    | true =>
        simp only [guardDigit, hdigit, if_true, List.cons.injEq, true_and] at hguard
        exact ⟨c, rest, hguard.symm, hdigit⟩
    | false => simp [guardDigit, hdigit, hunderscore] at hguard

/-- **Type and constant names are always legal**, whatever the speller. A type name is letters and
digits after a capital and none of the reserved names. A constant is capitals, digits and
underscores, with no digit in front and some letter or digit in it; no two underscores stand side by
side, and there is one in front only before a digit. -/
theorem type_and_constant_names_usable (name : String) :
    IsPascal (typeName name).toList ∧ IsConstant (constName name).toList :=
  ⟨toList_typeName name ▸ isPascal_typeChars name.toList, isConstant_constName name⟩

end ApiAnnotator.Identifier
