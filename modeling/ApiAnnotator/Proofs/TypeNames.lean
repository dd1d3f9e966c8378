import ApiAnnotator.Proofs.Alphabet
import ApiAnnotator.Text.Spellings

/-!
# Type names of type names

A type name is read by its case: if it has letters of both cases it is kept as it is, and if it has
capitals only it is one word and is written as such. So whether a conversion changes its own result
depends on the case of that result alone.

A result without small letters has a single letter, which is then left alone, but for one kind of
name. In a name such as `aB` the only small letter is the first one, which makes the name one of
mixed case. It keeps its case, its first letter is raised, and the result `AB` reads as one word.
The next conversion makes `Ab` of it, and that is final.

All of this holds for every speller, since a type name is in ASCII and is spelled as it is.

## Main definitions

* `IsPascal` — what every type name is.
* `HasSmallInitialOnly` — a name in mixed case whose only small letter is the first.

## Main statements

* `isPascal_typeChars` — type names are what `IsPascal` says.
* `typeChars_of_any_isLower`, `typeChars_of_not_isLower` — the type name of a type name.
* `typeName_typeName_iff` — **a type name is its own type name** but for names such as `aB`.
-/

namespace ApiAnnotator.Identifier

open Text

/-! ## Letters -/

theorem isUpper_or_isDigit_toUpper {c : Char} (h : c.isAlphanum = true) :
    c.toUpper.isUpper = true ∨ c.toUpper.isDigit = true :=
  of_isAlphanum (p := fun c => c.isAlphanum = true →
    c.toUpper.isUpper = true ∨ c.toUpper.isDigit = true) (by decide) h h

theorem isUpper_toUpper_of_isLower {c : Char} (h : c.isLower = true) : c.toUpper.isUpper = true :=
  of_isAlphanum (p := fun c => c.isLower = true → c.toUpper.isUpper = true) (by decide)
    (isAlphanum_of_isLower h) h

theorem isLower_toLower_of_isUpper {c : Char} (h : c.isUpper = true) : c.toLower.isLower = true :=
  of_isAlphanum (p := fun c => c.isUpper = true → c.toLower.isLower = true) (by decide)
    (isAlphanum_of_isUpper h) h

theorem not_isLower_of_isUpper {c : Char} (h : c.isUpper = true) : c.isLower = false :=
  of_isAlphanum (p := fun c => c.isUpper = true → c.isLower = false) (by decide)
    (isAlphanum_of_isUpper h) h

theorem not_isDigit_of_isUpper {c : Char} (h : c.isUpper = true) : c.isDigit = false :=
  of_isAlphanum (p := fun c => c.isUpper = true → c.isDigit = false) (by decide)
    (isAlphanum_of_isUpper h) h

theorem toLower_of_isDigit {c : Char} (h : c.isDigit = true) : c.toLower = c :=
  of_isAlphanum (p := fun c => c.isDigit = true → c.toLower = c) (by decide)
    (by simp [Char.isAlphanum, h]) h

theorem isAscii_of_isAlphanum {c : Char} (h : c.isAlphanum = true) : isAscii c = true :=
  of_isAlphanum (p := fun c => isAscii c = true) (by decide) h

theorem toLower_toLower {c : Char} (h : c.isAlphanum = true) : c.toLower.toLower = c.toLower :=
  of_isAlphanum (p := fun c => c.toLower.toLower = c.toLower) (by decide) h

/-- A letter or digit of a name stands in its transliteration. -/
theorem mem_transliterate_of_isAlphanum [Speller] {name : List Char} {c : Char} (hc : c ∈ name)
    (h : c.isAlphanum = true) : c ∈ transliterate name :=
  List.mem_flatMap.2 ⟨c, hc, by rw [Speller.spell_of_isAscii (isAscii_of_isAlphanum h)]; simp⟩

/-! ## Words in one case -/

/-- A word written again as a word stays as it is. -/
theorem capitalize_capitalize {word : List Char} (h : ∀ c ∈ word, c.isAlphanum = true) :
    capitalize (capitalize word) = capitalize word := by
  cases word with
  | nil => rfl
  | cons c rest =>
      have hrest : (rest.map Char.toLower).map Char.toLower = rest.map Char.toLower := by
        rw [List.map_map]
        exact List.map_congr_left fun d hd => toLower_toLower (h d (List.mem_cons_of_mem c hd))
      rw [capitalize, capitalize, hrest, toUpper_of_not_isLower (isLower_toUpper c)]

/-- Letters and digits without a small letter are one word. -/
theorem splitWords_of_not_isLower {c : Char} {rest : List Char}
    (halphanum : ∀ d ∈ c :: rest, d.isAlphanum = true)
    (hlower : ∀ d ∈ c :: rest, d.isLower = false) : splitWords (c :: rest) = [c :: rest] := by
  induction rest generalizing c with
  | nil => simp [splitWords, wordsBy, halphanum c]
  | cons d after ih =>
      have hwords : wordsBy startsWord (d :: after) = [d :: after] :=
        ih (fun e he => halphanum e (List.mem_cons_of_mem c he))
          (fun e he => hlower e (List.mem_cons_of_mem c he))
      have hafter : after.head?.any Char.isLower = false := by
        cases after with
        | nil => rfl
        | cons e more => exact hlower e (by simp)
      have hjoin : (d.isAlphanum && !startsWord c d after.head?) = true := by
        simp [startsWord, halphanum d, hlower c, hafter]
      rw [splitWords, wordsBy]
      simp [halphanum c, hjoin, hwords, extendFirst]

/-- Letters and digits without a small letter are written as one word. -/
theorem pascalWords_of_not_isLower {text : List Char}
    (halphanum : ∀ c ∈ text, c.isAlphanum = true) (hlower : ∀ c ∈ text, c.isLower = false) :
    pascalWords text = capitalize text := by
  cases text with
  | nil => rfl
  | cons c rest => simp [pascalWords, splitWords_of_not_isLower halphanum hlower]

/-- The same holds of a name that consists of them: it is one word. -/
theorem pascalChars_of_not_isLower {text : List Char}
    (halphanum : ∀ c ∈ text, c.isAlphanum = true) (hlower : ∀ c ∈ text, c.isLower = false) :
    pascalChars text = capitalize text := by
  rw [pascalChars, pascalWords_of_not_isLower halphanum hlower]
  by_cases hsmall : (capitalize text).any Char.isLower = true
  · simp [hsmall]
  · have hcapital : ∀ c ∈ capitalize text, c.isLower = false := by simpa using hsmall
    simp only [hsmall]
    rw [pascalWords_of_not_isLower (fun c => isAlphanum_of_mem_capitalize halphanum) hcapital,
      capitalize_capitalize halphanum]
    simp

/-- The words of a name in `PascalCase` have a small letter, or writing them as one word changes
nothing. -/
theorem pascalChars_settles (text : List Char) :
    (pascalChars text).any Char.isLower = true ∨
      capitalize (pascalChars text) = pascalChars text := by
  unfold pascalChars
  by_cases hsmall : (pascalWords text).any Char.isLower = true
  · simp [hsmall]
  · have hlower : ∀ c ∈ pascalWords text, c.isLower = false := by simpa using hsmall
    have halphanum : ∀ c ∈ pascalWords text, c.isAlphanum = true := fun c =>
      isAlphanum_of_mem_pascalWords
    simp only [hsmall]
    rw [pascalWords_of_not_isLower halphanum hlower]
    exact .inr (capitalize_capitalize halphanum)

/-! ## What every type name is -/

/-- A text of letters and digits that starts with a capital and is no reserved name. -/
structure IsPascal (text : List Char) : Prop where
  isAlphanum : ∀ c ∈ text, c.isAlphanum = true
  exists_head : ∃ c rest, text = c :: rest ∧ c.isUpper = true
  notReserved : String.ofList text ∉ reservedTypeNames

/-- Reserved names have small letters. -/
theorem avoidReserved_of_not_isLower {stem : List Char} (h : ∀ c ∈ stem, c.isLower = false) :
    avoidReserved stem = stem := by
  have hreserved : ∀ name ∈ reservedTypeNames, name.toList.any Char.isLower = true := by decide
  unfold avoidReserved
  rw [if_neg]
  intro hmem
  obtain ⟨c, hc, hlower⟩ : ∃ c ∈ stem, c.isLower = true := by simpa using hreserved _ hmem
  simp [h c hc] at hlower

theorem subset_avoidReserved (stem : List Char) : stem ⊆ avoidReserved stem := by
  unfold avoidReserved
  split
  · exact List.subset_append_left _ _
  · exact List.Subset.refl _

theorem subset_guardDigit (guard : Char) (text : List Char) : text ⊆ guardDigit guard text := by
  cases text with
  | nil => exact List.Subset.refl _
  | cons c rest =>
      rw [guardDigit]
      split
      · exact List.subset_cons_self _ _
      · exact List.Subset.refl _

/-- A suffix does not change the first character. -/
theorem exists_avoidReserved_cons (c : Char) (rest : List Char) :
    ∃ more, avoidReserved (c :: rest) = c :: more := by
  unfold avoidReserved
  split
  · exact ⟨_, rfl⟩
  · exact ⟨_, rfl⟩

/-- What becomes of a stem that is not empty. -/
theorem typeChars_of_typeStem_ne_nil [Speller] {name : List Char} (h : typeStem (bare name) ≠ []) :
    typeChars name = guardDigit 'T' (avoidReserved (typeStem (bare name))) := by
  unfold typeChars
  split
  · rename_i hnil
    exact absurd hnil h
  · rfl

/-- A stem that starts with a capital needs no guard. -/
theorem typeChars_of_isUpper [Speller] {name : List Char} {c : Char} {rest : List Char}
    (hstem : typeStem (bare name) = c :: rest) (hc : c.isUpper = true) :
    typeChars name = avoidReserved (c :: rest) := by
  obtain ⟨more, hmore⟩ := exists_avoidReserved_cons c rest
  rw [typeChars_of_typeStem_ne_nil (by simp [hstem]), hstem, hmore]
  simp [guardDigit, not_isDigit_of_isUpper hc]

/-- The words of a name are not empty, and the first of them gets a capital if it starts with a
letter. -/
theorem head_pascalWords {text : List Char} {c : Char} (hc : (pascalWords text).head? = some c) :
    c.isUpper = true ∨ c.isDigit = true := by
  unfold pascalWords at hc
  cases hwords : splitWords text with
  | nil => simp [hwords] at hc
  | cons word more =>
      have hword : word ∈ splitWords text := by simp [hwords]
      cases word with
      | nil => exact absurd rfl (ne_nil_of_mem_wordsBy hword)
      | cons d rest =>
          obtain rfl : d.toUpper = c := by simpa [hwords, capitalize] using hc
          exact isUpper_or_isDigit_toUpper (isAlphanum_of_mem_wordsBy hword List.mem_cons_self)

/-- A stem starts with a capital or a digit. -/
theorem head_typeStem [Speller] {name : List Char} {c : Char}
    (hc : (typeStem name).head? = some c) :
    c.isUpper = true ∨ c.isDigit = true := by
  unfold typeStem at hc
  split at hc
  · unfold keepCase at hc
    cases hkept : (transliterate name).filter Char.isAlphanum with
    | nil => simp [hkept] at hc
    | cons d rest =>
        obtain rfl : d.toUpper = c := by simpa [hkept] using hc
        have hd : d ∈ (transliterate name).filter Char.isAlphanum := by simp [hkept]
        exact isUpper_or_isDigit_toUpper (List.mem_filter.1 hd).2
  · unfold pascalChars at hc
    dsimp only at hc
    split at hc
    · exact head_pascalWords hc
    · exact head_pascalWords hc

/-- What becomes of a stem is no reserved name. -/
theorem guardDigit_avoidReserved_not_mem (stem : List Char) :
    String.ofList (guardDigit 'T' (avoidReserved stem)) ∉ reservedTypeNames := by
  have hsuffix : ∀ name ∈ reservedTypeNames,
      String.ofList (guardDigit 'T' (name.toList ++ "Type".toList)) ∉ reservedTypeNames := by decide
  have hdigit : ∀ name ∈ reservedTypeNames, name.toList.any Char.isDigit = false := by decide
  by_cases hreserved : String.ofList stem ∈ reservedTypeNames
  · rw [avoidReserved, if_pos hreserved]
    simpa using hsuffix _ hreserved
  · rw [avoidReserved, if_neg hreserved]
    cases stem with
    | nil => exact hreserved
    | cons c rest =>
        by_cases hc : c.isDigit = true
        · intro hmem
          simpa [guardDigit, hc] using hdigit _ hmem
        · simpa [guardDigit, hc] using hreserved

/-- **Type names are letters and digits, start with a capital and are not reserved.** -/
theorem isPascal_typeChars [Speller] (name : List Char) : IsPascal (typeChars name) := by
  have halphanum : ∀ c ∈ typeChars name, c.isAlphanum = true := by
    intro c hc
    have hmem : c ∈ (typeName (String.ofList name)).toList := by simpa [typeName] using hc
    exact isAlphanum_of_mem_typeName hmem
  cases hstem : typeStem (bare name) with
  | nil =>
      have hchars : typeChars name = "Unnamed".toList := by simp [typeChars, hstem]
      exact ⟨halphanum, ⟨'U', "nnamed".toList, hchars, rfl⟩, hchars ▸ by decide⟩
  | cons c rest =>
      have hchars : typeChars name = guardDigit 'T' (avoidReserved (c :: rest)) := by
        rw [typeChars_of_typeStem_ne_nil (by simp [hstem]), hstem]
      refine ⟨halphanum, ?_, hchars ▸ guardDigit_avoidReserved_not_mem _⟩
      obtain ⟨more, hmore⟩ := exists_avoidReserved_cons c rest
      rw [hchars, hmore]
      by_cases hdigit : c.isDigit = true
      · exact ⟨'T', c :: more, by simp [guardDigit, hdigit], rfl⟩
      · have hupper : c.isUpper = true :=
          (head_typeStem (c := c) (by rw [hstem]; rfl)).resolve_right hdigit
        exact ⟨c, more, by simp [guardDigit, hdigit], hupper⟩

/-! ## The type name of a type name -/

namespace IsPascal

variable {text : List Char}

theorem bare_eq (h : IsPascal text) : bare text = text := by
  obtain ⟨c, rest, rfl, hc⟩ := h.exists_head
  unfold bare
  split
  · rename_i heq
    obtain ⟨rfl, -⟩ := List.cons_eq_cons.1 heq
    exact absurd hc (by decide)
  · rfl

theorem transliterate_eq [Speller] (h : IsPascal text) : transliterate text = text :=
  transliterate_of_ascii fun c hc => isAscii_of_isAlphanum (h.isAlphanum c hc)

theorem isMixedCase_eq (h : IsPascal text) : isMixedCase text = text.any Char.isLower := by
  obtain ⟨c, rest, rfl, hc⟩ := h.exists_head
  have hseparator : (c :: rest).any
      (fun d => d == '-' || d == '_' || d == '.' || d == ' ') = false := by
    rw [List.any_eq_false]
    intro d hd hsep
    have hd := h.isAlphanum d hd
    simp only [Bool.or_eq_true, beq_iff_eq] at hsep
    rcases hsep with ((rfl | rfl) | rfl) | rfl <;> exact absurd hd (by decide)
  have hupper : (c :: rest).any Char.isUpper = true := by simp [hc]
  rw [isMixedCase, hseparator, hupper]
  simp

/-- A type name with a small letter is its own type name. -/
theorem typeChars_of_any_isLower [Speller] (h : IsPascal text)
    (hlower : text.any Char.isLower = true) :
    typeChars text = text := by
  obtain ⟨c, rest, htext, hc⟩ := h.exists_head
  have hkept : text.filter Char.isAlphanum = c :: rest :=
    htext ▸ List.filter_eq_self.2 h.isAlphanum
  have hstem : typeStem (bare text) = c :: rest := by
    rw [h.bare_eq, typeStem, h.isMixedCase_eq, if_pos hlower, h.transliterate_eq, keepCase, hkept]
    simp only [toUpper_of_not_isLower (not_isLower_of_isUpper hc)]
  rw [typeChars_of_isUpper hstem hc, ← htext]
  exact if_neg h.notReserved

/-- A type name without a small letter is read as one word. -/
theorem typeChars_of_not_isLower [Speller] (h : IsPascal text)
    (hlower : text.any Char.isLower = false) :
    typeChars text = avoidReserved (capitalize text) := by
  have hsmall : ∀ c ∈ text, c.isLower = false := by simpa using hlower
  have hstem : typeStem (bare text) = capitalize text := by
    rw [h.bare_eq, typeStem, h.isMixedCase_eq, hlower, h.transliterate_eq]
    exact pascalChars_of_not_isLower h.isAlphanum hsmall
  obtain ⟨c, rest, rfl, hc⟩ := h.exists_head
  rw [capitalize, toUpper_of_not_isLower (not_isLower_of_isUpper hc)] at hstem ⊢
  exact typeChars_of_isUpper hstem hc

end IsPascal

/-! ## Names that are written in two steps -/

section Settling

variable [Speller]

/-- The name is of mixed case, but of its letters and digits only the first is a small letter. -/
def HasSmallInitialOnly (name : List Char) : Prop :=
  isMixedCase name = true ∧
    ((transliterate name).filter Char.isAlphanum).tail.any Char.isLower = false

/-- Type names do not start with a small letter. -/
theorem IsPascal.not_hasSmallInitialOnly {text : List Char} (h : IsPascal text) :
    ¬ HasSmallInitialOnly text := by
  rintro ⟨hmixed, htail⟩
  rw [h.isMixedCase_eq] at hmixed
  rw [h.transliterate_eq, List.filter_eq_self.2 h.isAlphanum] at htail
  obtain ⟨c, rest, rfl, hc⟩ := h.exists_head
  rw [List.any_cons, not_isLower_of_isUpper hc, Bool.false_or] at hmixed
  rw [List.tail_cons, hmixed] at htail
  exact absurd htail (by decide)

/-- If only the initial is small, raising it leaves no small letter but at least two capitals. -/
theorem HasSmallInitialOnly.typeChars_eq {name : List Char} (h : HasSmallInitialOnly (bare name)) :
    ∃ c rest, typeChars name = c :: rest ∧ (∀ d ∈ c :: rest, d.isLower = false) ∧
      ∃ d ∈ rest, d.isUpper = true := by
  obtain ⟨hmixed, htail⟩ := h
  have hboth := hmixed
  simp only [isMixedCase, Bool.and_eq_true, List.any_eq_true] at hboth
  obtain ⟨⟨-, upper, hupper, hisUpper⟩, lower, hlower, hisLower⟩ := hboth
  have hkept : ∀ {d}, d ∈ bare name → d.isAlphanum = true →
      d ∈ (transliterate (bare name)).filter Char.isAlphanum := fun hd halphanum =>
    List.mem_filter.2 ⟨mem_transliterate_of_isAlphanum hd halphanum, halphanum⟩
  have hupper := hkept hupper (isAlphanum_of_isUpper hisUpper)
  have hlower := hkept hlower (isAlphanum_of_isLower hisLower)
  have hstem : typeStem (bare name) = keepCase (transliterate (bare name)) := if_pos hmixed
  unfold keepCase at hstem
  generalize (transliterate (bare name)).filter Char.isAlphanum = kept at *
  cases kept with
  | nil => exact absurd hlower List.not_mem_nil
  | cons c rest =>
      have hrest : ∀ d ∈ rest, d.isLower = false := by simpa using htail
      -- the small letter is the initial, so the capital stands behind it
      obtain rfl : lower = c := by
        rcases List.mem_cons.1 hlower with heq | hmem
        · exact heq
        · simp [hrest lower hmem] at hisLower
      have hbehind : upper ∈ rest := by
        rcases List.mem_cons.1 hupper with rfl | hmem
        · simp [not_isLower_of_isUpper hisUpper] at hisLower
        · exact hmem
      have hcapitals : ∀ d ∈ lower.toUpper :: rest, d.isLower = false := by
        simpa [isLower_toUpper] using hrest
      have hchars := typeChars_of_isUpper hstem (isUpper_toUpper_of_isLower hisLower)
      rw [avoidReserved_of_not_isLower hcapitals] at hchars
      exact ⟨lower.toUpper, rest, hchars, hcapitals, upper, hbehind, hisUpper⟩

omit [Speller] in
/-- The guard in front of a digit does not change that a text is written as one word. -/
theorem capitalize_guardDigit {stem : List Char} (h : capitalize stem = stem) :
    capitalize (guardDigit 'T' stem) = guardDigit 'T' stem := by
  cases stem with
  | nil => rfl
  | cons c rest =>
      by_cases hc : c.isDigit = true
      · have hdigit : c.toLower = c :=
          toLower_of_isDigit hc
        have hrest : rest.map Char.toLower = rest := (List.cons_eq_cons.1 h).2
        have hguard : 'T'.toUpper = 'T' := by decide
        simp [guardDigit, hc, capitalize, hdigit, hrest, hguard]
      · simpa [guardDigit, hc] using h

/-- Any other type name has a small letter, or is written already as the one word it is read as. -/
theorem settles_of_not_hasSmallInitialOnly {name : List Char}
    (h : ¬ HasSmallInitialOnly (bare name)) :
    (typeChars name).any Char.isLower = true ∨ capitalize (typeChars name) = typeChars name := by
  by_cases hnil : typeStem (bare name) = []
  · have hchars : typeChars name = "Unnamed".toList := by simp [typeChars, hnil]
    exact .inl (hchars ▸ by decide)
  rw [typeChars_of_typeStem_ne_nil hnil]
  by_cases hsmall : (typeStem (bare name)).any Char.isLower = true
  · obtain ⟨c, hc, hlower⟩ := List.any_eq_true.1 hsmall
    exact .inl (List.any_eq_true.2
      ⟨c, subset_guardDigit 'T' _ (subset_avoidReserved _ hc), hlower⟩)
  · have hcapitals : ∀ c ∈ typeStem (bare name), c.isLower = false := by simpa using hsmall
    rw [avoidReserved_of_not_isLower hcapitals]
    refine .inr (capitalize_guardDigit ?_)
    by_cases hmixed : isMixedCase (bare name) = true
    · -- a name of mixed case keeps the small letters behind its initial
      exfalso
      have htail : ((transliterate (bare name)).filter Char.isAlphanum).tail.any Char.isLower =
          true := by
        by_contra htail
        exact h ⟨hmixed, by simpa using htail⟩
      rw [typeStem, if_pos hmixed, keepCase] at hsmall
      cases hkept : (transliterate (bare name)).filter Char.isAlphanum with
      | nil => simp [hkept] at htail
      | cons c rest =>
          rw [hkept] at htail hsmall
          exact hsmall (by rw [List.any_cons]; exact Bool.or_eq_true_iff.2 (.inr htail))
    · rw [typeStem, if_neg hmixed] at hsmall ⊢
      exact (pascalChars_settles _).resolve_left hsmall

/-- Raising nothing but the initial leaves a text that is no single word as it is written. -/
theorem HasSmallInitialOnly.not_settles {name : List Char} (h : HasSmallInitialOnly (bare name)) :
    ¬ ((typeChars name).any Char.isLower = true ∨
      capitalize (typeChars name) = typeChars name) := by
  obtain ⟨c, rest, hchars, hcapitals, d, hd, hupper⟩ := h.typeChars_eq
  rw [hchars]
  rintro (hsmall | hsame)
  · obtain ⟨e, he, hlower⟩ := List.any_eq_true.1 hsmall
    simp [hcapitals e he] at hlower
  · have hrest : rest.map Char.toLower = rest := (List.cons_eq_cons.1 hsame).2
    have hall : ∀ e ∈ rest, e.toLower = e := by
      have hid : rest.map Char.toLower = rest.map id := by simpa using hrest
      exact List.map_inj_left.1 hid
    have hlower := isLower_toLower_of_isUpper hupper
    rw [hall d hd, not_isLower_of_isUpper hupper] at hlower
    exact absurd hlower (by decide)

/-- A type name is its own type name if it has a small letter or is written as one word. -/
theorem IsPascal.typeChars_eq_self_iff {text : List Char} (h : IsPascal text) :
    typeChars text = text ↔ text.any Char.isLower = true ∨ capitalize text = text := by
  by_cases hlower : text.any Char.isLower = true
  · simp [h.typeChars_of_any_isLower hlower, hlower]
  · have hcapitals : ∀ c ∈ text, c.isLower = false := by simpa using hlower
    rw [h.typeChars_of_not_isLower (by simpa using hlower), or_iff_right hlower]
    constructor
    · intro hself
      have hword : ∀ c ∈ capitalize text, c.isLower = false := fun c hc =>
        hcapitals c (hself ▸ subset_avoidReserved _ hc)
      rwa [avoidReserved_of_not_isLower hword] at hself
    · intro hself
      rw [hself]
      exact if_neg h.notReserved

/-- The type name of a type name is the same unless the name has a small initial only. -/
theorem typeChars_typeChars_iff (name : List Char) :
    typeChars (typeChars name) = typeChars name ↔ ¬ HasSmallInitialOnly (bare name) := by
  rw [(isPascal_typeChars name).typeChars_eq_self_iff]
  exact ⟨fun h hsmall => hsmall.not_settles h, settles_of_not_hasSmallInitialOnly⟩

theorem toList_typeName (name : String) : (typeName name).toList = typeChars name.toList :=
  String.toList_ofList

/-- **A type name is its own type name**, unless the name that it is made from is of mixed case and
only the first of its letters and digits is a small letter. Even then the second conversion is the
last one that changes anything. -/
theorem typeName_typeName_iff (name : String) :
    (typeName (typeName name) = typeName name ↔ ¬ HasSmallInitialOnly (bare name.toList)) ∧
      typeName (typeName (typeName name)) = typeName (typeName name) := by
  have hiff : ∀ name : String, typeName (typeName name) = typeName name ↔
      ¬ HasSmallInitialOnly (bare name.toList) := by
    intro name
    rw [← String.toList_inj, toList_typeName, toList_typeName]
    exact typeChars_typeChars_iff name.toList
  refine ⟨hiff name, (hiff (typeName name)).2 ?_⟩
  have hpascal : IsPascal (typeName name).toList :=
    toList_typeName name ▸ isPascal_typeChars name.toList
  rw [hpascal.bare_eq]
  exact hpascal.not_hasSmallInitialOnly

end Settling

/-- The initial of `aB` is raised first, and then the result is read as one word. -/
example : typeName "aB" = "AB" ∧ typeName "AB" = "Ab" ∧ typeName "Ab" = "Ab" := by decide

end ApiAnnotator.Identifier
