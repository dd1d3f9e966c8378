import ApiAnnotator.Identifier.Basic
import Mathlib.Data.List.Basic

/-!
# The characters of identifiers

Whatever a name is written in, its identifiers are made of few characters: a type name of letters
and digits, and a field name of lower-case letters, digits and underscores, with one `#` if it is a
keyword. None of them is a colon, so the parts of a path can be told apart.

## Main statements

* `isAlphanum_of_mem_typeName` — the characters of a type name.
* `of_mem_snake`, `of_mem_fieldName` — the characters of a field name.
-/

namespace ApiAnnotator.Identifier

open Text

/-! ## Change of case -/

/-- What holds of all ASCII characters one by one holds of each letter and digit. -/
theorem of_isAlphanum {p : Char → Prop} (h : ∀ code : Fin 128, p (Char.ofNat code)) {c : Char}
    (hc : c.isAlphanum = true) : p c := by
  have hupper : c.isUpper = true → c.toNat ≤ 90 := fun h =>
    UInt32.le_iff_toNat_le.1 (of_decide_eq_true h).2
  have hlower : c.isLower = true → c.toNat ≤ 122 := fun h =>
    UInt32.le_iff_toNat_le.1 (of_decide_eq_true (Bool.and_eq_true_iff.1 h).2)
  have hdigit : c.isDigit = true → c.toNat ≤ 57 := fun h => (Char.isDigit_iff_toNat.1 h).2
  have hlt : c.toNat < 128 := by
    rcases Bool.or_eq_true_iff.1 hc with halpha | h
    · rcases Bool.or_eq_true_iff.1 halpha with h | h
      · have hle := hupper h
        omega
      · have hle := hlower h
        omega
    · have hle := hdigit h
      omega
  have hp := h ⟨c.toNat, hlt⟩
  rwa [Char.ofNat_toNat] at hp

theorem isAlphanum_toUpper {c : Char} (h : c.isAlphanum = true) : c.toUpper.isAlphanum = true :=
  of_isAlphanum (p := fun c => c.isAlphanum = true → c.toUpper.isAlphanum = true) (by decide) h h

theorem isAlphanum_toLower {c : Char} (h : c.isAlphanum = true) : c.toLower.isAlphanum = true :=
  of_isAlphanum (p := fun c => c.isAlphanum = true → c.toLower.isAlphanum = true) (by decide) h h

theorem toLower_of_isAlphanum {c : Char} (h : c.isAlphanum = true) :
    c.toLower.isLower = true ∨ c.toLower.isDigit = true :=
  of_isAlphanum (p := fun c => c.isAlphanum = true →
    c.toLower.isLower = true ∨ c.toLower.isDigit = true) (by decide) h h

theorem isAlphanum_of_isUpper {c : Char} (h : c.isUpper = true) : c.isAlphanum = true :=
  Bool.or_eq_true_iff.2 (.inl (Bool.or_eq_true_iff.2 (.inl h)))

theorem isAlphanum_of_isLower {c : Char} (h : c.isLower = true) : c.isAlphanum = true :=
  Bool.or_eq_true_iff.2 (.inl (Bool.or_eq_true_iff.2 (.inr h)))

theorem toUpper_of_not_isLower {c : Char} (h : c.isLower = false) : c.toUpper = c := by
  unfold Char.toUpper
  rw [dif_neg]
  rintro ⟨hfrom, hto⟩
  have hlower : c.isLower = true :=
    Bool.and_eq_true_iff.2 ⟨decide_eq_true hfrom, decide_eq_true hto⟩
  rw [h] at hlower
  cases hlower

/-- No capital is a small letter. -/
theorem isLower_toUpper (c : Char) : c.toUpper.isLower = false := by
  cases h : c.isLower with
  | false => rwa [toUpper_of_not_isLower h]
  | true =>
      exact of_isAlphanum (p := fun c => c.toUpper.isLower = false) (by decide)
        (isAlphanum_of_isLower h)

/-! ## Words -/

variable {c : Char}

theorem of_mem_extendFirst {d : Char} {words : List (List Char)} {word : List Char}
    (hword : word ∈ extendFirst d words) (hc : c ∈ word) :
    c = d ∨ ∃ word ∈ words, c ∈ word := by
  cases words with
  | nil =>
      simp only [extendFirst, List.mem_singleton] at hword
      subst hword
      exact .inl (by simpa using hc)
  | cons first rest =>
      simp only [extendFirst, List.mem_cons] at hword
      rcases hword with rfl | hword
      · rcases List.mem_cons.1 hc with rfl | hc
        · exact .inl rfl
        · exact .inr ⟨first, by simp, hc⟩
      · exact .inr ⟨word, by simp [hword], hc⟩

/-- Where the words of a text come from: the first character starts a word of its own, or it stands
in front of the first word of the rest. -/
theorem of_mem_wordsBy_cons {cut : Char → Char → Option Char → Bool} {d : Char}
    {rest word : List Char} (hword : word ∈ wordsBy cut (d :: rest)) :
    word ∈ wordsBy cut rest ∨ d.isAlphanum = true ∧
      (word = [d] ∨ word ∈ extendFirst d (wordsBy cut rest)) := by
  rw [wordsBy.eq_def] at hword
  by_cases hd : d.isAlphanum = true
  · cases rest with
    | nil =>
        simp only [hd, if_true, List.mem_singleton] at hword
        exact .inr ⟨hd, .inl hword⟩
    | cons e after =>
        simp only [hd, if_true] at hword
        by_cases hjoin : (e.isAlphanum && !cut d e after.head?) = true
        · rw [if_pos hjoin] at hword
          exact .inr ⟨hd, .inr hword⟩
        · rw [if_neg hjoin, List.mem_cons] at hword
          rcases hword with hword | hword
          · exact .inr ⟨hd, .inl hword⟩
          · exact .inl hword
  · simp only [hd] at hword
    exact .inl hword

/-- Words consist of letters and digits. -/
theorem isAlphanum_of_mem_wordsBy {cut : Char → Char → Option Char → Bool} {text word : List Char}
    (hword : word ∈ wordsBy cut text) (hc : c ∈ word) : c.isAlphanum = true := by
  induction text generalizing word with
  | nil => simp [wordsBy] at hword
  | cons d rest ih =>
      rcases of_mem_wordsBy_cons hword with hword | ⟨hd, rfl | hword⟩
      · exact ih hword hc
      · rwa [List.mem_singleton.1 hc]
      · rcases of_mem_extendFirst hword hc with rfl | ⟨word', hword', hc'⟩
        · exact hd
        · exact ih hword' hc'

/-- Words are not empty. -/
theorem ne_nil_of_mem_wordsBy {cut : Char → Char → Option Char → Bool} {text word : List Char}
    (hword : word ∈ wordsBy cut text) : word ≠ [] := by
  induction text generalizing word with
  | nil => simp [wordsBy] at hword
  | cons d rest ih =>
      rcases of_mem_wordsBy_cons hword with hword | ⟨-, rfl | hword⟩
      · exact ih hword
      · exact List.cons_ne_nil d []
      · cases hwords : wordsBy cut rest with
        | nil => simp_all [extendFirst]
        | cons first more =>
            rw [hwords, extendFirst, List.mem_cons] at hword
            rcases hword with rfl | hword
            · exact List.cons_ne_nil d first
            · exact ih (hwords ▸ List.mem_cons_of_mem first hword)

/-! ## Type names -/

theorem isAlphanum_of_mem_capitalize {word : List Char}
    (hword : ∀ c ∈ word, c.isAlphanum = true) (hc : c ∈ capitalize word) :
    c.isAlphanum = true := by
  cases word with
  | nil => simp [capitalize] at hc
  | cons d rest =>
      rcases List.mem_cons.1 hc with rfl | hc
      · exact isAlphanum_toUpper (hword d List.mem_cons_self)
      · obtain ⟨e, he, rfl⟩ := List.mem_map.1 hc
        exact isAlphanum_toLower (hword e (List.mem_cons_of_mem d he))

theorem isAlphanum_of_mem_pascalWords {text : List Char} (hc : c ∈ pascalWords text) :
    c.isAlphanum = true := by
  obtain ⟨word, hword, hc⟩ := List.mem_flatMap.1 hc
  exact isAlphanum_of_mem_capitalize (fun d hd => isAlphanum_of_mem_wordsBy hword hd) hc

theorem isAlphanum_of_mem_keepCase {text : List Char} (hc : c ∈ keepCase text) :
    c.isAlphanum = true := by
  unfold keepCase at hc
  cases hkept : text.filter Char.isAlphanum with
  | nil => simp [hkept] at hc
  | cons d rest =>
      have hall : ∀ e ∈ d :: rest, e.isAlphanum = true := by
        rw [← hkept]
        simp
      simp only [hkept, List.mem_cons] at hc
      rcases hc with rfl | hc
      · exact isAlphanum_toUpper (hall d List.mem_cons_self)
      · exact hall c (List.mem_cons_of_mem d hc)

theorem isAlphanum_of_mem_typeStem [Speller] {name : List Char} (hc : c ∈ typeStem name) :
    c.isAlphanum = true := by
  unfold typeStem at hc
  by_cases hmixed : isMixedCase name = true
  · rw [if_pos hmixed] at hc
    exact isAlphanum_of_mem_keepCase hc
  · rw [if_neg hmixed, pascalChars] at hc
    by_cases hlower : (pascalWords (transliterate name)).any Char.isLower = true
    · simp only [hlower, if_true] at hc
      exact isAlphanum_of_mem_pascalWords hc
    · simp only [hlower] at hc
      exact isAlphanum_of_mem_pascalWords hc

theorem mem_guardDigit {guard : Char} {text : List Char} (hc : c ∈ guardDigit guard text) :
    c = guard ∨ c ∈ text := by
  cases text with
  | nil => simp [guardDigit] at hc
  | cons d rest =>
      by_cases hd : d.isDigit = true
      · simpa [guardDigit, hd] using hc
      · right
        simpa [guardDigit, hd] using hc

/-- **A type name consists of letters and digits.** -/
theorem isAlphanum_of_mem_typeName [Speller] {name : String} (hc : c ∈ (typeName name).toList) :
    c.isAlphanum = true := by
  rw [typeName, String.toList_ofList, typeChars] at hc
  cases hstem : typeStem (bare name.toList) with
  | nil =>
      rw [hstem] at hc
      have hall : ∀ d ∈ "Unnamed".toList, d.isAlphanum = true := by simp
      exact hall c hc
  | cons d rest =>
      have hall : ∀ e ∈ d :: rest, e.isAlphanum = true := by
        rw [← hstem]
        exact fun e he => isAlphanum_of_mem_typeStem he
      rw [hstem] at hc
      rcases mem_guardDigit hc with rfl | hc
      · decide
      · unfold avoidReserved at hc
        split at hc
        · rcases List.mem_append.1 hc with hc | hc
          · exact hall c hc
          · have hsuffix : ∀ d ∈ "Type".toList, d.isAlphanum = true := by simp
            exact hsuffix c hc
        · exact hall c hc

/-! ## Field names -/

/-- A character of a name in `snake_case`. -/
def IsSnake (c : Char) : Prop :=
  c.isLower = true ∨ c.isDigit = true ∨ c = '_'

instance (c : Char) : Decidable (IsSnake c) :=
  inferInstanceAs (Decidable (c.isLower = true ∨ c.isDigit = true ∨ c = '_'))

theorem of_mem_sanitizeChars [Speller] {name : List Char} (hc : c ∈ sanitizeChars name) :
    c = '_' ∨ c.isAlphanum = true := by
  rcases mem_intercalate hc with hc | ⟨word, hword, hc⟩
  · exact .inl hc
  · exact .inr (isAlphanum_of_mem_wordsBy hword hc)

theorem of_mem_separateCase {name : List Char} (hc : c ∈ separateCase name) :
    c = '_' ∨ c ∈ name := by
  induction name with
  | nil => exact .inr hc
  | cons d rest ih =>
      cases rest with
      | nil => exact .inr hc
      | cons e rest =>
          have hcases : c = '_' ∨ c = d ∨ c ∈ separateCase (e :: rest) := by
            rw [separateCase] at hc
            split at hc <;> simp only [List.mem_cons] at hc <;> tauto
          rcases hcases with hc | rfl | hc
          · exact .inl hc
          · exact .inr List.mem_cons_self
          · exact (ih hc).imp id (List.mem_cons_of_mem d)

/-- A name in `snake_case` consists of lower-case letters, digits and underscores. -/
theorem of_mem_snake [Speller] {name : String} (hc : c ∈ (snake name).toList) : IsSnake c := by
  have hword : ∀ d ∈ (separateCase (sanitizeChars (bare name.toList))).map Char.toLower,
      IsSnake d := by
    intro d hd
    obtain ⟨e, he, rfl⟩ := List.mem_map.1 hd
    rcases of_mem_separateCase he with rfl | he
    · exact .inr (.inr (by decide))
    · rcases of_mem_sanitizeChars he with rfl | he
      · exact .inr (.inr (by decide))
      · rcases toLower_of_isAlphanum he with hlower | hdigit
        · exact .inl hlower
        · exact .inr (.inl hdigit)
  rw [snake, String.toList_ofList, snakeChars] at hc
  cases hchars : (separateCase (sanitizeChars (bare name.toList))).map Char.toLower with
  | nil =>
      rw [hchars] at hc
      exact .inr (.inr (List.mem_singleton.1 hc))
  | cons d rest =>
      rw [hchars] at hc hword
      rcases mem_guardDigit hc with rfl | hc
      · exact .inr (.inr rfl)
      · exact hword c hc

/-- **A field name consists of lower-case letters, digits and underscores**, but for the `#` of a
raw identifier. -/
theorem of_mem_fieldName [Speller] {name : String} (hc : c ∈ (fieldName name).toList) :
    IsSnake c ∨ c = '#' := by
  unfold fieldName at hc
  by_cases hself : snake name = "self"
  · simp only [hself, if_true] at hc
    have hall : ∀ d ∈ "self_".toList, d.isLower = true ∨ d = '_' := by simp
    exact .inl ((hall c hc).imp id .inr)
  · by_cases hkeyword : snake name ∈ keywords
    · simp only [hself, hkeyword, if_true, if_false, String.toList_append, List.mem_append] at hc
      rcases hc with hc | hc
      · have hall : ∀ d ∈ "r#".toList, d.isLower = true ∨ d = '#' := by simp
        exact (hall c hc).imp .inl id
      · exact .inl (of_mem_snake hc)
    · simp only [hself, hkeyword, if_false] at hc
      exact .inl (of_mem_snake hc)

end ApiAnnotator.Identifier
