import ApiAnnotator.Proofs.TypeNames
import ApiAnnotator.Proofs.WordCuts

/-!
# Words joined by underscores

What is left of a name when it is sanitized is empty or consists of words of letters and digits with
single underscores between them. Sanitizing such a text again changes nothing, and the later steps
of a conversion keep its form: a cut between words puts a single underscore between a letter and a
letter, and a change of case leaves letters letters and underscores underscores.

Both `snake_case` and `SCREAMING_SNAKE_CASE` are made in this way, with one of the two changes of
case, so what follows is said of any change of case that leaves no place for another cut.

## Main definitions

* `IsJoined` — words of letters and digits with single underscores between them.
* `OneCase` — a change of case after which no cut between words is left.
* `recase` — a sanitized name with its words cut apart, all in one case.

## Main statements

* `isJoined_sanitizeChars` — a sanitized name is joined, if anything is left of it.
* `sanitizeChars_of_isJoined` — a joined text is left as it is.
* `sanitizeChars_recase`, `recase_of_sanitizeChars_eq` — a recased name is read as it is.
-/

namespace ApiAnnotator.Identifier

open Text

/-- Words of letters and digits with single underscores between them. So the text is not empty, and
it neither starts nor ends with an underscore nor has two in a row. -/
inductive IsJoined : List Char → Prop
  | single {c : Char} (hc : c.isAlphanum = true) : IsJoined [c]
  | next {c : Char} {rest : List Char} (hc : c.isAlphanum = true) (hrest : IsJoined rest) :
      IsJoined (c :: rest)
  | newWord {c : Char} {rest : List Char} (hc : c.isAlphanum = true) (hrest : IsJoined rest) :
      IsJoined (c :: '_' :: rest)

/-- A letter or digit is none of the other characters. -/
theorem ne_of_isAlphanum {c d : Char} (hc : c.isAlphanum = true) (hd : d.isAlphanum = false) :
    c ≠ d := by
  rintro rfl
  simp [hd] at hc

namespace IsJoined

variable {text : List Char}

theorem exists_head (h : IsJoined text) :
    ∃ c rest, text = c :: rest ∧ c.isAlphanum = true := by
  cases h with
  | single hc => exact ⟨_, _, rfl, hc⟩
  | next hc => exact ⟨_, _, rfl, hc⟩
  | newWord hc => exact ⟨_, _, rfl, hc⟩

theorem ne_nil (h : IsJoined text) : text ≠ [] := by
  obtain ⟨c, rest, rfl, -⟩ := h.exists_head
  exact List.cons_ne_nil c rest

theorem of_mem {c : Char} (h : IsJoined text) (hc : c ∈ text) :
    c.isAlphanum = true ∨ c = '_' := by
  induction h with
  | single hd =>
      rw [List.mem_singleton.1 hc]
      exact .inl hd
  | next hd _ ih =>
      rcases List.mem_cons.1 hc with rfl | hc
      · exact .inl hd
      · exact ih hc
  | newWord hd _ ih =>
      rcases List.mem_cons.1 hc with rfl | hc
      · exact .inl hd
      · rcases List.mem_cons.1 hc with rfl | hc
        · exact .inr rfl
        · exact ih hc

/-- No two underscores stand side by side. -/
theorem not_infix (h : IsJoined text) : ¬ ['_', '_'] <:+: text := by
  have hletter : ∀ {c : Char}, c.isAlphanum = true → '_' ≠ c := fun hc =>
    (ne_of_isAlphanum hc (by decide)).symm
  induction h with
  | single hc => simp [List.infix_cons_iff]
  | next hc _ ih =>
      intro hinfix
      rcases List.infix_cons_iff.1 hinfix with hprefix | hinfix
      · exact hletter hc (List.cons_prefix_cons.1 hprefix).1
      · exact ih hinfix
  | newWord hc hrest ih =>
      intro hinfix
      rcases List.infix_cons_iff.1 hinfix with hprefix | hinfix
      · exact hletter hc (List.cons_prefix_cons.1 hprefix).1
      · rcases List.infix_cons_iff.1 hinfix with hprefix | hinfix
        · obtain ⟨d, more, rfl, hd⟩ := hrest.exists_head
          have hsecond := (List.cons_prefix_cons.1 hprefix).2
          exact hletter hd (List.cons_prefix_cons.1 hsecond).1
        · exact ih hinfix

end IsJoined

/-! ## Runs and the text that they are joined to -/

theorem intercalate_extendFirst (sep : List Char) (c : Char) (words : List (List Char)) :
    sep.intercalate (extendFirst c words) = c :: sep.intercalate words := by
  cases words with
  | nil => simp [extendFirst, List.intercalate]
  | cons first rest =>
      cases rest with
      | nil => simp [extendFirst, List.intercalate]
      | cons second more => simp [extendFirst, List.intercalate_cons_cons]

theorem runs_cons_of_not_isAlphanum {c : Char} (hc : c.isAlphanum = false) (rest : List Char) :
    runs (c :: rest) = runs rest := by
  simp [runs, wordsBy.eq_def _ (c :: rest), hc]

theorem runs_cons_cons {c d : Char} (hc : c.isAlphanum = true) (hd : d.isAlphanum = true)
    (rest : List Char) : runs (c :: d :: rest) = extendFirst c (runs (d :: rest)) := by
  simp [runs, wordsBy.eq_def _ (c :: d :: rest), hc, hd]

theorem runs_cons_separator {c d : Char} (hc : c.isAlphanum = true) (hd : d.isAlphanum = false)
    (rest : List Char) : runs (c :: d :: rest) = [c] :: runs (d :: rest) := by
  simp [runs, wordsBy.eq_def _ (c :: d :: rest), hc, hd]

theorem runs_ne_nil {c : Char} {rest : List Char} (hc : c.isAlphanum = true) :
    runs (c :: rest) ≠ [] :=
  wordsBy_cons_ne_nil hc rest

/-- There are runs if and only if there are letters or digits. -/
theorem runs_eq_nil_iff {text : List Char} :
    runs text = [] ↔ ∀ c ∈ text, c.isAlphanum = false := by
  induction text with
  | nil => simp [runs, wordsBy]
  | cons c rest ih =>
      cases hc : c.isAlphanum with
      | false => simp [runs_cons_of_not_isAlphanum hc, ih, hc]
      | true => simp [runs_ne_nil hc, hc]

/-- Runs are joined to a joined text. -/
theorem isJoined_intercalate_runs {text : List Char} (h : runs text ≠ []) :
    IsJoined (['_'].intercalate (runs text)) := by
  induction text with
  | nil => simp [runs, wordsBy] at h
  | cons c rest ih =>
      cases hc : c.isAlphanum with
      | false =>
          rw [runs_cons_of_not_isAlphanum hc] at h ⊢
          exact ih h
      | true =>
          cases rest with
          | nil => simpa [runs, wordsBy, hc, List.intercalate] using IsJoined.single hc
          | cons d after =>
              cases hd : d.isAlphanum with
              | true =>
                  rw [runs_cons_cons hc hd, intercalate_extendFirst]
                  exact .next hc (ih (runs_ne_nil hd))
              | false =>
                  rw [runs_cons_separator hc hd]
                  by_cases hmore : runs (d :: after) = []
                  · simpa [hmore, List.intercalate] using IsJoined.single hc
                  · rw [List.intercalate_cons_of_ne_nil hmore]
                    exact .newWord hc (ih hmore)

/-- **A sanitized name is joined**, if anything is left of it. -/
theorem isJoined_sanitizeChars [Speller] {name : List Char} (h : sanitizeChars name ≠ []) :
    IsJoined (sanitizeChars name) := by
  refine isJoined_intercalate_runs ?_
  intro hruns
  exact h (by simp [sanitizeChars, hruns])

/-- Nothing is left of a name if and only if its transliteration has no letters and digits. -/
theorem sanitizeChars_eq_nil_iff [Speller] {name : List Char} :
    sanitizeChars name = [] ↔ ∀ c ∈ transliterate name, c.isAlphanum = false := by
  rw [← runs_eq_nil_iff, sanitizeChars]
  constructor
  · intro h
    by_contra hruns
    exact (isJoined_intercalate_runs hruns).ne_nil h
  · intro h
    rw [h]
    rfl

/-- Other separators in the place of the old ones change no run. -/
theorem runs_map {f : Char → Char} (hkept : ∀ {c : Char}, c.isAlphanum = true → f c = c)
    (hseparator : ∀ {c : Char}, c.isAlphanum = false → (f c).isAlphanum = false)
    (text : List Char) : runs (text.map f) = runs text := by
  induction text with
  | nil => rfl
  | cons c rest ih =>
      rw [List.map_cons]
      cases hc : c.isAlphanum with
      | false =>
          rw [runs_cons_of_not_isAlphanum (hseparator hc), runs_cons_of_not_isAlphanum hc, ih]
      | true =>
          rw [hkept hc]
          cases rest with
          | nil => rfl
          | cons d after =>
              rw [List.map_cons] at ih ⊢
              cases hd : d.isAlphanum with
              | false =>
                  rw [runs_cons_separator hc (hseparator hd), ih, runs_cons_separator hc hd]
              | true =>
                  rw [hkept hd] at ih ⊢
                  rw [runs_cons_cons hc hd, ih, runs_cons_cons hc hd]

namespace IsJoined

variable {text : List Char}

theorem isAscii_of_mem {c : Char} (h : IsJoined text) (hc : c ∈ text) : isAscii c = true := by
  rcases h.of_mem hc with halphanum | rfl
  · exact isAscii_of_isAlphanum halphanum
  · decide

/-- The runs of a joined text are its words. -/
theorem intercalate_runs (h : IsJoined text) : ['_'].intercalate (runs text) = text := by
  induction h with
  | single hc => simp [runs, wordsBy, hc, List.intercalate]
  | next hc hrest ih =>
      obtain ⟨d, more, rfl, hd⟩ := hrest.exists_head
      rw [runs_cons_cons hc hd, intercalate_extendFirst, ih]
  | newWord hc hrest ih =>
      obtain ⟨d, more, rfl, hd⟩ := hrest.exists_head
      rw [runs_cons_separator hc (by decide), runs_cons_of_not_isAlphanum (by decide),
        List.intercalate_cons_of_ne_nil (runs_ne_nil hd), ih]
      rfl

/-- A cut between words keeps the form. -/
theorem separateCase (h : IsJoined text) : IsJoined (separateCase text) := by
  induction h with
  | single hc => exact .single hc
  | @next c rest hc hrest ih =>
      obtain ⟨d, more, rfl, -⟩ := hrest.exists_head
      rw [Identifier.separateCase]
      split
      · exact .newWord hc ih
      · exact .next hc ih
  | @newWord c rest hc hrest ih =>
      obtain ⟨d, more, rfl, -⟩ := hrest.exists_head
      -- an underscore has no case, so there is no cut on either side of it
      have hupper : ('_' : Char).isUpper = false := by decide
      have hlower : ('_' : Char).isLower = false := by decide
      simp only [Identifier.separateCase, hupper, hlower, Bool.and_false, Bool.false_and,
        Bool.false_eq_true, if_false]
      exact .newWord hc ih

end IsJoined

/-- Sanitizing an ASCII name takes no speller. -/
theorem sanitizeChars_of_all_isAscii [Speller] {name : List Char} (h : name.all isAscii = true) :
    sanitizeChars name = ['_'].intercalate (runs name) := by
  rw [sanitizeChars, transliterate_of_ascii (List.all_eq_true.1 h)]

/-- **A joined text is left as it is.** -/
theorem sanitizeChars_of_isJoined [Speller] {text : List Char} (h : IsJoined text) :
    sanitizeChars text = text := by
  rw [sanitizeChars_of_all_isAscii (List.all_eq_true.2 fun c hc => h.isAscii_of_mem hc)]
  exact h.intercalate_runs

/-- Sanitizing skips an underscore at the beginning. -/
theorem sanitizeChars_underscore_cons [Speller] (text : List Char) :
    sanitizeChars ('_' :: text) = sanitizeChars text := by
  have hspell : transliterate ('_' :: text) = '_' :: transliterate text := by
    simp [transliterate, Speller.spell_of_isAscii (show isAscii '_' = true by decide)]
  rw [sanitizeChars, hspell, runs_cons_of_not_isAlphanum (by decide), sanitizeChars]

/-- Sanitizing takes the guard away again. -/
theorem sanitizeChars_guardDigit [Speller] (text : List Char) :
    sanitizeChars (guardDigit '_' text) = sanitizeChars text := by
  cases text with
  | nil => rfl
  | cons c rest =>
      rw [guardDigit]
      split
      · exact sanitizeChars_underscore_cons _
      · rfl

/-! ## One case -/

/-- A change of case that leaves letters and digits what they are and no place for a cut. -/
structure OneCase (f : Char → Char) : Prop where
  isAlphanum : ∀ {c : Char}, c.isAlphanum = true → (f c).isAlphanum = true
  underscore : f '_' = '_'
  idempotent : ∀ {c : Char}, c.isAlphanum = true → f (f c) = f c
  noCut : ∀ {c d : Char}, c.isAlphanum = true → d.isAlphanum = true →
    ((f c).isLower && (f d).isUpper) = false

theorem oneCase_toLower : OneCase Char.toLower where
  isAlphanum := isAlphanum_toLower
  underscore := by decide
  idempotent := toLower_toLower
  noCut _ hd := by
    have hupper := of_isAlphanum (p := fun d => d.toLower.isUpper = false) (by decide) hd
    simp [hupper]

theorem oneCase_toUpper : OneCase Char.toUpper where
  isAlphanum := isAlphanum_toUpper
  underscore := by decide
  idempotent {c} _ := toUpper_of_not_isLower (isLower_toUpper c)
  noCut {c} _ _ _ := by simp [isLower_toUpper c]

/-- The sanitized name with its words cut apart, all in one case. -/
def recase [Speller] (f : Char → Char) (name : List Char) : List Char :=
  (separateCase (sanitizeChars name)).map f

/-- Without a place for a cut there is none. -/
theorem separateCase_eq_self {text : List Char}
    (h : ∀ c ∈ text, ∀ d ∈ text, (c.isLower && d.isUpper) = false) : separateCase text = text := by
  induction text with
  | nil => rfl
  | cons c rest ih =>
      cases rest with
      | nil => rfl
      | cons d more =>
          have hcut : (c.isLower && d.isUpper) = false := h c (by simp) d (by simp)
          have hrest : separateCase (d :: more) = d :: more :=
            ih fun a ha b hb => h a (List.mem_cons_of_mem c ha) b (List.mem_cons_of_mem c hb)
          rw [separateCase, if_neg (by simp [hcut]), hrest]

namespace OneCase

variable {f : Char → Char} {text : List Char}

theorem isJoined_map (hf : OneCase f) (h : IsJoined text) : IsJoined (text.map f) := by
  induction h with
  | single hc => exact .single (hf.isAlphanum hc)
  | next hc _ ih => exact .next (hf.isAlphanum hc) ih
  | newWord hc _ ih =>
      rw [List.map_cons, List.map_cons, hf.underscore]
      exact .newWord (hf.isAlphanum hc) ih

/-- A text that is in one case is left as it is by cuts and by the change of case. -/
theorem map_separateCase_map (hf : OneCase f) (h : IsJoined text) :
    (separateCase (text.map f)).map f = text.map f := by
  have hcut : separateCase (text.map f) = text.map f := by
    refine separateCase_eq_self fun c hc d hd => ?_
    have hlower : ('_' : Char).isLower = false := by decide
    have hupper : ('_' : Char).isUpper = false := by decide
    obtain ⟨a, ha, rfl⟩ := List.mem_map.1 hc
    obtain ⟨b, hb, rfl⟩ := List.mem_map.1 hd
    rcases h.of_mem ha with ha | rfl
    · rcases h.of_mem hb with hb | rfl
      · exact hf.noCut ha hb
      · simp [hf.underscore, hupper]
    · simp [hf.underscore, hlower]
  rw [hcut, List.map_map]
  refine List.map_congr_left fun c hc => ?_
  rcases h.of_mem hc with hc | rfl
  · exact hf.idempotent hc
  · simp [hf.underscore]

end OneCase

section Recase

variable [Speller] {f : Char → Char} {name text : List Char}

theorem recase_eq_nil_iff : recase f name = [] ↔ sanitizeChars name = [] := by
  rw [recase, List.map_eq_nil_iff]
  constructor
  · intro h
    by_contra hne
    exact (isJoined_sanitizeChars hne).separateCase.ne_nil h
  · intro h
    rw [h, separateCase]
    simp

theorem isJoined_recase (hf : OneCase f) (h : recase f name ≠ []) : IsJoined (recase f name) :=
  hf.isJoined_map (isJoined_sanitizeChars (mt recase_eq_nil_iff.2 h)).separateCase

/-- A recased name is left as it is. -/
theorem sanitizeChars_recase (hf : OneCase f) (name : List Char) :
    sanitizeChars (recase f name) = recase f name := by
  by_cases h : recase f name = []
  · rw [h]
    rfl
  · exact sanitizeChars_of_isJoined (isJoined_recase hf h)

/-- **A text that is sanitized to a recased name is recased to it as well.** -/
theorem recase_of_sanitizeChars_eq (hf : OneCase f) (h : sanitizeChars text = recase f name) :
    recase f text = recase f name := by
  rw [recase, h]
  by_cases hnil : recase f name = []
  · rw [hnil]
    rfl
  · have hjoined : IsJoined (separateCase (sanitizeChars name)) :=
      (isJoined_sanitizeChars (mt recase_eq_nil_iff.2 hnil)).separateCase
    exact hf.map_separateCase_map hjoined

end Recase

end ApiAnnotator.Identifier
