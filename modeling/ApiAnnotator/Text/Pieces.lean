/-!
# Cutting and joining text

The cuts that the rest of the library makes in text: a known beginning taken off, a cut at the first
separator, a cut at every separator, and the parts joined again. A cut at a separator never loses a
character other than the separator itself, which `eq_of_splitOnce` states for the single cut.

## Main definitions

* `splitOnce sep cs` — the two sides of the first `sep`.
* `afterPrefix? lead s` — what follows a known beginning.
* `splitAll`, `join` — all parts between separators, and the parts put together again.
-/

namespace ApiAnnotator.Text

/-- Puts a character in front of the first piece. -/
def extendFirst (c : Char) : List (List Char) → List (List Char)
  | [] => [[c]]
  | piece :: pieces => (c :: piece) :: pieces

/-- The characters before and after the first `sep`, if there is one. -/
def splitOnce (sep : Char) : List Char → Option (List Char × List Char)
  | [] => none
  | c :: rest =>
    if c = sep then some ([], rest)
    else (splitOnce sep rest).map fun (before, after) => (c :: before, after)

/-- **The two sides of the cut are the text less one separator**, and the separator is the first. -/
theorem eq_of_splitOnce {sep : Char} {cs before after : List Char}
    (h : splitOnce sep cs = some (before, after)) :
    cs = before ++ sep :: after ∧ sep ∉ before := by
  induction cs generalizing before with
  | nil => simp [splitOnce] at h
  | cons c rest ih =>
    unfold splitOnce at h
    split at h
    · simp only [Option.some.injEq, Prod.mk.injEq] at h
      obtain ⟨rfl, rfl⟩ := h
      simp_all
    · rename_i hc
      simp only [Option.map_eq_some_iff, Prod.mk.injEq, Prod.exists] at h
      obtain ⟨b, a, hba, rfl, rfl⟩ := h
      obtain ⟨hrest, hb⟩ := ih hba
      exact ⟨by simp [hrest], by simp [hb, Ne.symm hc]⟩

/-- There is no cut exactly where there is no separator. -/
theorem splitOnce_eq_none_iff {sep : Char} {cs : List Char} :
    splitOnce sep cs = none ↔ sep ∉ cs := by
  induction cs with
  | nil => simp [splitOnce]
  | cons c rest ih =>
    unfold splitOnce
    split
    · simp_all
    · rename_i hc
      simp [ih, Ne.symm hc]

/-- A cut is made at the separator that follows a text without separators. -/
theorem splitOnce_append {sep : Char} {before after : List Char} (h : sep ∉ before) :
    splitOnce sep (before ++ sep :: after) = some (before, after) := by
  induction before with
  | nil => simp [splitOnce]
  | cons c rest ih =>
    rw [List.mem_cons, not_or] at h
    simp [splitOnce, Ne.symm h.1, ih h.2]

/-- The two sides of the first `sep` of a string. -/
def splitAtFirst (sep : Char) (s : String) : Option (String × String) :=
  (splitOnce sep s.toList).map fun (before, after) => (String.ofList before, String.ofList after)

/-- What follows `lead` in a string that starts with it. -/
def afterPrefix? (lead s : String) : Option String :=
  (lead.toList.isPrefixOf? s.toList).map String.ofList

/-- All parts between separators; a text without separator is its own only part. -/
def splitAll (sep : Char) (s : String) : List String :=
  (s.toList.splitOn sep).map String.ofList

/-- The parts one after the other with `sep` between neighbours. -/
def join (sep : String) (parts : List String) : String :=
  String.ofList (sep.toList.intercalate (parts.map String.toList))

theorem toList_join (sep : String) (parts : List String) :
    (join sep parts).toList = sep.toList.intercalate (parts.map String.toList) :=
  String.toList_ofList

/-- Parts without a separator are put one after the other. -/
theorem nil_intercalate (parts : List (List Char)) : [].intercalate parts = parts.flatten := by
  induction parts with
  | nil => rfl
  | cons first rest ih =>
    cases rest with
    | nil => simp [List.intercalate]
    | cons second rest => simp [List.intercalate_cons_cons, ih]

/-- What stands in joined parts is the separator or stands in a part. -/
theorem mem_intercalate {sep c : Char} {words : List (List Char)}
    (hc : c ∈ [sep].intercalate words) : c = sep ∨ ∃ word ∈ words, c ∈ word := by
  rw [List.intercalate, List.mem_flatten] at hc
  obtain ⟨word, hword, hc⟩ := hc
  induction words with
  | nil => simp at hword
  | cons first rest ih =>
      cases rest with
      | nil =>
          rw [List.intersperse_singleton, List.mem_singleton] at hword
          exact .inr ⟨first, by simp, hword ▸ hc⟩
      | cons second rest =>
          rw [List.intersperse_cons_cons, List.mem_cons, List.mem_cons] at hword
          rcases hword with rfl | rfl | hword
          · exact .inr ⟨word, by simp, hc⟩
          · exact .inl (by simpa using hc)
          · rcases ih hword with hsep | ⟨word', hword', hc'⟩
            · exact .inl hsep
            · exact .inr ⟨word', List.mem_cons_of_mem first hword', hc'⟩

/-- The text without the copies of `c` at its beginning. -/
def trimStart (c : Char) (s : String) : String :=
  String.ofList (s.toList.dropWhile (· == c))

end ApiAnnotator.Text
