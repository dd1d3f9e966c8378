import ApiAnnotator.Text.Pieces
import Mathlib.Data.List.Basic
import Mathlib.Data.Set.Function

/-!
# Joined parts are cut apart again

Parts that are joined by a character that none of them has are found again between the places of
this character, so they are determined by the joined text. Only the empty list has to be left out:
it is joined to the empty text, which is the single empty part. A known beginning is cut off in the
same way: the text is the beginning and what is left of it.

## Main statements

* `Text.splitAll_join` — **parts are found again in the joined text**.
* `Text.injOn_join` — different parts are not joined to the same text.
* `Text.afterPrefix?_eq_some_iff` — what is left of a text without a known beginning.
-/

namespace ApiAnnotator.Text

/-- The characters of joined parts are cut into the characters of the parts. -/
theorem splitOn_intercalate_toList {sep : Char} {parts : List String} (hne : parts ≠ [])
    (hsep : ∀ part ∈ parts, sep ∉ part.toList) :
    ([sep].intercalate (parts.map String.toList)).splitOn sep = parts.map String.toList := by
  refine List.splitOn_intercalate sep ?_ (by simpa using hne)
  rintro _ hchars
  obtain ⟨part, hpart, rfl⟩ := List.mem_map.1 hchars
  exact hsep part hpart

/-- **Parts are found again in the joined text**, if they are joined by a character that none of
them has. -/
theorem splitAll_join {sep : Char} {parts : List String} (hne : parts ≠ [])
    (hsep : ∀ part ∈ parts, sep ∉ part.toList) :
    splitAll sep (join (String.singleton sep) parts) = parts := by
  rw [splitAll, toList_join, String.toList_singleton, splitOn_intercalate_toList hne hsep,
    List.map_map]
  simp [Function.comp_def]

/-- Different parts are not joined to the same text. -/
theorem injOn_join (sep : Char) :
    Set.InjOn (join (String.singleton sep))
      {parts | parts ≠ [] ∧ ∀ part ∈ parts, sep ∉ part.toList} := by
  rintro parts ⟨hne, hsep⟩ parts' ⟨hne', hsep'⟩ h
  rw [← splitAll_join hne hsep, h, splitAll_join hne' hsep']

/-- **A beginning and what is left make up the text.** -/
theorem afterPrefix?_eq_some_iff {lead text rest : String} :
    afterPrefix? lead text = some rest ↔ text = lead ++ rest := by
  rw [afterPrefix?, Option.map_eq_some_iff]
  constructor
  · rintro ⟨chars, hchars, rfl⟩
    rw [List.isPrefixOf?_eq_some_iff_append_eq] at hchars
    rw [← String.toList_inj, String.toList_append, String.toList_ofList, hchars]
  · rintro rfl
    refine ⟨rest.toList, ?_, String.ofList_toList⟩
    rw [List.isPrefixOf?_eq_some_iff_append_eq, String.toList_append]

theorem afterPrefix?_append {lead rest : String} : afterPrefix? lead (lead ++ rest) = some rest :=
  afterPrefix?_eq_some_iff.2 rfl

theorem isSome_afterPrefix?_iff {lead text : String} :
    (afterPrefix? lead text).isSome = true ↔ lead.toList <+: text.toList := by
  rw [afterPrefix?, Option.isSome_map, List.isSome_isPrefixOf?_eq_isPrefixOf,
    List.isPrefixOf_iff_prefix]

end ApiAnnotator.Text
