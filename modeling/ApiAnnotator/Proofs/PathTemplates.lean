import ApiAnnotator.PathTemplate.Parser
import ApiAnnotator.Proofs.JoinedParts
import ApiAnnotator.Proofs.Outcome
import Mathlib.Data.List.TakeDrop
import Mathlib.Data.List.TakeWhile

/-!
# Path templates are read back as they are written

A template is read in cuts that look at the text from different ends: the verb is searched for
backwards, the segments are cut forwards with an eye on the braces, and the written form of a
template leaves out the wildcard that is understood. Here the cuts are described by what they yield.
The parts between slashes are texts that close their braces and have slashes inside of braces only,
and without a verb the last part has no colon that could begin one. Written forms differ from what
was read only inside of braces, so they are cut at the same places.

## Main definitions

* `IsSegmentText` — a text that can stand between slashes.
* `IsCut` — the parts and the verb of a text.
* `Denotes` — the segment that a part stands for.
* `DropsWildcard` — a part without the wildcard that is understood.
* `IsPlain` — a template whose texts contain none of the characters that cut templates.

## Main statements

* `parseChars_eq_ok_iff` — **what is read from a text**.
* `parse_render` — **written templates are read back**.
-/

namespace ApiAnnotator.PathTemplate

open Text

/-! ## Parts between slashes -/

/-- A text that can stand between slashes: a brace is closed before the next one is opened, and
slashes stand inside of braces only. The flag says whether the text starts inside of a brace. -/
inductive IsSegmentText : Bool → List Char → Prop
  | done : IsSegmentText false []
  | opens {rest : List Char} : IsSegmentText true rest → IsSegmentText false ('\x7b' :: rest)
  | closes {rest : List Char} : IsSegmentText false rest → IsSegmentText true ('\x7d' :: rest)
  | plain {inside : Bool} {c : Char} {rest : List Char} : c ≠ '\x7b' → c ≠ '\x7d' →
      (c = '/' → inside = true) → IsSegmentText inside rest → IsSegmentText inside (c :: rest)

/-- A text is made of the given parts with slashes between them. -/
def IsSplit (inside : Bool) (cs : List Char) : List (List Char) → Prop
  | [] => False
  | first :: rest => IsSegmentText inside first ∧ (∀ part ∈ rest, IsSegmentText false part) ∧
      cs = first ++ rest.flatMap ('/' :: ·)

/-- A character in front of a text goes to the first part. -/
theorem IsSplit.extendFirst {inside before : Bool} {c : Char} {cs : List Char}
    {parts : List (List Char)} (h : IsSplit inside cs parts)
    (hstep : ∀ {text}, IsSegmentText inside text → IsSegmentText before (c :: text)) :
    IsSplit before (c :: cs) (extendFirst c parts) := by
  cases parts with
  | nil => exact h.elim
  | cons first rest =>
      obtain ⟨hfirst, hrest, rfl⟩ := h
      exact ⟨hstep hfirst, hrest, rfl⟩

/-- The parts that a text is cut into make up the text. -/
theorem isSplit_of_splitSegments {opened : Option Nat} {position : Nat} {cs : List Char}
    {parts : List (List Char)} (h : splitSegments opened position cs = .ok parts) :
    IsSplit opened.isSome cs parts := by
  fun_induction splitSegments opened position cs generalizing parts with
  | case1 => cases h
  | case2 =>
      cases h
      exact ⟨.done, by simp, rfl⟩
  | case3 => cases h
  | case4 opened position rest hopened =>
      rename_i ih
      obtain ⟨parts, hparts, rfl⟩ := except_map_eq_ok_iff.1 h
      rw [Bool.not_eq_true] at hopened
      rw [hopened]
      exact (ih hparts).extendFirst .opens
  | case5 => cases h
  | case6 opened position rest hopened =>
      rename_i ih
      obtain ⟨parts, hparts, rfl⟩ := except_map_eq_ok_iff.1 h
      have hsome : opened.isSome = true := by simpa [Option.isSome_iff_ne_none] using hopened
      rw [hsome]
      exact (ih hparts).extendFirst .closes
  | case7 opened position c rest next hopen hclose hslash =>
      rename_i ih
      obtain ⟨rfl, rfl⟩ := hslash
      obtain ⟨parts, hparts, rfl⟩ := except_map_eq_ok_iff.1 h
      cases parts with
      | nil => exact (ih hparts).elim
      | cons first rest =>
          obtain ⟨hfirst, hrest, rfl⟩ := ih hparts
          exact ⟨.done, List.forall_mem_cons.2 ⟨hfirst, hrest⟩, rfl⟩
  | case8 opened position c rest next hopen hclose hslash =>
      rename_i ih
      obtain ⟨parts, hparts, rfl⟩ := except_map_eq_ok_iff.1 h
      refine (ih hparts).extendFirst (.plain hopen hclose fun hc => ?_)
      rw [Option.isSome_iff_ne_none]
      exact fun hnone => hslash ⟨hc, hnone⟩

/-- A part is cut off where the text after it is cut off. -/
theorem splitSegments_append {opened : Option Nat} {position : Nat} {first tail : List Char}
    {rest : List (List Char)} (hfirst : IsSegmentText opened.isSome first)
    (htail : ∀ position, splitSegments none position tail = .ok ([] :: rest)) :
    splitSegments opened position (first ++ tail) = .ok (first :: rest) := by
  generalize hinside : opened.isSome = inside at hfirst
  induction hfirst generalizing opened position with
  | done =>
      obtain rfl : opened = none := by simpa using hinside
      exact htail position
  | opens _ ih =>
      obtain rfl : opened = none := by simpa using hinside
      simp [splitSegments, ih, extendFirst]
  | closes _ ih =>
      obtain ⟨brace, rfl⟩ := Option.isSome_iff_exists.1 hinside
      simp [splitSegments, ih, extendFirst]
  | @plain inside c text hopen hclose hslash _ ih =>
      have hcut : ¬ (c = '/' ∧ opened = none) := by
        rintro ⟨rfl, rfl⟩
        simp [hslash rfl] at hinside
      simp [splitSegments, hopen, hclose, hcut, ih hinside, extendFirst]

theorem splitSegments_flatMap {parts : List (List Char)}
    (h : ∀ part ∈ parts, IsSegmentText false part) (position : Nat) :
    splitSegments none position (parts.flatMap ('/' :: ·)) = .ok ([] :: parts) := by
  induction parts generalizing position with
  | nil => rfl
  | cons part parts ih =>
      obtain ⟨hpart, hparts⟩ := List.forall_mem_cons.1 h
      have hcut : ∀ position, splitSegments none position (part ++ parts.flatMap ('/' :: ·)) =
          .ok (part :: parts) :=
        fun position => splitSegments_append hpart (ih hparts)
      simp [splitSegments, hcut]

/-- **The segments of a text** are the parts that it is made of. -/
theorem splitSegments_eq_ok_iff {opened : Option Nat} {position : Nat} {cs : List Char}
    {parts : List (List Char)} :
    splitSegments opened position cs = .ok parts ↔ IsSplit opened.isSome cs parts := by
  refine ⟨isSplit_of_splitSegments, fun h => ?_⟩
  cases parts with
  | nil => exact h.elim
  | cons first rest =>
      obtain ⟨hfirst, hrest, rfl⟩ := h
      exact splitSegments_append hfirst (splitSegments_flatMap hrest)

/-! ## The verb -/

/-- What follows the segments of a template. -/
def verbSuffix : Option (List Char) → List Char
  | some verb => ':' :: verb
  | none => []

/-- A text made of parts and a verb: each part after a slash, and the verb after a colon. -/
def layout (parts : List (List Char)) (verb : Option (List Char)) : List Char :=
  parts.flatMap ('/' :: ·) ++ verbSuffix verb

/-- A text ends in a colon and a verb. -/
def EndsInVerb (cs : List Char) : Prop :=
  ∃ path verb, cs = path ++ ':' :: verb ∧ ∀ c ∈ verb, isVerbChar c = true

theorem splitVerb_append {path verb : List Char} (h : ∀ c ∈ verb, isVerbChar c = true) :
    splitVerb (path ++ ':' :: verb) = (path, some verb) := by
  have hreverse : ∀ c ∈ verb.reverse, isVerbChar c = true := by simpa using h
  have hcolon : isVerbChar ':' = false := by decide
  simp [splitVerb, List.span_eq_takeWhile_dropWhile, List.takeWhile_append_of_pos hreverse,
    List.dropWhile_append_of_pos hreverse, hcolon]

theorem splitVerb_of_not_endsInVerb {cs : List Char} (h : ¬ EndsInVerb cs) :
    splitVerb cs = (cs, none) := by
  unfold splitVerb
  split
  · rename_i verb path hspan
    rw [List.span_eq_takeWhile_dropWhile, Prod.mk.injEq] at hspan
    obtain ⟨hverb, hpath⟩ := hspan
    have hcs : cs.reverse = verb ++ ':' :: path := by
      rw [← hverb, ← hpath, List.takeWhile_append_dropWhile]
    refine absurd ⟨path.reverse, verb.reverse, ?_, ?_⟩ h
    · rw [← List.reverse_reverse cs, hcs]
      simp
    · intro c hc
      rw [← hverb, List.mem_reverse] at hc
      exact List.mem_takeWhile_imp hc
  · rfl

/-- **The verb of a text** is what follows a colon at the end, and there is none only if the text
does not end in one. -/
theorem splitVerb_eq_iff {cs path : List Char} {verb : Option (List Char)} :
    splitVerb cs = (path, verb) ↔ cs = path ++ verbSuffix verb ∧
      (∀ v ∈ verb, ∀ c ∈ v, isVerbChar c = true) ∧ (verb = none → ¬ EndsInVerb cs) := by
  constructor
  · intro h
    by_cases hends : EndsInVerb cs
    · obtain ⟨path', verb', rfl, hverb⟩ := hends
      rw [splitVerb_append hverb, Prod.mk.injEq] at h
      obtain ⟨rfl, rfl⟩ := h
      exact ⟨rfl, by simpa using hverb, by simp⟩
    · rw [splitVerb_of_not_endsInVerb hends, Prod.mk.injEq] at h
      obtain ⟨rfl, rfl⟩ := h
      exact ⟨by simp [verbSuffix], by simp, fun _ => hends⟩
  · rintro ⟨rfl, hverb, hnone⟩
    cases verb with
    | none => simpa [verbSuffix] using splitVerb_of_not_endsInVerb (hnone rfl)
    | some verb => exact splitVerb_append (hverb verb rfl)

/-- A slash ends the search for a verb. -/
theorem endsInVerb_append_slash {before after : List Char} :
    EndsInVerb (before ++ '/' :: after) ↔ EndsInVerb after := by
  constructor
  · rintro ⟨path, verb, h, hverb⟩
    rcases List.append_eq_append_iff.1 h with ⟨middle, rfl, hmiddle⟩ | ⟨middle, rfl, hmiddle⟩
    · cases middle with
      | nil => simp at hmiddle
      | cons c middle =>
          obtain ⟨rfl, rfl⟩ := List.cons.inj hmiddle
          exact ⟨middle, verb, rfl, hverb⟩
    · cases middle with
      | nil => simp at hmiddle
      | cons c middle =>
          obtain ⟨rfl, rfl⟩ := List.cons.inj hmiddle
          exact absurd (hverb '/' (by simp)) (by decide)
  · rintro ⟨path, verb, rfl, hverb⟩
    exact ⟨before ++ '/' :: path, verb, by simp, hverb⟩

/-- A closing brace ends the search for a verb. -/
theorem not_endsInVerb_append_close (cs : List Char) : ¬ EndsInVerb (cs ++ ['\x7d']) := by
  rintro ⟨path, verb, h, hverb⟩
  have hlast := congrArg List.getLast? h
  cases hnil : verb.getLast? with
  | none =>
      rw [List.getLast?_eq_none_iff] at hnil
      simp [hnil] at hlast
  | some c =>
      simp [List.getLast?_cons, hnil] at hlast
      subst hlast
      exact absurd (hverb _ (List.mem_of_getLast? hnil)) (by decide)

theorem not_endsInVerb_of_not_mem {cs : List Char} (h : ':' ∉ cs) : ¬ EndsInVerb cs := by
  rintro ⟨path, verb, rfl, -⟩
  simp at h

/-- Only the last part can end in a verb. -/
theorem endsInVerb_flatMap {parts : List (List Char)} :
    EndsInVerb (parts.flatMap ('/' :: ·)) ↔ ∃ last ∈ parts.getLast?, EndsInVerb last := by
  rcases List.eq_nil_or_concat parts with rfl | ⟨parts, last, rfl⟩
  · simp [not_endsInVerb_of_not_mem]
  · simp [endsInVerb_append_slash]

/-! ## What a part stands for -/

@[simp] theorem map_toList_strings (parts : List (List Char)) :
    (strings parts).map String.toList = parts := by
  simp [strings, Function.comp_def]

@[simp] theorem strings_map_toList (parts : List String) :
    strings (parts.map String.toList) = parts := by
  simp [strings, Function.comp_def]

/-- The field path and the pieces that the inside of a variable stands for. -/
inductive DenotesVariable : List Char → Variable → Prop
  | given {path pieces : List Char} : path ≠ [] → '=' ∉ path → pieces ≠ [] →
      [] ∉ pieces.splitOn '/' → DenotesVariable (path ++ '=' :: pieces)
        ⟨strings (path.splitOn '.'), strings (pieces.splitOn '/')⟩
  | understood {path : List Char} : path ≠ [] → '=' ∉ path →
      DenotesVariable path ⟨strings (path.splitOn '.'), [wildcard]⟩

/-- The segment that a part stands for. -/
inductive Denotes : List Char → Segment → Prop
  | literal {text : List Char} : text ≠ [] → text.head? ≠ some '\x7b' → text ≠ wildcard.toList →
      text ≠ deepWildcard.toList → Denotes text (.literal (String.ofList text))
  | bound {inside : List Char} {v : Variable} : DenotesVariable inside v →
      Denotes ('\x7b' :: (inside ++ ['\x7d'])) (.variable v)

theorem parseVariable_eq_ok_iff {inside : List Char} {v : Variable} :
    parseVariable inside = .ok v ↔ DenotesVariable inside v := by
  have hwildcard : strings (wildcard.toList.splitOn '/') = [wildcard] := by decide
  constructor
  · intro h
    unfold parseVariable at h
    cases hcut : splitOnce '=' inside with
    | none =>
        have hequals := splitOnce_eq_none_iff.1 hcut
        simp only [hcut, Option.getD_none] at h
        split at h
        · cases h
        · rename_i hempty
          split at h
          · cases h
          · cases h
            rw [hwildcard]
            exact .understood (fun hpath => hempty (.inl hpath)) hequals
    | some cut =>
        obtain ⟨path, pieces⟩ := cut
        obtain ⟨rfl, hequals⟩ := eq_of_splitOnce hcut
        simp only [hcut, Option.getD_some] at h
        split at h
        · cases h
        · rename_i hempty
          rw [not_or] at hempty
          split at h
          · cases h
          · rename_i hpieces
            cases h
            exact .given hempty.1 hequals hempty.2 hpieces
  · rintro (⟨hpath, hequals, hpieces, hparts⟩ | ⟨hpath, hequals⟩)
    · simp [parseVariable, splitOnce_append hequals, hpath, hpieces, hparts]
    · have hparts : [] ∉ wildcard.toList.splitOn '/' := by decide
      have hne : wildcard.toList ≠ [] := by decide
      simp [parseVariable, splitOnce_eq_none_iff.2 hequals, hpath, hne, hparts, hwildcard]

/-- **The segment that is read from a part** depends on the part alone. -/
theorem parseSegment_eq_ok_iff {template part : List Char} {segment : Segment} :
    parseSegment template part = .ok segment ↔ Denotes part segment := by
  constructor
  · intro h
    unfold parseSegment at h
    split at h
    · cases h
    · rename_i rest
      split at h
      · rename_i inside hinside
        obtain ⟨v, hv, rfl⟩ := except_map_eq_ok_iff.1 h
        unfold dropClosingBrace? at hinside
        split at hinside
        · rename_i hlast
          obtain ⟨inside', rfl⟩ := List.getLast?_eq_some_iff.1 hlast
          obtain rfl : inside' = inside := by simpa using hinside
          exact .bound (parseVariable_eq_ok_iff.1 hv)
        · cases hinside
      · cases h
    · rename_i hnil hopen
      split at h
      · cases h
      · rename_i hwildcard
        rw [not_or] at hwildcard
        cases h
        refine .literal hnil (fun hhead => ?_) hwildcard.1 hwildcard.2
        obtain ⟨rest, rfl⟩ := List.head?_eq_some_iff.1 hhead
        exact hopen rest rfl
  · rintro (⟨hnil, hopen, hsingle, hdeep⟩ | hv)
    · unfold parseSegment
      split
      · exact absurd rfl hnil
      · simp at hopen
      · rw [if_neg (not_or.2 ⟨hsingle, hdeep⟩)]
    · simp [parseSegment, dropClosingBrace?, parseVariable_eq_ok_iff.2 hv]

/-! ## Reading a text -/

/-- A text is made of the given parts and verb, and can be cut only in this way. -/
structure IsCut (cs : List Char) (parts : List (List Char)) (verb : Option (List Char)) :
    Prop where
  ne_nil : parts ≠ []
  isSegmentText : ∀ part ∈ parts, IsSegmentText false part
  eq_layout : cs = layout parts verb
  isVerbChar : ∀ v ∈ verb, ∀ c ∈ v, isVerbChar c = true
  not_endsInVerb : verb = none → ∀ last ∈ parts.getLast?, ¬ EndsInVerb last

theorem isSplit_false_iff {cs : List Char} {parts : List (List Char)} :
    IsSplit false cs parts ↔ parts ≠ [] ∧ (∀ part ∈ parts, IsSegmentText false part) ∧
      '/' :: cs = parts.flatMap ('/' :: ·) := by
  cases parts with
  | nil => simp [IsSplit]
  | cons first rest => simp [IsSplit, and_assoc]

/-- The cut of a text, seen from behind the first slash. -/
theorem isCut_cons_iff {cs : List Char} {parts : List (List Char)} {verb : Option (List Char)} :
    IsCut ('/' :: cs) parts verb ↔
      ∃ path, splitVerb cs = (path, verb) ∧ IsSplit false path parts := by
  -- without a verb the text ends in one exactly if its last part does
  have hends : ∀ path, '/' :: path = parts.flatMap ('/' :: ·) →
      (EndsInVerb (path ++ verbSuffix none) ↔ ∃ last ∈ parts.getLast?, EndsInVerb last) := by
    intro path hpath
    rw [← endsInVerb_flatMap, ← hpath, verbSuffix, List.append_nil]
    exact (@endsInVerb_append_slash [] path).symm
  constructor
  · rintro ⟨hne, hparts, htext, hverb, hnone⟩
    obtain ⟨first, rest, rfl⟩ := List.exists_cons_of_ne_nil hne
    obtain ⟨-, rfl⟩ := List.cons.inj htext
    refine ⟨first ++ rest.flatMap ('/' :: ·), splitVerb_eq_iff.2 ⟨rfl, hverb, ?_⟩,
      isSplit_false_iff.2 ⟨hne, hparts, rfl⟩⟩
    rintro rfl hverb
    obtain ⟨last, hlast, hend⟩ := (hends _ rfl).1 hverb
    exact hnone rfl last hlast hend
  · rintro ⟨path, hsplit, hparts⟩
    obtain ⟨rfl, hverb, hnone⟩ := splitVerb_eq_iff.1 hsplit
    obtain ⟨hne, hclosed, htext⟩ := isSplit_false_iff.1 hparts
    refine ⟨hne, hclosed, by rw [layout, ← htext, List.cons_append], hverb, ?_⟩
    rintro rfl last hlast hend
    exact hnone rfl ((hends path htext).2 ⟨last, hlast, hend⟩)

/-- **What is read from a text**: the segments that its parts stand for, and its verb. -/
theorem parseChars_eq_ok_iff {cs : List Char} {t : PathTemplate} :
    parseChars cs = .ok t ↔ ∃ parts, IsCut cs parts (t.verb.map String.toList) ∧
      List.Forall₂ Denotes parts t.segments := by
  constructor
  · intro h
    unfold parseChars at h
    split at h
    · rename_i rest
      cases hverb : splitVerb rest with
      | mk path verb =>
          simp only [hverb] at h
          obtain ⟨parts, hparts, h⟩ := except_bind_eq_ok_iff.1 h
          obtain ⟨segments, hsegments, h⟩ := except_bind_eq_ok_iff.1 h
          cases h
          refine ⟨parts, isCut_cons_iff.2 ⟨path, ?_, isSplit_of_splitSegments hparts⟩, ?_⟩
          · simp [hverb, Function.comp_def]
          · exact (except_mapM_eq_ok_iff.1 hsegments).imp fun _ _ => parseSegment_eq_ok_iff.1
    · cases h
  · rintro ⟨parts, hcut, hsegments⟩
    have hslash : ∃ rest, cs = '/' :: rest := by
      obtain ⟨first, rest, rfl⟩ := List.exists_cons_of_ne_nil hcut.ne_nil
      exact ⟨_, hcut.eq_layout⟩
    obtain ⟨rest, rfl⟩ := hslash
    obtain ⟨path, hverb, hparts⟩ := isCut_cons_iff.1 hcut
    have hread : parts.mapM (parseSegment ('/' :: rest)) = .ok t.segments :=
      except_mapM_eq_ok_iff.2 (hsegments.imp fun _ _ => parseSegment_eq_ok_iff.2)
    have hcuts : splitSegments none 1 path = .ok parts := splitSegments_eq_ok_iff.2 hparts
    simp [parseChars, hverb, hcuts, hread, bind, Except.bind, pure, Except.pure]

/-- A text is read exactly if its characters are. -/
theorem parse_eq_ok_iff {s : String} {t : PathTemplate} :
    parse s = .ok t ↔ parseChars s.toList = .ok t := by
  unfold parse
  cases parseChars s.toList <;> simp [Except.mapError]

/-! ## Written forms -/

theorem toList_dotted (v : Variable) :
    v.dotted.toList = ['.'].intercalate (v.fieldPath.map String.toList) :=
  toList_join "." v.fieldPath

theorem toList_render_of_eq {v : Variable} (h : v.pieces = [wildcard]) :
    v.render.toList = '\x7b' :: (v.dotted.toList ++ ['\x7d']) := by
  simp [Variable.render, h]

theorem toList_render_of_ne {v : Variable} (h : v.pieces ≠ [wildcard]) :
    v.render.toList = '\x7b' :: (v.dotted.toList ++
      '=' :: ['/'].intercalate (v.pieces.map String.toList) ++ ['\x7d']) := by
  simp [Variable.render, h, toList_join]

/-- The characters of a written template: each segment after a slash, and the verb. -/
theorem toList_assemble (text : Segment → String) (t : PathTemplate) :
    (t.assemble text).toList = layout (t.segments.map fun segment => (text segment).toList)
      (t.verb.map String.toList) := by
  have hverb : t.verbText.toList = verbSuffix (t.verb.map String.toList) := by
    unfold verbText
    cases t.verb <;> simp [verbSuffix]
  rw [assemble, String.toList_append, toList_join, hverb]
  simp [layout, nil_intercalate, Function.comp_def, List.flatMap]

/-- A part gives a variable the wildcard that it would bind without it. -/
def GivesWildcard (part : List Char) : Prop :=
  ∃ path, '=' ∉ path ∧ part = '\x7b' :: (path ++ ['=', '*', '\x7d'])

/-- What remains of a part when a wildcard that would be bound without it is left out. -/
inductive DropsWildcard : List Char → List Char → Prop
  | dropped {path : List Char} : '=' ∉ path →
      DropsWildcard ('\x7b' :: (path ++ ['=', '*', '\x7d'])) ('\x7b' :: (path ++ ['\x7d']))
  | kept {part : List Char} : ¬ GivesWildcard part → DropsWildcard part part

theorem DropsWildcard.eq {part part' : List Char} (h : DropsWildcard part part')
    (hpart : ¬ GivesWildcard part) : part = part' := by
  cases h with
  | dropped hpath => exact absurd ⟨_, hpath, rfl⟩ hpart
  | kept => rfl

/-- A variable is written without the wildcard that is understood, and means the same. -/
theorem DenotesVariable.render {inside : List Char} {v : Variable} (h : DenotesVariable inside v) :
    ∃ inside', v.render.toList = '\x7b' :: (inside' ++ ['\x7d']) ∧ DenotesVariable inside' v ∧
      DropsWildcard ('\x7b' :: (inside ++ ['\x7d'])) ('\x7b' :: (inside' ++ ['\x7d'])) := by
  cases h with
  | @given path pieces hpath hequals hpieces hparts =>
      by_cases hsingle : strings (pieces.splitOn '/') = [wildcard]
      · have hstar : pieces = ['*'] := by
          have hjoin : ['/'].intercalate (pieces.splitOn '/') = pieces :=
            List.intercalate_splitOn '/'
          rw [← map_toList_strings (pieces.splitOn '/'), hsingle] at hjoin
          exact hjoin.symm.trans (by decide)
        subst hstar
        refine ⟨path, ?_, ?_, ?_⟩
        · rw [toList_render_of_eq hsingle, toList_dotted, map_toList_strings,
            List.intercalate_splitOn]
        · rw [hsingle]
          exact .understood hpath hequals
        · simpa using DropsWildcard.dropped hequals
      · refine ⟨path ++ '=' :: pieces, ?_, .given hpath hequals hpieces hparts, .kept ?_⟩
        · rw [toList_render_of_ne hsingle, toList_dotted, map_toList_strings, map_toList_strings,
            List.intercalate_splitOn, List.intercalate_splitOn]
        · rintro ⟨path', hequals', h⟩
          -- both sides are cut at the first equals sign
          have hcut := congrArg (splitOnce '=') (List.cons.inj h).2
          rw [List.append_assoc, List.cons_append, splitOnce_append hequals,
            splitOnce_append hequals', Option.some_inj, Prod.mk.injEq] at hcut
          have hend : pieces ++ ['\x7d'] = ['*'] ++ ['\x7d'] := hcut.2
          obtain rfl := List.append_cancel_right hend
          exact hsingle (by decide)
  | understood hpath hequals =>
      refine ⟨inside, ?_, .understood hpath hequals, .kept ?_⟩
      · rw [toList_render_of_eq rfl, toList_dotted, map_toList_strings, List.intercalate_splitOn]
      · rintro ⟨path', hequals', h⟩
        have hend : inside ++ ['\x7d'] = (path' ++ ['=', '*']) ++ ['\x7d'] := by simpa using h
        obtain rfl := List.append_cancel_right hend
        simp at hequals

/-- A segment is written without the wildcard that is understood, and is read back. -/
theorem Denotes.render {part : List Char} {segment : Segment} (h : Denotes part segment) :
    DropsWildcard part segment.render.toList ∧ Denotes segment.render.toList segment := by
  cases h with
  | literal hnil hopen hsingle hdeep =>
      rw [Segment.render, String.toList_ofList]
      refine ⟨.kept ?_, .literal hnil hopen hsingle hdeep⟩
      rintro ⟨path, -, rfl⟩
      exact hopen rfl
  | bound hv =>
      obtain ⟨inside, htext, hinside, hdrops⟩ := hv.render
      rw [Segment.render, htext]
      exact ⟨hdrops, .bound hinside⟩

/-- A character that cuts nothing can be taken out of a part. -/
theorem IsSegmentText.erase {inside : Bool} {before after : List Char} {c : Char}
    (h : IsSegmentText inside (before ++ c :: after)) (hopen : c ≠ '\x7b') (hclose : c ≠ '\x7d') :
    IsSegmentText inside (before ++ after) := by
  induction before generalizing inside with
  | nil =>
      cases h with
      | opens => exact absurd rfl hopen
      | closes => exact absurd rfl hclose
      | plain _ _ _ hafter => exact hafter
  | cons d before ih =>
      cases h with
      | opens h => exact .opens (ih h)
      | closes h => exact .closes (ih h)
      | plain hopen' hclose' hslash h => exact .plain hopen' hclose' hslash (ih h)

theorem IsSegmentText.of_dropsWildcard {part part' : List Char} (h : IsSegmentText false part)
    (hdrops : DropsWildcard part part') : IsSegmentText false part' := by
  cases hdrops with
  | @dropped path =>
      have hwild : IsSegmentText false (('\x7b' :: path) ++ '=' :: '*' :: ['\x7d']) := h
      exact (hwild.erase (by decide) (by decide)).erase (by decide) (by decide)
  | kept => exact h

theorem EndsInVerb.of_dropsWildcard {part part' : List Char} (hdrops : DropsWildcard part part')
    (h : EndsInVerb part') : EndsInVerb part := by
  cases hdrops with
  | @dropped path => exact absurd h (not_endsInVerb_append_close ('\x7b' :: path))
  | kept => exact h

theorem exists_getLast?_of_forall₂ {α β : Type} {R : α → β → Prop} {xs : List α} {ys : List β}
    (h : List.Forall₂ R xs ys) {y : β} (hy : y ∈ ys.getLast?) : ∃ x ∈ xs.getLast?, R x y := by
  obtain ⟨before, rfl⟩ := List.getLast?_eq_some_iff.1 hy
  have hreverse := List.forall₂_reverse_iff.2 h
  rw [List.reverse_append, List.reverse_singleton, List.singleton_append,
    List.forall₂_cons_right_iff] at hreverse
  obtain ⟨x, rest, hxy, -, hxs⟩ := hreverse
  exact ⟨x, by rw [← List.head?_reverse, hxs]; rfl, hxy⟩

/-- **A text without the wildcards that are understood is cut at the same places.** -/
theorem IsCut.of_dropsWildcard {cs : List Char} {parts parts' : List (List Char)}
    {verb : Option (List Char)} (h : IsCut cs parts verb)
    (hdrops : List.Forall₂ DropsWildcard parts parts') :
    IsCut (layout parts' verb) parts' verb where
  ne_nil := by
    rintro rfl
    cases hdrops
    exact h.ne_nil rfl
  isSegmentText := by
    intro part' hpart'
    obtain ⟨part, hpart, hdrop⟩ := exists_mem_of_forall₂ hdrops hpart'
    exact (h.isSegmentText part hpart).of_dropsWildcard hdrop
  eq_layout := rfl
  isVerbChar := h.isVerbChar
  not_endsInVerb := by
    intro hnone last' hlast' hend
    obtain ⟨last, hlast, hdrop⟩ := exists_getLast?_of_forall₂ hdrops hlast'
    exact h.not_endsInVerb hnone last hlast (hend.of_dropsWildcard hdrop)

/-! ## Plain templates -/

/-- A text that is there and has none of the given characters. -/
def IsPlainText (text : String) (cuts : List Char) : Prop :=
  text ≠ "" ∧ ∀ c ∈ text.toList, c ∉ cuts

/-- A segment whose texts are there and have none of the characters that would cut them. -/
def IsPlainSegment : Segment → Prop
  | .literal text => IsPlainText text ['/', '\x7b', '\x7d', ':'] ∧ text ≠ wildcard ∧
      text ≠ deepWildcard
  | .variable v =>
      (v.fieldPath ≠ [] ∧
        ∀ name ∈ v.fieldPath, IsPlainText name ['.', '=', '/', '\x7b', '\x7d']) ∧
      v.pieces ≠ [] ∧ ∀ piece ∈ v.pieces, IsPlainText piece ['/', '\x7b', '\x7d']

/-- A template with segments, whose texts are there and have none of the characters that would cut
them; only the verb may be empty. -/
structure IsPlain (t : PathTemplate) : Prop where
  segments_ne_nil : t.segments ≠ []
  isPlainSegment : ∀ segment ∈ t.segments, IsPlainSegment segment
  verb : ∀ verb ∈ t.verb, ∀ c ∈ verb.toList, c ∉ ['/', ':', '\x7b', '\x7d']

/-- Plain texts that are joined by a character that cuts them are cut apart again. -/
theorem splitOn_intercalate_of_isPlainText (sep : Char) {cuts : List Char} {texts : List String}
    (hne : texts ≠ []) (htexts : ∀ text ∈ texts, IsPlainText text cuts) (hsep : sep ∈ cuts) :
    ([sep].intercalate (texts.map String.toList)).splitOn sep = texts.map String.toList ∧
      [] ∉ texts.map String.toList ∧ [sep].intercalate (texts.map String.toList) ≠ [] := by
  have hsplit : ([sep].intercalate (texts.map String.toList)).splitOn sep =
      texts.map String.toList :=
    splitOn_intercalate_toList hne fun text htext hmem => (htexts text htext).2 sep hmem hsep
  have hnil : [] ∉ texts.map String.toList := by
    intro hmem
    obtain ⟨text, htext, hempty⟩ := List.mem_map.1 hmem
    exact (htexts text htext).1 (by simpa using hempty)
  refine ⟨hsplit, hnil, fun hempty => hnil ?_⟩
  rw [← hsplit, hempty]
  simp

/-- What stands in joined plain texts cuts them only as their separator. -/
theorem not_mem_intercalate_of_isPlainText {sep c : Char} {cuts : List Char} {texts : List String}
    (htexts : ∀ text ∈ texts, IsPlainText text cuts) (hc : c ∈ cuts) (hsep : c ≠ sep) :
    c ∉ [sep].intercalate (texts.map String.toList) := by
  intro hmem
  rcases mem_intercalate hmem with rfl | ⟨_, hchars, hmem⟩
  · exact hsep rfl
  · obtain ⟨text, htext, rfl⟩ := List.mem_map.1 hchars
    exact (htexts text htext).2 c hmem hc

/-- A plain variable is read from its written form, in which the braces are around all else. -/
theorem denotesVariable_of_isPlainSegment {v : Variable} (h : IsPlainSegment (.variable v)) :
    ∃ inside, v.render.toList = '\x7b' :: (inside ++ ['\x7d']) ∧ DenotesVariable inside v ∧
      '\x7b' ∉ inside ∧ '\x7d' ∉ inside := by
  obtain ⟨⟨hpath, hnames⟩, hpieces, htexts⟩ := h
  obtain ⟨hsplitPath, -, hpathNe⟩ :=
    splitOn_intercalate_of_isPlainText '.' hpath hnames (by simp)
  obtain ⟨hsplitPieces, hpieceNe, hpiecesNe⟩ :=
    splitOn_intercalate_of_isPlainText '/' hpieces htexts (by simp)
  have hmemPath : ∀ c ∈ ['=', '\x7b', '\x7d'], c ∉ v.dotted.toList := by
    intro c hc
    rw [toList_dotted]
    simp only [List.mem_cons, List.not_mem_nil, or_false] at hc
    rcases hc with rfl | rfl | rfl <;>
      exact not_mem_intercalate_of_isPlainText hnames (by simp) (by decide)
  have hmemPieces : ∀ c ∈ ['\x7b', '\x7d'],
      c ∉ ['/'].intercalate (v.pieces.map String.toList) := by
    intro c hc
    simp only [List.mem_cons, List.not_mem_nil, or_false] at hc
    rcases hc with rfl | rfl <;>
      exact not_mem_intercalate_of_isPlainText htexts (by simp) (by decide)
  rw [← toList_dotted] at hpathNe hsplitPath
  by_cases hsingle : v.pieces = [wildcard]
  · refine ⟨v.dotted.toList, toList_render_of_eq hsingle, ?_, hmemPath _ (by simp),
      hmemPath _ (by simp)⟩
    have hdenotes := DenotesVariable.understood hpathNe (hmemPath '=' (by simp))
    rwa [hsplitPath, strings_map_toList, ← hsingle] at hdenotes
  · refine ⟨_, toList_render_of_ne hsingle, ?_, ?_, ?_⟩
    · have hdenotes := DenotesVariable.given hpathNe (hmemPath '=' (by simp)) hpiecesNe
        (by rwa [hsplitPieces])
      rwa [hsplitPath, hsplitPieces, strings_map_toList, strings_map_toList] at hdenotes
    · simp [hmemPath, hmemPieces]
    · simp [hmemPath, hmemPieces]

theorem isSegmentText_append {inside : Bool} {text rest : List Char}
    (htext : ∀ c ∈ text, c ≠ '\x7b' ∧ c ≠ '\x7d' ∧ (c = '/' → inside = true))
    (hrest : IsSegmentText inside rest) : IsSegmentText inside (text ++ rest) := by
  induction text with
  | nil => exact hrest
  | cons c text ih =>
      obtain ⟨⟨hopen, hclose, hslash⟩, htext⟩ := List.forall_mem_cons.1 htext
      exact .plain hopen hclose hslash (ih htext)

/-- A plain segment is read from its written form, which is a part that does not end in a verb. -/
theorem denotes_of_isPlainSegment {segment : Segment} (h : IsPlainSegment segment) :
    Denotes segment.render.toList segment ∧ IsSegmentText false segment.render.toList ∧
      ¬ EndsInVerb segment.render.toList := by
  cases segment with
  | literal text =>
      obtain ⟨⟨hne, hcuts⟩, hsingle, hdeep⟩ := h
      have hmem : ∀ c ∈ ['/', '\x7b', '\x7d', ':'], c ∉ text.toList := fun c hc h => hcuts c h hc
      rw [Segment.render]
      refine ⟨?_, ?_, not_endsInVerb_of_not_mem (hmem ':' (by simp))⟩
      · rw [← String.ofList_toList (s := text), String.toList_ofList]
        refine .literal (by simpa using hne) (fun hhead => ?_) (mt String.toList_inj.1 hsingle)
          (mt String.toList_inj.1 hdeep)
        exact hmem '\x7b' (by simp) (List.mem_of_mem_head? hhead)
      · rw [← List.append_nil text.toList]
        refine isSegmentText_append (fun c hc => ?_) .done
        have hcut := hcuts c hc
        simp only [List.mem_cons, not_or] at hcut
        exact ⟨hcut.2.1, hcut.2.2.1, fun hslash => absurd hslash hcut.1⟩
  | «variable» v =>
      obtain ⟨inside, hrender, hdenotes, hopen, hclose⟩ := denotesVariable_of_isPlainSegment h
      rw [Segment.render, hrender]
      refine ⟨.bound hdenotes, .opens (isSegmentText_append ?_ (.closes .done)),
        not_endsInVerb_append_close ('\x7b' :: inside)⟩
      intro c hc
      exact ⟨fun h => hopen (h ▸ hc), fun h => hclose (h ▸ hc), fun _ => rfl⟩

/-- The written form of a plain template has its segments as parts. -/
theorem IsPlain.isCut {t : PathTemplate} (h : t.IsPlain) :
    IsCut t.render.toList (t.segments.map fun segment => segment.render.toList)
      (t.verb.map String.toList) where
  ne_nil := by simpa using h.segments_ne_nil
  isSegmentText := by
    intro part hpart
    obtain ⟨segment, hsegment, rfl⟩ := List.mem_map.1 hpart
    exact (denotes_of_isPlainSegment (h.isPlainSegment segment hsegment)).2.1
  eq_layout := toList_assemble Segment.render t
  isVerbChar := by
    intro v hv c hc
    obtain ⟨verb, hverb, rfl⟩ := Option.map_eq_some_iff.1 hv
    have hcut := h.verb verb hverb c hc
    simp only [List.mem_cons, not_or] at hcut
    simp [PathTemplate.isVerbChar, hcut]
  not_endsInVerb := by
    intro _ last hlast
    obtain ⟨segment, hsegment, rfl⟩ := List.mem_map.1 (List.mem_of_mem_getLast? hlast)
    exact (denotes_of_isPlainSegment (h.isPlainSegment segment hsegment)).2.2

/-! ## Reading what is written -/

/-- A template is read back if its written form has as parts the written forms of its segments, and
each of them is read back. -/
theorem parse_render_of_isCut {t : PathTemplate}
    (hcut : IsCut t.render.toList (t.segments.map fun segment => segment.render.toList)
      (t.verb.map String.toList))
    (hsegments : ∀ segment ∈ t.segments, Denotes segment.render.toList segment) :
    parse t.render = .ok t := by
  refine parse_eq_ok_iff.2 (parseChars_eq_ok_iff.2 ⟨_, hcut, ?_⟩)
  rw [List.forall₂_map_left_iff, List.forall₂_same]
  exact hsegments

/-- A text that is read has parts. The written form of the template has the same parts, without the
wildcards that are understood, and each of them is read as its segment again. -/
theorem exists_parts_of_parse_eq_ok {s : String} {t : PathTemplate} (h : parse s = .ok t) :
    ∃ parts, IsCut s.toList parts (t.verb.map String.toList) ∧
      List.Forall₂ DropsWildcard parts (t.segments.map fun segment => segment.render.toList) ∧
      ∀ segment ∈ t.segments, Denotes segment.render.toList segment := by
  obtain ⟨parts, hcut, hdenotes⟩ := parseChars_eq_ok_iff.1 (parse_eq_ok_iff.1 h)
  refine ⟨parts, hcut, ?_, ?_⟩
  · rw [List.forall₂_map_right_iff]
    exact hdenotes.imp fun _ _ h => h.render.1
  · intro segment hsegment
    obtain ⟨part, -, hpart⟩ := exists_mem_of_forall₂ hdenotes hsegment
    exact hpart.render.2

/-- What has been read is read back from its written form. -/
theorem parse_render_of_parse_eq_ok {s : String} {t : PathTemplate} (h : parse s = .ok t) :
    parse t.render = .ok t := by
  obtain ⟨parts, hcut, hdrops, hdenotes⟩ := exists_parts_of_parse_eq_ok h
  refine parse_render_of_isCut ?_ hdenotes
  rw [render, toList_assemble]
  exact hcut.of_dropsWildcard hdrops

/-- **Reading and writing path templates are inverse to each other.** What has been read from a text
is read back from its written form. The text is made of parts that can stand between slashes, and
the written form of the same parts after each `{path=*}` has become `{path}`. And every plain
template is read back from its written form. -/
theorem parse_render :
    (∀ (s : String) (t : PathTemplate), parse s = .ok t → parse t.render = .ok t ∧
      ∃ parts written : List (List Char), (∀ part ∈ parts, IsSegmentText false part) ∧
        s.toList = layout parts (t.verb.map String.toList) ∧
        List.Forall₂ DropsWildcard parts written ∧
        t.render.toList = layout written (t.verb.map String.toList) ∧
        ((∀ part ∈ parts, ¬ GivesWildcard part) → t.render = s)) ∧
    ∀ t : PathTemplate, t.IsPlain → parse t.render = .ok t := by
  constructor
  · intro s t h
    obtain ⟨parts, hcut, hdrops, -⟩ := exists_parts_of_parse_eq_ok h
    have hwritten := toList_assemble Segment.render t
    refine ⟨parse_render_of_parse_eq_ok h, parts, _, hcut.isSegmentText, hcut.eq_layout, hdrops,
      hwritten, ?_⟩
    intro hnone
    have hsame : List.Forall₂ Eq parts (t.segments.map fun segment => segment.render.toList) :=
      ((List.forall₂_and_left _ _).2 ⟨hnone, hdrops⟩).imp fun _ _ h => h.2.eq h.1
    rw [List.forall₂_eq_eq_eq] at hsame
    rw [← String.toList_inj, render, hwritten, ← hsame, ← hcut.eq_layout]
  · intro t h
    exact parse_render_of_isCut h.isCut fun segment hsegment =>
      (denotes_of_isPlainSegment (h.isPlainSegment segment hsegment)).1

/-- A colon in a literal, neighbouring variables in one segment, a wildcard that is understood, and
a plain template with colons in a variable and an empty verb. -/
theorem parse_render_with_colons :
    let read : PathTemplate := ⟨[.literal "v1:a", .variable ⟨["parent", "id"], ["*\x7d\x7bname=*"]⟩,
      .variable ⟨["user"], ["*"]⟩], some "get"⟩
    let plain : PathTemplate := ⟨[.literal "v1", .variable ⟨["na:me"], ["a=b", "c:*"]⟩], some ""⟩
    parse "/v1:a/\x7bparent.id=*\x7d\x7bname=*\x7d/\x7buser=*\x7d:get" = .ok read ∧
      read.render = "/v1:a/\x7bparent.id=*\x7d\x7bname=*\x7d/\x7buser\x7d:get" ∧
      parse read.render = .ok read ∧
      plain.IsPlain ∧ plain.render = "/v1/\x7bna:me=a=b/c:*\x7d:" ∧
      parse plain.render = .ok plain := by
  intro read plain
  have hread : parse "/v1:a/\x7bparent.id=*\x7d\x7bname=*\x7d/\x7buser=*\x7d:get" = .ok read := rfl
  have hplain : plain.IsPlain := by
    refine ⟨by simp [plain], ?_, by simp [plain]⟩
    simp [plain, IsPlainSegment, IsPlainText, wildcard, deepWildcard]
  exact ⟨hread, rfl, (parse_render.1 _ read hread).1, hplain, rfl, parse_render.2 plain hplain⟩

end ApiAnnotator.PathTemplate
