import ApiAnnotator.Proofs.PathTemplates

/-!
# The braces that template errors point at

A problem with braces is reported with the byte at which a brace stands. While the text is cut into
segments, the brace is the one that the scan has reached or the one that is open there, so it is
known where it stands. The invariant of the scan says so: outside of braces everything so far is
balanced, and inside of them the open brace is where the scan remembers it.

A segment that starts with a brace and does not end with one is only found later, when the segments
have lost their places. Its place is then looked for in the whole template, and what is found first
may be a copy of its text further to the left, in the middle of another segment. So the position is
right exactly if there is no such copy.

## Main definitions

* `StandsAt` — a character at a byte of a text.
* `Closes`, `IsBalanced` — a text closes a brace before it; a text closes its own braces.
* `IsFirstUnfilled` — the first segment that starts with a brace and does not end with one.
* `Fault.Explains` — what a fault claims of the brace it points at.

## Main statements

* `Scanned.explains` — the faults of the scan are where they are said to be.
* `of_parseSegment_eq_error` — the faults of a segment.
* `position_explained_iff` — **when a position is that of a brace with the reported problem**.
-/

namespace ApiAnnotator

/-! ## Positions -/

namespace Text

/-- The number of bytes that a text takes. -/
def byteSize (cs : List Char) : Nat :=
  (String.ofList cs).utf8ByteSize

@[simp] theorem byteSize_nil : byteSize [] = 0 := rfl

@[simp] theorem byteSize_append (cs ds : List Char) :
    byteSize (cs ++ ds) = byteSize cs + byteSize ds := by
  simp [byteSize, String.ofList_append]

@[simp] theorem byteSize_singleton (c : Char) : byteSize [c] = c.utf8Size := by
  rw [byteSize, ← String.singleton_eq_ofList, String.utf8ByteSize_singleton]

theorem byteSize_concat (cs : List Char) (c : Char) :
    byteSize (cs ++ [c]) = byteSize cs + c.utf8Size := by
  rw [byteSize_append, byteSize_singleton]

/-- A character starts at a byte of a text, between what stands before and after it. -/
structure StandsAt (s : String) (position : Nat) (before : List Char) (c : Char)
    (after : List Char) : Prop where
  toList_eq : s.toList = before ++ c :: after
  byteSize_before : byteSize before = position

/-- A character of a single byte is the byte at which it starts. -/
theorem StandsAt.getElem?_toUTF8 {s : String} {position : Nat} {before after : List Char} {c : Char}
    (h : StandsAt s position before c after) (hc : c.utf8Size = 1) :
    s.toUTF8[position]? = some c.toUInt8 := by
  have hbytes : s.toUTF8 = before.utf8Encode ++ ([c.toUInt8].toByteArray ++ after.utf8Encode) := by
    rw [String.toUTF8_eq_toByteArray, ← String.ofList_toList (s := s), h.toList_eq,
      String.toByteArray_ofList, List.utf8Encode_append, List.utf8Encode_cons]
    simp [List.utf8Encode, String.utf8EncodeChar_eq_singleton hc]
  have hsize : before.utf8Encode.size = position := by
    rw [← h.byteSize_before, byteSize, String.utf8ByteSize, String.toByteArray_ofList]
  have hlt : position < s.toUTF8.size := by
    rw [hbytes, ByteArray.size_append, ByteArray.size_append, List.size_toByteArray,
      List.length_singleton]
    omega
  have hbyte : s.toUTF8[position] = c.toUInt8 := by
    have hfirst : 0 < [c.toUInt8].toByteArray.size := by simp
    simp only [hbytes, ByteArray.getElem_append_right (Nat.le_of_eq hsize), hsize, Nat.sub_self,
      ByteArray.getElem_append_left hfirst]
    simp
  rw [getElem?_pos s.toUTF8 position hlt, hbyte]

/-- The first place at which a text stands in another one. -/
def IsFirstCopy (needle cs before after : List Char) : Prop :=
  cs = before ++ (needle ++ after) ∧
    ∀ before' after', cs = before' ++ (needle ++ after') → before.length ≤ before'.length

end Text

namespace PathTemplate

open Text

/-- **The search for a text** finds its first copy. -/
theorem of_findOffset_eq_some {needle cs : List Char} {position : Nat}
    (h : findOffset needle cs = some position) :
    ∃ before after, IsFirstCopy needle cs before after ∧ byteSize before = position := by
  induction cs generalizing position with
  | nil =>
      unfold findOffset at h
      split at h
      · rename_i hnil
        obtain rfl := List.isEmpty_iff.1 hnil
        cases h
        exact ⟨[], [], ⟨rfl, by simp⟩, rfl⟩
      · cases h
  | cons c rest ih =>
      unfold findOffset at h
      split at h
      · rename_i hprefix
        obtain ⟨after, hafter⟩ := List.isPrefixOf_iff_prefix.1 hprefix
        cases h
        exact ⟨[], after, ⟨hafter.symm, by simp⟩, rfl⟩
      · rename_i hprefix
        obtain ⟨p, hp, rfl⟩ := Option.map_eq_some_iff.1 h
        obtain ⟨before, after, ⟨rfl, hfirst⟩, rfl⟩ := ih hp
        refine ⟨c :: before, after, ⟨rfl, ?_⟩, ?_⟩
        · intro before' after' hcopy
          cases before' with
          | nil =>
              exact absurd (List.isPrefixOf_iff_prefix.2 ⟨after', hcopy.symm⟩) hprefix
          | cons d before' =>
              exact Nat.succ_le_succ (hfirst before' after' (List.cons.inj hcopy).2)
        · rw [← List.singleton_append, byteSize_append, byteSize_singleton, Nat.add_comm]

/-- A text that stands in another one is found. -/
theorem findOffset_append_ne_none (before needle after : List Char) :
    findOffset needle (before ++ (needle ++ after)) ≠ none := by
  induction before with
  | nil =>
      cases hneedle : needle with
      | nil => cases after <;> simp [findOffset]
      | cons c rest => simp [findOffset]
  | cons c before ih =>
      rw [List.cons_append, findOffset]
      split
      · exact Option.some_ne_none 0
      · simpa using ih

/-! ## Open and closed braces -/

/-- A brace that is open before a text is closed in it: some beginning of the text has more closing
than opening braces. -/
def Closes (cs : List Char) : Prop :=
  ∃ lead, lead <+: cs ∧ lead.count '\x7b' < lead.count '\x7d'

/-- All braces of a text are closed in it, and it closes no others. -/
def IsBalanced (cs : List Char) : Prop :=
  ¬ Closes cs ∧ cs.count '\x7b' = cs.count '\x7d'

theorem not_closes_of_not_mem {cs : List Char} (h : '\x7d' ∉ cs) : ¬ Closes cs := by
  rintro ⟨lead, hlead, hlt⟩
  have hcount : lead.count '\x7d' = 0 :=
    List.count_eq_zero.2 fun hmem => h (hlead.subset hmem)
  omega

theorem Closes.append {cs : List Char} (h : Closes cs) (ds : List Char) : Closes (cs ++ ds) := by
  obtain ⟨lead, hlead, hlt⟩ := h
  exact ⟨lead, hlead.trans (List.prefix_append cs ds), hlt⟩

/-- What one more character can close. -/
theorem closes_concat_iff {cs : List Char} {c : Char} :
    Closes (cs ++ [c]) ↔
      Closes cs ∨ (cs ++ [c]).count '\x7b' < (cs ++ [c]).count '\x7d' := by
  constructor
  · rintro ⟨lead, hlead, hlt⟩
    rcases List.prefix_concat_iff.1 hlead with rfl | hlead
    · exact .inr hlt
    · exact .inl ⟨lead, hlead, hlt⟩
  · rintro (h | hlt)
    · exact h.append [c]
    · exact ⟨cs ++ [c], List.prefix_rfl, hlt⟩

/-- The text between slashes closes the brace that it starts in. -/
theorem IsSegmentText.closes_of_inside {text : List Char} (h : IsSegmentText true text) :
    Closes text := by
  generalize hinside : true = inside at h
  induction h with
  | done => cases hinside
  | opens => cases hinside
  | @closes rest => exact ⟨['\x7d'], List.prefix_append ['\x7d'] rest, by decide⟩
  | @plain inside c rest hopen hclose _ _ ih =>
      obtain ⟨lead, hlead, hlt⟩ := ih hinside
      refine ⟨c :: lead, List.cons_prefix_cons.2 ⟨rfl, hlead⟩, ?_⟩
      rwa [List.count_cons_of_ne hopen, List.count_cons_of_ne hclose]

/-! ## What a fault says -/

/-- A part that starts with a brace and does not end with one. -/
def isUnfilled (part : List Char) : Bool :=
  part.head? = some '\x7b' && part.getLast? ≠ some '\x7d'

/-- Of the segments of a text, the first one that starts with a brace and does not end with one, and
what stands before it. -/
def IsFirstUnfilled (cs start part : List Char) : Prop :=
  ∃ parts verb, IsCut cs parts verb ∧ parts.find? isUnfilled = some part ∧
    start = (parts.takeWhile (!isUnfilled ·)).flatMap ('/' :: ·) ++ ['/']

namespace Fault

/-- The position that a fault gives. -/
def position? : Fault → Option Nat
  | .unclosedBrace position => some position
  | .unmatchedClosingBrace position => some position
  | .nestedBraces position => some position
  | _ => none

/-- The brace that a fault is about. -/
def brace : Fault → Char
  | .unmatchedClosingBrace _ => '\x7d'
  | _ => '\x7b'

/-- What a fault claims of a brace, given what stands before and after it. A closing brace is
unmatched if everything before it is balanced. An opening brace is nested if one before it is still
open, and unclosed if it is never closed or starts the first segment that it does not fill. -/
def Explains (cs before after : List Char) : Fault → Prop
  | .unmatchedClosingBrace _ => IsBalanced before
  | .nestedBraces _ => ∃ outer inner, before = outer ++ '\x7b' :: inner ∧ ¬ Closes inner
  | .unclosedBrace _ => ¬ Closes after ∨ ∃ part, IsFirstUnfilled cs before part
  | _ => False

/-- A fault points at a brace of its kind, between what stands before and after it. -/
structure PointsAt (fault : Fault) (cs before after : List Char) : Prop where
  eq_append : cs = before ++ fault.brace :: after
  position?_eq : fault.position? = some (byteSize before)

end Fault

/-! ## The scan for segments -/

/-- What has been scanned of a text, and which brace is open after it. -/
inductive Scanned : Option Nat → List Char → Prop
  | outside {cs : List Char} : IsBalanced cs → Scanned none cs
  | inside {before inner : List Char} : '\x7b' ∉ inner → '\x7d' ∉ inner →
      ¬ Closes (before ++ '\x7b' :: inner) →
      (before ++ '\x7b' :: inner).count '\x7b' = (before ++ '\x7b' :: inner).count '\x7d' + 1 →
      Scanned (some (byteSize before)) (before ++ '\x7b' :: inner)

namespace Scanned

variable {opened : Option Nat} {brace : Nat} {cs : List Char} {c : Char}

theorem opens (h : Scanned none cs) : Scanned (some (byteSize cs)) (cs ++ ['\x7b']) := by
  cases h with
  | outside hbalanced =>
      obtain ⟨hcloses, hcount⟩ := hbalanced
      refine .inside (by simp) (by simp) ?_ ?_
      · rw [closes_concat_iff, not_or]
        refine ⟨hcloses, ?_⟩
        simp [hcount]
      · simp [hcount]

theorem closes (h : Scanned (some brace) cs) : Scanned none (cs ++ ['\x7d']) := by
  cases h with
  | inside hopen hclose hcloses hcount =>
      have hbalanced : ∀ text : List Char, text.count '\x7b' = text.count '\x7d' + 1 →
          (text ++ ['\x7d']).count '\x7b' = (text ++ ['\x7d']).count '\x7d' := by
        intro text htext
        simp [htext]
      refine .outside ⟨?_, hbalanced _ hcount⟩
      rw [closes_concat_iff, not_or]
      exact ⟨hcloses, Nat.not_lt.2 (hbalanced _ hcount).ge⟩

theorem plain (h : Scanned opened cs) (hopen : c ≠ '\x7b') (hclose : c ≠ '\x7d') :
    Scanned opened (cs ++ [c]) := by
  have hcount : ∀ text : List Char, (text ++ [c]).count '\x7b' = text.count '\x7b' ∧
      (text ++ [c]).count '\x7d' = text.count '\x7d' := by
    intro text
    simp [List.count_append, hopen, hclose]
  cases h with
  | outside hbalanced =>
      obtain ⟨hcloses, hsame⟩ := hbalanced
      refine .outside ⟨?_, ?_⟩
      · rw [closes_concat_iff, not_or, (hcount cs).1, (hcount cs).2]
        exact ⟨hcloses, Nat.not_lt.2 hsame.ge⟩
      · rw [(hcount cs).1, (hcount cs).2, hsame]
  | @inside before inner hopen' hclose' hcloses hmore =>
      have htext : before ++ '\x7b' :: inner ++ [c] = before ++ '\x7b' :: (inner ++ [c]) := by simp
      obtain ⟨hcountOpen, hcountClose⟩ := hcount (before ++ '\x7b' :: inner)
      rw [htext] at hcountOpen hcountClose ⊢
      refine .inside (by simp [hopen', hopen.symm]) (by simp [hclose', hclose.symm]) ?_ ?_
      · rw [← htext, closes_concat_iff, not_or, htext, hcountOpen, hcountClose]
        exact ⟨hcloses, by omega⟩
      · rw [hcountOpen, hcountClose, hmore]

/-- One more character goes from the text that is still to be scanned to the text that has been. -/
private theorem append_cons_append (cs rest tail : List Char) (c : Char) :
    cs ++ [c] ++ (rest ++ tail) = cs ++ (c :: rest ++ tail) := by
  simp

/-- **The faults of the scan are where they are said to be.** The scan goes on from what has been
scanned, and no brace is closed behind the text that it goes through. -/
theorem explains {rest tail : List Char} {fault : Fault} (hscanned : Scanned opened cs)
    (htail : '\x7d' ∉ tail) (h : splitSegments opened (byteSize cs) rest = .error fault) :
    ∃ before after, fault.PointsAt (cs ++ (rest ++ tail)) before after ∧
      fault.Explains (cs ++ (rest ++ tail)) before after := by
  generalize hposition : byteSize cs = position at h
  fun_induction splitSegments opened position rest generalizing cs fault with
  | case1 position brace =>
      cases h
      cases hscanned with
      | @inside before inner hopen hclose =>
          have hafter : '\x7d' ∉ inner ++ tail := by simp [hclose, htail]
          exact ⟨before, inner ++ tail, ⟨by simp [Fault.brace], rfl⟩,
            .inl (not_closes_of_not_mem hafter)⟩
  | case2 => cases h
  | case3 opened position rest hopened =>
      cases h
      cases hscanned with
      | outside => cases hopened
      | @inside before inner hopen hclose =>
          exact ⟨_, rest ++ tail, ⟨rfl, by rw [Fault.position?, hposition]⟩, before, inner, rfl,
            not_closes_of_not_mem hclose⟩
  | case4 opened position rest hopened =>
      rename_i ih
      obtain rfl : opened = none := by simpa using hopened
      rw [← append_cons_append]
      exact ih (hposition ▸ hscanned.opens)
        (by rw [byteSize_concat, hposition]) (except_map_eq_error_iff.1 h)
  | case5 opened position rest hopened =>
      cases h
      cases hscanned with
      | inside => cases hopened
      | outside hbalanced =>
          exact ⟨cs, rest ++ tail, ⟨rfl, by rw [Fault.position?, hposition]⟩, hbalanced⟩
  | case6 opened position rest hopened =>
      rename_i ih
      obtain ⟨brace, rfl⟩ : ∃ brace, opened = some brace :=
        Option.ne_none_iff_exists'.1 (by simpa using hopened)
      rw [← append_cons_append]
      exact ih hscanned.closes (by rw [byteSize_concat, hposition])
        (except_map_eq_error_iff.1 h)
  | case7 opened position c rest next hopen hclose hslash =>
      rename_i ih
      obtain ⟨rfl, rfl⟩ := hslash
      rw [← append_cons_append]
      exact ih (hscanned.plain hopen hclose)
        (by rw [byteSize_concat, hposition]) (except_map_eq_error_iff.1 h)
  | case8 opened position c rest next hopen hclose hslash =>
      rename_i ih
      rw [← append_cons_append]
      exact ih (hscanned.plain hopen hclose)
        (by rw [byteSize_concat, hposition]) (except_map_eq_error_iff.1 h)

end Scanned

/-! ## Segments that are not filled -/

theorem position?_of_parseVariable_eq_error {inside : List Char} {fault : Fault}
    (h : parseVariable inside = .error fault) : fault.position? = none := by
  unfold parseVariable at h
  dsimp only at h
  split at h
  · cases h
    rfl
  · split at h
    · cases h
      rfl
    · cases h

/-- **The faults of a segment**: the only one with a position is that it is not filled, and the
position is where its text is found in the template. -/
theorem of_parseSegment_eq_error {template part : List Char} {fault : Fault} {position : Nat}
    (h : parseSegment template part = .error fault) (hposition : fault.position? = some position) :
    isUnfilled part = true ∧
      fault = .unclosedBrace ((findOffset part template).getD 0) := by
  unfold parseSegment at h
  split at h
  · cases h
    cases hposition
  · rename_i rest
    cases hinside : dropClosingBrace? rest with
    | some inside =>
        rw [hinside] at h
        have hvariable := except_map_eq_error_iff.1 h
        rw [position?_of_parseVariable_eq_error hvariable] at hposition
        cases hposition
    | none =>
        rw [hinside] at h
        cases h
        have hlast : rest.getLast? ≠ some '\x7d' := by simpa [dropClosingBrace?] using hinside
        refine ⟨?_, rfl⟩
        cases rest with
        | nil => decide
        | cons c rest => simpa [isUnfilled, List.getLast?_cons_cons] using hlast
  · split at h
    · cases h
      cases hposition
    · cases h

/-- A part that stands for a segment is no unfilled one. -/
theorem Denotes.isUnfilled_eq_false {part : List Char} {segment : Segment}
    (h : Denotes part segment) : isUnfilled part = false := by
  cases h with
  | literal _ hopen => simp [isUnfilled, hopen]
  | bound =>
      rw [isUnfilled, ← List.cons_append, List.getLast?_concat]
      simp

namespace IsCut

variable {cs : List Char} {parts parts' : List (List Char)} {verb verb' : Option (List Char)}

/-- A text can be cut in one way only. -/
theorem parts_eq (h : IsCut cs parts verb) (h' : IsCut cs parts' verb') : parts = parts' := by
  obtain ⟨first, rest, rfl⟩ := List.exists_cons_of_ne_nil h.ne_nil
  obtain ⟨tail, rfl⟩ : ∃ tail, cs = '/' :: tail := ⟨_, h.eq_layout⟩
  obtain ⟨path, hpath, hsplit⟩ := isCut_cons_iff.1 h
  obtain ⟨path', hpath', hsplit'⟩ := isCut_cons_iff.1 h'
  obtain ⟨rfl, -⟩ := Prod.mk.inj (hpath.symm.trans hpath')
  have hparts : splitSegments none 0 path = .ok (first :: rest) := splitSegments_eq_ok_iff.2 hsplit
  have hparts' : splitSegments none 0 path = .ok parts' := splitSegments_eq_ok_iff.2 hsplit'
  exact Except.ok.inj (hparts.symm.trans hparts')

end IsCut

namespace IsFirstUnfilled

variable {cs start start' part part' before after : List Char}

/-- The first segment that is not filled is the one behind the filled ones. -/
theorem iff_exists_cut : IsFirstUnfilled cs start part ↔ ∃ filled more verb,
    IsCut cs (filled ++ part :: more) verb ∧ (∀ q ∈ filled, isUnfilled q = false) ∧
      isUnfilled part = true ∧ start = filled.flatMap ('/' :: ·) ++ ['/'] := by
  constructor
  · rintro ⟨parts, verb, hcut, hpart, rfl⟩
    obtain ⟨hunfilled, filled, more, rfl, hfilled⟩ := List.find?_eq_some_iff_append.1 hpart
    refine ⟨filled, more, verb, hcut, by simpa using hfilled, hunfilled, ?_⟩
    rw [List.takeWhile_append_of_pos hfilled, List.takeWhile_cons_of_neg (by simp [hunfilled]),
      List.append_nil]
  · rintro ⟨filled, more, verb, hcut, hfilled, hunfilled, rfl⟩
    have hnot : ∀ q ∈ filled, (!isUnfilled q) = true := by simpa using hfilled
    refine ⟨_, verb, hcut, List.find?_eq_some_iff_append.2 ⟨hunfilled, filled, more, rfl, hnot⟩, ?_⟩
    rw [List.takeWhile_append_of_pos hnot, List.takeWhile_cons_of_neg (by simp [hunfilled]),
      List.append_nil]

/-- There is only one first segment that is not filled. -/
theorem unique (h : IsFirstUnfilled cs start part) (h' : IsFirstUnfilled cs start' part') :
    start = start' ∧ part = part' := by
  obtain ⟨parts, verb, hcut, hpart, rfl⟩ := h
  obtain ⟨parts', verb', hcut', hpart', rfl⟩ := h'
  obtain rfl := hcut.parts_eq hcut'
  exact ⟨rfl, Option.some_inj.1 (hpart.symm.trans hpart')⟩

theorem exists_append (h : IsFirstUnfilled cs start part) :
    ∃ tail, cs = start ++ (part ++ tail) := by
  obtain ⟨filled, more, verb, hcut, -, -, rfl⟩ := iff_exists_cut.1 h
  refine ⟨layout more verb, ?_⟩
  rw [hcut.eq_layout]
  simp [layout]

/-- The brace that an unfilled segment starts with is closed in the segment. -/
theorem exists_cons (h : IsFirstUnfilled cs start part) :
    ∃ rest, part = '\x7b' :: rest ∧ Closes rest := by
  obtain ⟨filled, more, verb, hcut, -, hunfilled, -⟩ := iff_exists_cut.1 h
  have htext : IsSegmentText false part := hcut.isSegmentText part (by simp)
  have hhead : part.head? = some '\x7b' := by
    simp only [isUnfilled, Bool.and_eq_true, decide_eq_true_eq] at hunfilled
    exact hunfilled.1
  obtain ⟨rest, rfl⟩ := List.head?_eq_some_iff.1 hhead
  cases htext with
  | opens hrest => exact ⟨rest, rfl, hrest.closes_of_inside⟩
  | plain hopen => exact absurd rfl hopen

end IsFirstUnfilled

/-- The text of the first segment that is not filled stands further to the left as well. -/
def HasEarlierCopy (cs : List Char) : Prop :=
  ∃ start part, IsFirstUnfilled cs start part ∧
    ∃ earlier later, cs = earlier ++ (part ++ later) ∧ earlier.length < start.length

/-- The first copy of a segment is the segment exactly if there is no earlier one. -/
theorem IsFirstUnfilled.eq_start_iff {cs start part before after : List Char}
    (h : IsFirstUnfilled cs start part) (hcopy : IsFirstCopy part cs before after) :
    before = start ↔ ¬ HasEarlierCopy cs := by
  obtain ⟨hbefore, hfirst⟩ := hcopy
  constructor
  · rintro rfl ⟨start', part', h', earlier, later, hearlier, hlt⟩
    obtain ⟨rfl, rfl⟩ := h.unique h'
    exact absurd (hfirst earlier later hearlier) (Nat.not_le.2 hlt)
  · intro hnone
    obtain ⟨tail, hstart⟩ := h.exists_append
    have hle : before.length ≤ start.length := hfirst start tail hstart
    have hge : start.length ≤ before.length := by
      by_contra hlt
      exact hnone ⟨start, part, h, before, after, hbefore, Nat.not_le.1 hlt⟩
    exact (List.append_inj (hbefore.symm.trans hstart) (Nat.le_antisymm hle hge)).1

/-! ## The faults of a template -/

/-- The place where an unfilled segment is found is explained by the segment exactly if nothing
before it has the same text. -/
theorem IsFirstUnfilled.pointsAt {cs start part : List Char} (h : IsFirstUnfilled cs start part) :
    let fault : Fault := .unclosedBrace ((findOffset part cs).getD 0)
    ∃ before after, fault.PointsAt cs before after ∧
      (fault.Explains cs before after ↔ ¬ HasEarlierCopy cs) ∧
      ∃ later, IsFirstCopy part cs before later := by
  intro fault
  obtain ⟨tail, hstart⟩ := h.exists_append
  obtain ⟨position, hposition⟩ : ∃ position, findOffset part cs = some position :=
    Option.ne_none_iff_exists'.1 (hstart ▸ findOffset_append_ne_none start part tail)
  obtain ⟨before, after, hcopy, hbefore⟩ := of_findOffset_eq_some hposition
  obtain ⟨rest, hpart, hcloses⟩ := h.exists_cons
  refine ⟨before, rest ++ after, ⟨?_, ?_⟩, ?_, after, hcopy⟩
  · simpa [hpart, fault, Fault.brace] using hcopy.1
  · simp [fault, Fault.position?, hposition, hbefore]
  · rw [← h.eq_start_iff hcopy]
    constructor
    · rintro (hopen | ⟨part', h'⟩)
      · exact absurd (hcloses.append after) hopen
      · exact (h'.unique h).1
    · rintro rfl
      exact .inr ⟨part, h⟩

/-- The faults of the scan are explained by the braces that they point at. A text with such a fault
has no segments, so none of them is unfilled. -/
theorem explains_of_splitSegments_eq_error {rest path : List Char} {verb : Option (List Char)}
    {fault : Fault} (hverb : splitVerb rest = (path, verb))
    (h : splitSegments none 1 path = .error fault) :
    (∃ before after, fault.PointsAt ('/' :: rest) before after ∧
      fault.Explains ('/' :: rest) before after) ∧
      ∀ start part, ¬ IsFirstUnfilled ('/' :: rest) start part := by
  constructor
  · obtain ⟨rfl, hchars, -⟩ := splitVerb_eq_iff.1 hverb
    have hslash : Scanned none ['/'] :=
      (Scanned.outside ⟨not_closes_of_not_mem List.not_mem_nil, rfl⟩).plain (by decide) (by decide)
    have htail : '\x7d' ∉ verbSuffix verb := by
      cases verb with
      | none => exact List.not_mem_nil
      | some v =>
          intro hmem
          rcases List.mem_cons.1 hmem with hcolon | hmem
          · exact absurd hcolon (by decide)
          · exact absurd (hchars v rfl _ hmem) (by decide)
    exact hslash.explains htail h
  · rintro start part ⟨parts, verb', hcut, -⟩
    obtain ⟨path', hpath', hsplit⟩ := isCut_cons_iff.1 hcut
    obtain ⟨rfl, -⟩ := Prod.mk.inj (hverb.symm.trans hpath')
    have hparts : splitSegments none 1 path = .ok parts := splitSegments_eq_ok_iff.2 hsplit
    rw [h] at hparts
    cases hparts

/-- **The faults of a template with a position**: where they point, and when that explains them. -/
theorem of_parseChars_eq_error {cs : List Char} {fault : Fault} {position : Nat}
    (h : parseChars cs = .error fault) (hposition : fault.position? = some position) :
    ∃ before after, fault.PointsAt cs before after ∧
      (fault.Explains cs before after ↔
        (fault = .unclosedBrace position → ¬ HasEarlierCopy cs)) ∧
      ∀ start part, IsFirstUnfilled cs start part →
        ∃ later, IsFirstCopy part cs before later := by
  unfold parseChars at h
  split at h
  · rename_i rest
    cases hverb : splitVerb rest with
    | mk path verb =>
        simp only [hverb] at h
        rcases except_bind_eq_error_iff.1 h with hscan | ⟨parts, hparts, h⟩
        · obtain ⟨⟨before, after, hpoints, hexplains⟩, hnone⟩ :=
            explains_of_splitSegments_eq_error hverb hscan
          refine ⟨before, after, hpoints, iff_of_true hexplains ?_, ?_⟩
          · rintro - ⟨start, part, hfirst, -⟩
            exact hnone start part hfirst
          · exact fun start part hfirst => absurd hfirst (hnone start part)
        rcases except_bind_eq_error_iff.1 h with hsegments | ⟨segments, -, hpure⟩
        · obtain ⟨filled, part, more, rfl, hfilled, hpart⟩ :=
            except_mapM_eq_error_iff.1 hsegments
          obtain ⟨hunfilled, rfl⟩ := of_parseSegment_eq_error hpart hposition
          have hfilled : ∀ q ∈ filled, isUnfilled q = false := by
            intro q hq
            obtain ⟨segment, hsegment⟩ := hfilled q hq
            exact (parseSegment_eq_ok_iff.1 hsegment).isUnfilled_eq_false
          have hfirst : IsFirstUnfilled ('/' :: rest) _ part :=
            IsFirstUnfilled.iff_exists_cut.2 ⟨filled, more, verb,
              isCut_cons_iff.2 ⟨path, hverb, isSplit_of_splitSegments hparts⟩, hfilled,
              hunfilled, rfl⟩
          obtain ⟨before, after, hpoints, hiff, hcopy⟩ := hfirst.pointsAt
          have hsame : Fault.unclosedBrace ((findOffset part ('/' :: rest)).getD 0) =
              .unclosedBrace position := congrArg Fault.unclosedBrace (Option.some_inj.1 hposition)
          refine ⟨before, after, hpoints,
            hiff.trans ⟨fun hnone _ => hnone, fun hnone => hnone hsame⟩, ?_⟩
          intro start part' h'
          obtain ⟨-, rfl⟩ := h'.unique hfirst
          exact hcopy
        · cases hpure
  · cases h
    cases hposition

/-- **Positions in template errors are those of braces, and of the right ones unless a segment has
an earlier copy.** An error with a position is about the template that was read, and at its
position, counted in bytes, stands the brace that the error is about. A closing brace that is called
unmatched has only balanced braces before it, and an opening brace that is called nested has an open
one before it. An opening brace that is called unclosed is never closed, or it starts the first
segment that starts with a brace and does not end with one. This last statement fails exactly if the
text of that segment stands further to the left in the template as well, since the position is in
any case that of the first copy. -/
theorem position_explained_iff {template : String} {e : ParseError} {position : Nat}
    (h : parse template = .error e) (hposition : e.fault.position? = some position) :
    e.template = template ∧ ∃ before after,
      StandsAt template position before e.fault.brace after ∧
      template.toUTF8[position]? = some e.fault.brace.toUInt8 ∧
      (e.fault.Explains template.toList before after ↔
        (e.fault = .unclosedBrace position → ¬ HasEarlierCopy template.toList)) ∧
      ∀ start part, IsFirstUnfilled template.toList start part →
        ∃ later, IsFirstCopy part template.toList before later := by
  obtain ⟨fault, hfault, rfl⟩ := except_mapError_eq_error_iff.1 h
  obtain ⟨before, after, hpoints, hiff, hcopy⟩ := of_parseChars_eq_error hfault hposition
  have hstands : StandsAt template position before fault.brace after :=
    ⟨hpoints.eq_append, Option.some_inj.1 (hpoints.position?_eq.symm.trans hposition)⟩
  have hbyte : fault.brace.utf8Size = 1 := by
    cases fault <;> rfl
  exact ⟨rfl, before, after, hstands, hstands.getElem?_toUTF8 hbyte, hiff, hcopy⟩

/-- The text of the second segment stands in the first one as well, which is where the error points.
That brace is closed right behind it. -/
theorem position_of_earlier_copy :
    let template := "/x\x7ba\x7db/\x7ba\x7db"
    let e : ParseError := ⟨template, .unclosedBrace 2⟩
    parse template = .error e ∧ ∃ before after,
      StandsAt template 2 before '\x7b' after ∧
        ¬ e.fault.Explains template.toList before after := by
  intro template e
  have h : parse template = .error e := by decide
  obtain ⟨-, before, after, hstands, -, hiff, -⟩ := position_explained_iff h rfl
  refine ⟨h, before, after, hstands, fun hexplains => hiff.1 hexplains rfl ?_⟩
  have htext : template.toList = '/' :: "x\x7ba\x7db/\x7ba\x7db".toList := by decide
  have hverb : splitVerb "x\x7ba\x7db/\x7ba\x7db".toList =
      ("x\x7ba\x7db/\x7ba\x7db".toList, none) := by decide
  have hparts : splitSegments none 1 "x\x7ba\x7db/\x7ba\x7db".toList =
      .ok ["x\x7ba\x7db".toList, "\x7ba\x7db".toList] := by decide
  have hcut : IsCut template.toList ["x\x7ba\x7db".toList, "\x7ba\x7db".toList] none :=
    htext ▸ isCut_cons_iff.2 ⟨_, hverb, isSplit_of_splitSegments hparts⟩
  have hfirst : IsFirstUnfilled template.toList "/x\x7ba\x7db/".toList "\x7ba\x7db".toList :=
    ⟨_, none, hcut, by decide, by decide⟩
  exact ⟨_, _, hfirst, "/x".toList, "/\x7ba\x7db".toList, by decide, by decide⟩

end PathTemplate

end ApiAnnotator
