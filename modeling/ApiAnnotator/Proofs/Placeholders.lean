import ApiAnnotator.Proofs.PathTemplates
import ApiAnnotator.Routing.Route
import ApiAnnotator.Text.Spellings

/-!
# The placeholders of a path

The path of a route has a placeholder for each variable of its template, and for each placeholder
there is something to put into it. Whoever fills in the path finds the placeholders by their braces,
so a brace that stands in a literal or in the verb is taken for a placeholder or makes the path
unreadable. Reading a template keeps braces out of neither: a segment with a brace further on is a
literal, and the verb is cut off before braces are looked at.

## Main definitions

* `placeholders?` — how many placeholders a path has, if its braces are in order.
* `PathTemplate.fixedText` — the text of a template outside of its variables.

## Main statements

* `placeholders?_format` — the placeholders of a path are the variables and what braces the fixed
  text has.
* `placeholders?_route_iff` — **when placeholders match what is put into them**.
-/

namespace ApiAnnotator

open PathTemplate

/-- The number of placeholders in a path; there is none if any brace is not part of one. -/
def placeholders? : List Char → Option Nat
  | [] => some 0
  | '\x7b' :: '\x7d' :: rest => (placeholders? rest).map (· + 1)
  | c :: rest => if c = '\x7b' ∨ c = '\x7d' then none else placeholders? rest

/-- A text without braces. -/
def BraceFree (cs : List Char) : Prop :=
  '\x7b' ∉ cs ∧ '\x7d' ∉ cs

/-! ## Counting placeholders -/

theorem placeholders?_cons {c : Char} {rest : List Char} (hopen : c ≠ '\x7b')
    (hclose : c ≠ '\x7d') : placeholders? (c :: rest) = placeholders? rest := by
  simp [placeholders?, hopen, hclose]

/-- Placeholders are counted piece by piece as long as no piece starts with a closing brace. -/
theorem placeholders?_append {cs tail : List Char} (htail : tail.head? ≠ some '\x7d') :
    placeholders? (cs ++ tail) =
      (placeholders? cs).bind fun m => (placeholders? tail).map (m + ·) := by
  fun_induction placeholders? cs with
  | case1 => simp
  | case2 rest ih =>
      rw [List.cons_append, List.cons_append, placeholders?, ih]
      cases placeholders? rest <;> cases placeholders? tail <;> simp [Nat.add_right_comm]
  | case3 c rest hpair hbrace =>
      have hpair' : ∀ rest', c = '\x7b' → rest ++ tail ≠ '\x7d' :: rest' := by
        intro rest' hc h
        cases rest with
        | nil => exact htail (by rw [← List.nil_append tail, h]; rfl)
        | cons d rest => exact hpair rest hc (by rw [(List.cons.inj h).1])
      rw [List.cons_append, placeholders?, if_pos hbrace]
      · rfl
      · exact hpair'
  | case4 c rest hpair hbrace ih =>
      rw [not_or] at hbrace
      rw [List.cons_append, placeholders?_cons hbrace.1 hbrace.2, ih]

/-- A text has no placeholders exactly if it has no braces. -/
theorem placeholders?_eq_zero_iff {cs : List Char} : placeholders? cs = some 0 ↔ BraceFree cs := by
  fun_induction placeholders? cs with
  | case1 => simp [BraceFree]
  | case2 rest ih => simp [BraceFree]
  | case3 c rest hpair hbrace =>
      rcases hbrace with rfl | rfl <;> simp [BraceFree]
  | case4 c rest hpair hbrace ih =>
      rw [not_or] at hbrace
      rw [ih]
      simp [BraceFree, Ne.symm hbrace.1, Ne.symm hbrace.2]

/-! ## Placeholders of a template -/

namespace PathTemplate

/-- The literal segments of a template in order. -/
def literals (t : PathTemplate) : List String :=
  t.segments.filterMap fun
    | .literal text => some text
    | .variable _ => none

/-- The text of a template outside of its variables. -/
def fixedText (t : PathTemplate) : List Char :=
  layout (t.literals.map String.toList) (t.verb.map String.toList)

/-- Placeholders are counted part by part, since slashes and the colon of the verb stand between
the parts. -/
theorem placeholders?_layout_cons (part : List Char) (parts : List (List Char))
    (verb : Option (List Char)) :
    placeholders? (layout (part :: parts) verb) =
      (placeholders? part).bind fun m => (placeholders? (layout parts verb)).map (m + ·) := by
  have hhead : (layout parts verb).head? ≠ some '\x7d' := by
    cases parts <;> cases verb <;> simp [layout, verbSuffix]
  have hcons : layout (part :: parts) verb = '/' :: (part ++ layout parts verb) := by
    simp [layout]
  rw [hcons, placeholders?_cons (by decide) (by decide), placeholders?_append hhead]

/-- **The placeholders of a path** are one for each variable and what the braces of the fixed text
are taken for. -/
theorem placeholders?_format (t : PathTemplate) :
    placeholders? t.format.toList = (placeholders? t.fixedText).map (t.vars.length + ·) := by
  obtain ⟨segments, verb⟩ := t
  rw [format, toList_assemble]
  induction segments with
  | nil => simp [fixedText, literals, vars]
  | cons segment segments ih =>
      rw [List.map_cons, placeholders?_layout_cons, ih]
      cases segment with
      | literal text =>
          have hfixed : fixedText ⟨.literal text :: segments, verb⟩ =
              layout (text.toList :: (literals ⟨segments, verb⟩).map String.toList)
                (verb.map String.toList) := rfl
          have hvars : vars ⟨.literal text :: segments, verb⟩ = vars ⟨segments, verb⟩ := rfl
          rw [hfixed, placeholders?_layout_cons, hvars, Segment.format, fixedText]
          cases placeholders? text.toList with
          | none => rfl
          | some m =>
              simp only [Option.bind_some, Option.map_map]
              congr 1
              funext n
              exact Nat.add_left_comm _ _ _
      | «variable» v =>
          have hfixed : fixedText ⟨.variable v :: segments, verb⟩ = fixedText ⟨segments, verb⟩ :=
            rfl
          have hvars : vars ⟨.variable v :: segments, verb⟩ = v :: vars ⟨segments, verb⟩ := rfl
          have hone : placeholders? (Segment.variable v).format.toList = some 1 := by
            simp [Segment.format, placeholders?]
          rw [hfixed, hvars, hone]
          simp only [Option.bind_some, Option.map_map]
          congr 1
          funext n
          simp only [Function.comp_apply, List.length_cons]
          omega

/-- The placeholders of a path are those of the variables exactly if the fixed text has no braces.
-/
theorem placeholders?_format_iff {t : PathTemplate} :
    placeholders? t.format.toList = some t.vars.length ↔ BraceFree t.fixedText := by
  rw [placeholders?_format, Option.map_eq_some_iff, ← placeholders?_eq_zero_iff]
  constructor
  · rintro ⟨n, hn, hsum⟩
    obtain rfl : n = 0 := by omega
    exact hn
  · intro h
    exact ⟨0, h, rfl⟩

/-! ## Braces that are read -/

theorem IsSegmentText.mem_of_mem {inside : Bool} {text : List Char} (h : IsSegmentText inside text)
    (hclose : '\x7d' ∈ text) : inside = true ∨ '\x7b' ∈ text := by
  induction h with
  | done => simp at hclose
  | opens => exact .inr List.mem_cons_self
  | closes => exact .inl rfl
  | plain _ hc _ _ ih =>
      rcases List.mem_cons.1 hclose with h | h
      · exact absurd h.symm hc
      · exact (ih h).imp_right (List.mem_cons_of_mem _)

/-- A literal is the part that it has been read from. -/
theorem isSegmentText_of_mem_literals {s text : String} {t : PathTemplate} (h : parse s = .ok t)
    (htext : text ∈ t.literals) : IsSegmentText false text.toList := by
  obtain ⟨parts, hcut, hdenotes⟩ := parseChars_eq_ok_iff.1 (parse_eq_ok_iff.1 h)
  obtain ⟨segment, hsegment, hliteral⟩ := List.mem_filterMap.1 htext
  obtain ⟨part, hpart, hpartDenotes⟩ := exists_mem_of_forall₂ hdenotes hsegment
  cases hpartDenotes with
  | literal =>
      obtain rfl := Option.some_inj.1 hliteral
      rw [String.toList_ofList]
      exact hcut.isSegmentText part hpart
  | bound => cases hliteral

/-- In the fixed text of a template that has been read, a closing brace comes with an opening one.
-/
theorem braceFree_fixedText_iff {s : String} {t : PathTemplate} (h : parse s = .ok t) :
    BraceFree t.fixedText ↔ '\x7b' ∉ t.fixedText := by
  refine ⟨And.left, fun hopen => ⟨hopen, fun hclose => ?_⟩⟩
  obtain ⟨parts, hcut, -⟩ := parseChars_eq_ok_iff.1 (parse_eq_ok_iff.1 h)
  rw [fixedText, layout, List.mem_append] at hopen hclose
  rw [not_or] at hopen
  rcases hclose with hclose | hclose
  · simp only [List.mem_flatMap, List.mem_map] at hclose
    obtain ⟨_, ⟨text, htext, rfl⟩, hclose⟩ := hclose
    have hmem : '\x7d' ∈ text.toList := by simpa using hclose
    rcases (isSegmentText_of_mem_literals h htext).mem_of_mem hmem with hfalse | hmem
    · cases hfalse
    · exact hopen.1 (List.mem_flatMap.2 ⟨_, List.mem_map_of_mem htext, List.mem_cons_of_mem _ hmem⟩)
  · cases hverb : t.verb.map String.toList with
    | none => simp [hverb, verbSuffix] at hclose
    | some verb =>
        rw [hverb, verbSuffix, List.mem_cons] at hclose
        have hchar := hcut.isVerbChar verb hverb '\x7d' (hclose.resolve_left (by decide))
        exact absurd hchar (by decide)

end PathTemplate

/-! ## Placeholders and what is put into them -/

theorem Noted.value_mapM {α β : Type} (f : α → Noted β) (xs : List α) :
    (xs.mapM f).value = xs.map fun x => (f x).value := by
  induction xs with
  | nil => rfl
  | cons x xs ih => simp [List.mapM_cons, ih]

/-- The warnings of a run over a list are those for its items, in order. -/
theorem Noted.warnings_mapM {α β : Type} (f : α → Noted β) (xs : List α) :
    (xs.mapM f).warnings = xs.flatMap fun x => (f x).warnings := by
  induction xs with
  | nil => rfl
  | cons x xs ih => simp [List.mapM_cons, ih]

section Route

variable [Speller] (api : Api) (methodId : String) (input : Message) (body : Option String)

@[simp] theorem pathFormat_route (b : Binding) :
    (api.route methodId input body b).value.pathFormat = b.template.format := rfl

/-- A route has one substitution for each variable of its template, in their order. -/
theorem fieldPath_substitutions_route (b : Binding) :
    (api.route methodId input body b).value.substitutions.map (·.fieldPath) =
      b.template.vars.map Variable.dotted := by
  have hsubstitutions : (api.route methodId input body b).value.substitutions =
      (b.template.vars.mapM (api.substitution methodId input)).value := rfl
  rw [hsubstitutions, Noted.value_mapM, List.map_map]
  rfl

end Route

/-- **Placeholders match substitutions exactly if no brace stands outside of variables.** For a
template that has been read, the path has one placeholder for each variable and no other brace if
and only if neither a literal segment nor the verb has an opening brace. The same condition decides
for every route with the template whether its path has as many placeholders as it has substitutions,
which belong to the variables in their order. -/
theorem placeholders?_route_iff [Speller] {s : String} {t : PathTemplate} (h : parse s = .ok t) :
    (placeholders? t.format.toList = some t.vars.length ↔ '\x7b' ∉ t.fixedText) ∧
    ∀ (api : Api) (methodId : String) (input : Message) (body : Option String) (verb : String),
      let route := (api.route methodId input body ⟨verb, t⟩).value
      route.substitutions.map (·.fieldPath) = t.vars.map Variable.dotted ∧
        (placeholders? route.pathFormat.toList = some route.substitutions.length ↔
          '\x7b' ∉ t.fixedText) := by
  have hformat : placeholders? t.format.toList = some t.vars.length ↔ '\x7b' ∉ t.fixedText :=
    placeholders?_format_iff.trans (braceFree_fixedText_iff h)
  refine ⟨hformat, fun api methodId input body verb => ?_⟩
  have hpaths := fieldPath_substitutions_route api methodId input body ⟨verb, t⟩
  have hlength := congrArg List.length hpaths
  rw [List.length_map, List.length_map] at hlength
  refine ⟨hpaths, ?_⟩
  rw [pathFormat_route, hlength]
  exact hformat

/-- A verb that begins with a brace makes a path without variables unreadable, and braces in a
literal are taken for a placeholder that nothing is put into. -/
theorem placeholders?_of_stray_braces :
    let verb : PathTemplate := ⟨[.literal "v1", .literal "secrets"], some "\x7b"⟩
    let literal : PathTemplate := ⟨[.literal "v1", .literal "secrets\x7b\x7d"], none⟩
    parse "/v1/secrets:\x7b" = .ok verb ∧ placeholders? verb.format.toList ≠ some verb.vars.length ∧
      parse "/v1/secrets\x7b\x7d" = .ok literal ∧
      placeholders? literal.format.toList ≠ some literal.vars.length := by
  intro verb literal
  have hverb : parse "/v1/secrets:\x7b" = .ok verb := rfl
  have hliteral : parse "/v1/secrets\x7b\x7d" = .ok literal := rfl
  refine ⟨hverb, fun h => ?_, hliteral, fun h => ?_⟩
  · exact (placeholders?_route_iff hverb).1.1 h (by decide)
  · exact (placeholders?_route_iff hliteral).1.1 h (by decide)

end ApiAnnotator
