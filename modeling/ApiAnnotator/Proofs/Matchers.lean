import ApiAnnotator.PathTemplate.Matcher
import ApiAnnotator.Proofs.JoinedParts
import Mathlib.Data.List.Chain

/-!
# Matchers lose nothing

Compiling the pieces of a variable puts literal text together across slashes and tells the wildcards
apart. Written one after the other, the matchers are the pieces as they were, slashes included, so
nothing is lost; and as the slashes can be told from the pieces, nothing is confused either. What
comes out is a normal form: wildcards are between any two literals, none of which is empty, and the
deep wildcard that may match nothing stands at the end only.

## Main definitions

* `Matcher.written` — a matcher as it was written in the pieces.
* `Matcher.IsNormal` — the form of compiled matchers.

## Main statements

* `Matcher.ofPieces_cons` — what the first piece adds to the matchers.
* `Matcher.join_map_written_ofPieces`, `Matcher.isNormal_ofPieces` and
  `Matcher.getLast?_ofPieces_eq_trailing_iff` — the three invariants.
* `Matcher.compile_loses_nothing` — **compiled matchers are the pieces in normal form**.
-/

namespace ApiAnnotator.Matcher

/-- The matcher as it was written in the pieces: a literal with its text, and a wildcard with its
stars. -/
def written : Matcher → String
  | literal text => text
  | single => wildcard
  | multi => deepWildcard
  | trailing => deepWildcard

/-- Whether the matcher is literal text. -/
def isLiteral : Matcher → Bool
  | literal _ => true
  | _ => false

/-- No literal is empty, no two literals are neighbours, and the wildcard that may match nothing can
only be the last of the matchers. -/
structure IsNormal (matchers : List Matcher) : Prop where
  empty_notMem : literal "" ∉ matchers
  isChain : matchers.IsChain fun a b => ¬ (a.isLiteral = true ∧ b.isLiteral = true)
  trailing_notMem_dropLast : trailing ∉ matchers.dropLast

/-- The slash before further pieces. -/
def slashBefore (pieces : List String) : String :=
  if pieces.isEmpty then "" else "/"

variable {several : Bool} {pending piece : String} {pieces : List String} {w : Matcher}
  {matchers : List Matcher}

/-! ## One piece -/

/-- **What the first piece adds to the matchers.** A wildcard gives a matcher of its own, after the
pending text, and any other piece adds to the pending text. -/
theorem ofPieces_cons (several : Bool) (pending piece : String) (pieces : List String) :
    (∃ w : Matcher, w.isLiteral = false ∧ w.written = piece ∧
      (w = trailing ↔ piece = deepWildcard ∧ pieces = [] ∧ several = true) ∧
      ofPieces several pending (piece :: pieces) =
        ofLiteral pending ++ w :: ofPieces several (slashBefore pieces) pieces) ∨
    (piece ≠ deepWildcard ∧ ofPieces several pending (piece :: pieces) =
      ofPieces several (pending ++ piece ++ slashBefore pieces) pieces) := by
  by_cases hsingle : piece = wildcard
  · subst hsingle
    refine .inl ⟨single, rfl, rfl, iff_of_false (by decide) fun h => absurd h.1 (by decide), ?_⟩
    rw [ofPieces, if_pos rfl]
    rfl
  by_cases hdeep : piece = deepWildcard
  · subst hdeep
    refine .inl ⟨if (pieces.isEmpty && several) = true then trailing else multi, ?_, ?_, ?_, ?_⟩
    · split <;> rfl
    · split <;> rfl
    · split <;> simp_all
    · rw [ofPieces, if_neg hsingle, if_pos rfl]
      rfl
  · refine .inr ⟨hdeep, ?_⟩
    rw [ofPieces, if_neg hsingle, if_neg hdeep]
    rfl

/-! ## The written form -/

theorem join_map_written_ofLiteral (text : String) :
    String.join ((ofLiteral text).map written) = text := by
  unfold ofLiteral
  split
  · simp_all
  · simp [written]

/-- Joined pieces begin with the first one, and go on after a slash. -/
theorem join_cons (piece : String) (pieces : List String) :
    Text.join "/" (piece :: pieces) = piece ++ slashBefore pieces ++ Text.join "/" pieces := by
  cases pieces with
  | nil => simp [Text.join, slashBefore, List.intercalate]
  | cons second rest =>
      simp [Text.join, slashBefore, List.intercalate_cons_cons, String.append_assoc]

/-- **Nothing is lost.** -/
theorem join_map_written_ofPieces (several : Bool) (pending : String) (pieces : List String) :
    String.join ((ofPieces several pending pieces).map written) =
      pending ++ Text.join "/" pieces := by
  induction pieces generalizing pending with
  | nil => simp [ofPieces, join_map_written_ofLiteral, Text.join]
  | cons piece pieces ih =>
      rw [join_cons]
      obtain ⟨w, -, hwritten, -, hcons⟩ | ⟨-, hcons⟩ := ofPieces_cons several pending piece pieces
      · rw [hcons, List.map_append, List.map_cons]
        simp [join_map_written_ofLiteral, hwritten, ih, String.append_assoc]
      · rw [hcons, ih]
        simp [String.append_assoc]

/-! ## The normal form -/

theorem isNormal_ofLiteral (text : String) : IsNormal (ofLiteral text) := by
  unfold ofLiteral
  split
  · exact ⟨by simp, .nil, by simp⟩
  · exact ⟨by simp_all, .singleton _, by simp⟩

/-- Further matchers stay in normal form after pending text and a wildcard. -/
theorem IsNormal.ofLiteral_append_cons (h : IsNormal matchers) (hw : w.isLiteral = false)
    (htrailing : w = trailing → matchers = []) (pending : String) :
    IsNormal (ofLiteral pending ++ w :: matchers) where
  empty_notMem := by
    have hne : w ≠ literal "" := by
      rintro rfl
      cases hw
    simpa [hne.symm, h.empty_notMem] using (isNormal_ofLiteral pending).empty_notMem
  isChain := by
    have hrest : (w :: matchers).IsChain fun a b => ¬ (a.isLiteral = true ∧ b.isLiteral = true) :=
      List.isChain_cons.2 ⟨by simp [hw], h.isChain⟩
    exact List.isChain_append.2 ⟨(isNormal_ofLiteral pending).isChain, hrest, by simp [hw]⟩
  trailing_notMem_dropLast := by
    have hlead : trailing ∉ ofLiteral pending := by
      unfold ofLiteral
      split <;> simp
    rw [List.dropLast_append_of_ne_nil (List.cons_ne_nil w matchers), List.mem_append]
    rintro (hmem | hmem)
    · exact hlead hmem
    · cases matchers with
      | nil => simp at hmem
      | cons next more =>
          rw [List.dropLast_cons_cons, List.mem_cons] at hmem
          rcases hmem with heq | hmem
          · exact absurd (htrailing heq.symm) (List.cons_ne_nil next more)
          · exact h.trailing_notMem_dropLast hmem

/-- **Compiled matchers are in normal form.** -/
theorem isNormal_ofPieces (several : Bool) (pending : String) (pieces : List String) :
    IsNormal (ofPieces several pending pieces) := by
  induction pieces generalizing pending with
  | nil => exact isNormal_ofLiteral pending
  | cons piece pieces ih =>
      obtain ⟨w, hw, -, htrailing, hcons⟩ | ⟨-, hcons⟩ := ofPieces_cons several pending piece pieces
      · rw [hcons]
        refine (ih _).ofLiteral_append_cons hw (fun heq => ?_) pending
        obtain ⟨-, rfl, -⟩ := htrailing.1 heq
        rfl
      · rw [hcons]
        exact ih _

/-- **The wildcard that may match nothing is the last matcher exactly if a deep wildcard is the last
of several pieces.** -/
theorem getLast?_ofPieces_eq_trailing_iff (several : Bool) (pending : String)
    (pieces : List String) :
    (ofPieces several pending pieces).getLast? = some trailing ↔
      several = true ∧ pieces.getLast? = some deepWildcard := by
  induction pieces generalizing pending with
  | nil =>
      have hlead : (ofLiteral pending).getLast? ≠ some trailing := by
        unfold ofLiteral
        split <;> simp
      simpa [ofPieces] using hlead
  | cons piece pieces ih =>
      obtain ⟨w, -, -, htrailing, hcons⟩ | ⟨hne, hcons⟩ :=
        ofPieces_cons several pending piece pieces
      · rw [hcons, List.getLast?_append_of_ne_nil _ (List.cons_ne_nil w _), List.getLast?_cons]
        cases pieces with
        | nil =>
            have hrest : ofPieces several (slashBefore []) [] = [] := rfl
            rw [hrest]
            simp [htrailing, and_comm]
        | cons second more =>
            have hw : w ≠ trailing := fun heq => List.cons_ne_nil second more (htrailing.1 heq).2.1
            rw [List.getLast?_cons_cons, ← ih (slashBefore (second :: more))]
            cases (ofPieces several (slashBefore (second :: more)) (second :: more)).getLast? <;>
              simp [hw]
      · rw [hcons, ih]
        cases pieces with
        | nil => simp [hne]
        | cons second more => rw [List.getLast?_cons_cons]

/-! ## Compiled pieces -/

/-- The wildcard that may match nothing is there exactly if it is the last of the matchers. -/
theorem IsNormal.trailing_mem_iff (h : IsNormal matchers) :
    trailing ∈ matchers ↔ matchers.getLast? = some trailing := by
  refine ⟨fun hmem => ?_, List.mem_of_getLast?⟩
  have hne : matchers ≠ [] := List.ne_nil_of_mem hmem
  rw [← List.dropLast_append_getLast hne, List.mem_append, List.mem_singleton] at hmem
  have hlast : trailing = matchers.getLast hne :=
    hmem.resolve_left h.trailing_notMem_dropLast
  rw [List.getLast?_eq_some_getLast hne, hlast]

theorem join_map_written_compile (pieces : List String) :
    String.join ((compile pieces).map written) = Text.join "/" pieces := by
  rw [compile, join_map_written_ofPieces, String.empty_append]

theorem getLast?_compile_eq_trailing_iff (pieces : List String) :
    (compile pieces).getLast? = some trailing ↔
      1 < pieces.length ∧ pieces.getLast? = some deepWildcard := by
  rw [compile, getLast?_ofPieces_eq_trailing_iff, decide_eq_true_iff]

/-- **Compiled matchers are the pieces in normal form.** Written one after the other they are the
pieces with slashes between them; no literal among them is empty or next to another one; the
wildcard that may match nothing is among them exactly if a deep wildcard is the last of several
pieces, and then it is there once, as the last of the matchers. So different non-empty lists of
pieces without slashes have different matchers. -/
theorem compile_loses_nothing :
    (∀ pieces, String.join ((compile pieces).map written) = Text.join "/" pieces ∧
      IsNormal (compile pieces) ∧
      (trailing ∈ compile pieces ↔ 1 < pieces.length ∧ pieces.getLast? = some deepWildcard) ∧
      ((compile pieces).getLast? = some trailing ↔
        1 < pieces.length ∧ pieces.getLast? = some deepWildcard)) ∧
    Set.InjOn compile {pieces | pieces ≠ [] ∧ ∀ piece ∈ pieces, '/' ∉ piece.toList} := by
  refine ⟨fun pieces => ?_, ?_⟩
  · have hnormal : IsNormal (compile pieces) := isNormal_ofPieces _ _ pieces
    have hlast := getLast?_compile_eq_trailing_iff pieces
    exact ⟨join_map_written_compile pieces, hnormal, hnormal.trailing_mem_iff.trans hlast, hlast⟩
  · intro pieces hpieces pieces' hpieces' h
    refine Text.injOn_join '/' hpieces hpieces' ?_
    calc Text.join "/" pieces
        = String.join ((compile pieces).map written) := (join_map_written_compile pieces).symm
      _ = String.join ((compile pieces').map written) := by rw [h]
      _ = Text.join "/" pieces' := join_map_written_compile pieces'

example : compile ["projects", "*", "secrets", "**"] =
    [literal "projects/", single, literal "/secrets/", trailing] := by decide

end ApiAnnotator.Matcher
