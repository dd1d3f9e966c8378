import ApiAnnotator.Model.Usage
import ApiAnnotator.Proofs.Reachability

/-!
# Use as a relation

What it means that one type uses another, said without graphs and lists of edges: a message uses the
types of its fields, and a nested type uses its parent. The graphs of an API have exactly these
edges, so what its searches find are the closures of these relations.

## Main definitions

* `Api.FieldUse` — from a message to the type of one of its fields.
* `Api.NestedUse` — from a nested type to its parent.
* `Api.ClosedUnderUse` — a set of IDs that holds whatever its IDs use.

## Main statements

* `Api.isRecursive_iff` — the recursion test decides the closure of `FieldUse`.
* `Api.mem_usedBy_iff` — what is used is the closure of both relations together.
* `Api.usedBy_is_closure` — **what some IDs use is the least set closed under use that they are
  in**.
-/

namespace ApiAnnotator.Api

variable {api : Api} {id target : String}

/-- A message with the first ID has a field whose type has the second one. -/
def FieldUse (api : Api) (id target : String) : Prop :=
  ∃ m ∈ api.messages, m.id = id ∧ ∃ f ∈ m.fields, f.typeId = some target

/-- A type with the first ID is nested in the second one. -/
def NestedUse (api : Api) (id parent : String) : Prop :=
  (∃ m ∈ api.messages, m.id = id ∧ m.parent = some parent) ∨
    ∃ e ∈ api.enums, e.id = id ∧ e.parent = some parent

/-- A type uses another one, by a field or by nesting. -/
def Use (api : Api) (id target : String) : Prop :=
  api.FieldUse id target ∨ api.NestedUse id target

theorem mem_fieldEdges : (id, target) ∈ api.fieldEdges ↔ api.FieldUse id target := by
  simp only [fieldEdges, FieldUse, List.mem_flatMap, List.mem_filterMap, Option.map_eq_some_iff,
    Prod.mk.injEq]
  constructor
  · rintro ⟨m, hm, f, hf, _, htype, rfl, rfl⟩
    exact ⟨m, hm, rfl, f, hf, htype⟩
  · rintro ⟨m, hm, rfl, f, hf, htype⟩
    exact ⟨m, hm, f, hf, target, htype, rfl, rfl⟩

theorem mem_parentEdges : (id, target) ∈ api.parentEdges ↔ api.NestedUse id target := by
  simp only [parentEdges, NestedUse, List.mem_append, List.mem_filterMap, Option.map_eq_some_iff,
    Prod.mk.injEq]
  constructor
  · rintro (⟨m, hm, _, hparent, rfl, rfl⟩ | ⟨e, he, _, hparent, rfl, rfl⟩)
    · exact .inl ⟨m, hm, rfl, hparent⟩
    · exact .inr ⟨e, he, rfl, hparent⟩
  · rintro (⟨m, hm, rfl, hparent⟩ | ⟨e, he, rfl, hparent⟩)
    · exact .inl ⟨m, hm, target, hparent, rfl, rfl⟩
    · exact .inr ⟨e, he, target, hparent, rfl, rfl⟩

/-- Paths in the graph of fields are chains of fields. -/
theorem reachable_fieldGraph_iff :
    api.fieldGraph.Reachable id target ↔ Relation.ReflTransGen api.FieldUse id target := by
  simp only [Graph.Reachable.iff_reflTransGen, fieldGraph, mem_fieldEdges]

/-- Paths in the graph of usage are chains of uses. -/
theorem reachable_usageGraph_iff :
    api.usageGraph.Reachable id target ↔ Relation.ReflTransGen api.Use id target := by
  simp only [Graph.Reachable.iff_reflTransGen, usageGraph, List.mem_append, mem_fieldEdges,
    mem_parentEdges]
  rfl

/-- The recursion test of a declared message asks for a chain of fields back to the message. -/
theorem isRecursive_iff {m : Message} (hm : m ∈ api.messages) :
    api.isRecursive m.id target = true ↔ Relation.ReflTransGen api.FieldUse target m.id := by
  have hvertex : api.isFieldVertex m.id = true := by
    simp only [isFieldVertex, Bool.or_eq_true, List.any_eq_true, decide_eq_true_eq]
    exact .inl ⟨m, hm, rfl⟩
  simp [isRecursive, hvertex, Graph.mem_reach_iff, reachable_fieldGraph_iff]

/-- What is used by some IDs is all that a chain of uses leads to. -/
theorem mem_usedBy_iff {seeds : List String} :
    id ∈ api.usedBy seeds ↔ ∃ s ∈ seeds, Relation.ReflTransGen api.Use s id := by
  simp only [usedBy, Graph.mem_reach_iff, reachable_usageGraph_iff]

/-- What is used takes along all that it uses itself. -/
theorem mem_usedBy_of_use {seeds : List String} (h : id ∈ api.usedBy seeds)
    (huse : api.Use id target) : target ∈ api.usedBy seeds := by
  obtain ⟨s, hs, hpath⟩ := mem_usedBy_iff.1 h
  exact mem_usedBy_iff.2 ⟨s, hs, hpath.tail huse⟩

/-- The seeds are used themselves. -/
theorem mem_usedBy_of_mem {seeds : List String} (h : id ∈ seeds) : id ∈ api.usedBy seeds :=
  mem_usedBy_iff.2 ⟨id, h, .refl⟩

/-! ## The closure of the seeds -/

/-- The types of the fields of every message whose ID is in the set are in the set, and so are the
parents of every message and every enum whose ID is in the set. -/
structure ClosedUnderUse (api : Api) (S : Set String) : Prop where
  typeId_mem : ∀ m ∈ api.messages, m.id ∈ S → ∀ f ∈ m.fields, ∀ target, f.typeId = some target →
    target ∈ S
  messageParent_mem : ∀ m ∈ api.messages, m.id ∈ S → ∀ parent, m.parent = some parent → parent ∈ S
  enumParent_mem : ∀ e ∈ api.enums, e.id ∈ S → ∀ parent, e.parent = some parent → parent ∈ S

/-- No edge of the graph of usage leaves a set exactly if the set is closed under use. -/
theorem closed_usageGraph_iff {S : Set String} :
    api.usageGraph.Closed (· ∈ S) ↔ api.ClosedUnderUse S := by
  have hedges : ∀ id target, (id, target) ∈ api.usageGraph.edges ↔ api.Use id target := by
    simp [usageGraph, mem_fieldEdges, mem_parentEdges, Use]
  simp only [Graph.Closed, hedges]
  constructor
  · intro h
    exact
      { typeId_mem := fun m hm hmem f hf target htype =>
          h m.id target (.inl ⟨m, hm, rfl, f, hf, htype⟩) hmem
        messageParent_mem := fun m hm hmem parent hparent =>
          h m.id parent (.inr (.inl ⟨m, hm, rfl, hparent⟩)) hmem
        enumParent_mem := fun e he hmem parent hparent =>
          h e.id parent (.inr (.inr ⟨e, he, rfl, hparent⟩)) hmem }
  · intro h id target huse hmem
    rcases huse with ⟨m, hm, rfl, f, hf, htype⟩ | ⟨m, hm, rfl, hparent⟩ | ⟨e, he, rfl, hparent⟩
    · exact h.typeId_mem m hm hmem f hf target htype
    · exact h.messageParent_mem m hm hmem target hparent
    · exact h.enumParent_mem e he hmem target hparent

/-- **What some IDs use is the least set closed under use that they are in.** Each ID of it is
listed once. More seeds use no less, two lists of seeds together use what one of them uses, and what
is used uses nothing else. The seeds and the IDs that are used need not be declared, and types may
use each other in circles. -/
theorem usedBy_is_closure (api : Api) (seeds : List String) :
    (api.usedBy seeds).Nodup ∧
      IsLeast {S : Set String | (∀ seed ∈ seeds, seed ∈ S) ∧ api.ClosedUnderUse S}
        {id | id ∈ api.usedBy seeds} ∧
      (∀ more, seeds ⊆ more → api.usedBy seeds ⊆ api.usedBy more) ∧
      (∀ more id,
        id ∈ api.usedBy (seeds ++ more) ↔ id ∈ api.usedBy seeds ∨ id ∈ api.usedBy more) ∧
      ∀ id, id ∈ api.usedBy (api.usedBy seeds) ↔ id ∈ api.usedBy seeds := by
  have hleast := api.usageGraph.isLeast_reach seeds
  simp only [closed_usageGraph_iff] at hleast
  refine ⟨api.usageGraph.nodup_reach seeds, hleast, ?_, ?_, ?_⟩
  · intro more hseeds
    exact Graph.reach_subset_reach hseeds
  · intro more id
    exact Graph.mem_reach_append
  · intro id
    exact Graph.mem_reach_reach

/-- A book and its shelf use each other, and a kind of paper uses the book that it is nested in. So
the kind uses both of them and the ink that is declared elsewhere, but not the page, which uses the
book in turn. With the page as a further seed nothing is lost. -/
theorem usedBy_kind_of_paper :
    let toShelf : Field := { kind := .message, typeId := some ".p.Shelf" }
    let toInk : Field := { kind := .message, typeId := some ".q.Ink" }
    let toBooks : Field := { kind := .message, typeId := some ".p.Book", repeated := true }
    let book : Message := { id := ".p.Book", fields := [toShelf, toInk] }
    let shelf : Message := { id := ".p.Shelf", fields := [toBooks] }
    let page : Message := { id := ".p.Book.Page", parent := some ".p.Book" }
    let paper : Enum := { id := ".p.Book.Paper", parent := some ".p.Book" }
    let api : Api := { messages := [book, shelf, page], enums := [paper] }
    [paper.id] ⊆ [page.id, paper.id] ∧ api.usedBy [paper.id] ⊆ api.usedBy [page.id, paper.id] ∧
      (∀ id ∈ [paper.id, book.id, shelf.id, ".q.Ink"], id ∈ api.usedBy [paper.id]) ∧
      page.id ∉ api.usedBy [paper.id] := by
  intro toShelf toInk toBooks book shelf page paper api
  obtain ⟨-, ⟨⟨hseeds, hclosed⟩, hleast⟩, hmore, -, -⟩ := usedBy_is_closure api [paper.id]
  have hsubset : [paper.id] ⊆ [page.id, paper.id] := by simp
  have hpaper : paper.id ∈ api.usedBy [paper.id] := hseeds paper.id List.mem_cons_self
  have hbook : book.id ∈ api.usedBy [paper.id] :=
    hclosed.enumParent_mem paper (by simp [api]) hpaper book.id rfl
  have hshelf : shelf.id ∈ api.usedBy [paper.id] :=
    hclosed.typeId_mem book (by simp [api]) hbook toShelf (by simp [book]) shelf.id rfl
  have hink : ".q.Ink" ∈ api.usedBy [paper.id] :=
    hclosed.typeId_mem book (by simp [api]) hbook toInk (by simp [book]) ".q.Ink" rfl
  refine ⟨hsubset, hmore _ hsubset, by simp [hpaper, hbook, hshelf, hink], ?_⟩
  -- all IDs but that of the page are a set that is closed under use
  have hothers : api.ClosedUnderUse {id | id ≠ page.id} :=
    { typeId_mem := by simp [api, book, shelf, page, toShelf, toInk, toBooks]
      messageParent_mem := by simp [api, book, shelf, page]
      enumParent_mem := by simp [api, paper, page] }
  intro hpage
  exact hleast ⟨by simp [paper, page], hothers⟩ hpage rfl

end ApiAnnotator.Api
