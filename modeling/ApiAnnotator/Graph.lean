/-!
# Reachability in graphs

A graph is a list of edges between vertices. The vertices that can be reached from given ones are
collected with a list of work: a vertex that has not been seen is added and its successors become
work. Every vertex that has successors uses up edges that were unseen before, and any other vertex
makes the work shorter, so the search ends whether or not the graph has cycles.

## Main definitions

* `Graph` — edges; `successors` — the heads of the edges from a vertex.
* `Graph.reach` — everything that can be reached from a list of vertices.
* `Reachable` — the same as a relation, said without the search.
-/

namespace ApiAnnotator

/-- The items whose key has not been seen. -/
def unseen [DecidableEq κ] (key : α → κ) (seen : List κ) (items : List α) : List α :=
  items.filter fun item => key item ∉ seen

/-- An item that is seen now and was not before makes the unseen items fewer. -/
theorem length_unseen_lt [DecidableEq κ] {key : α → κ} {seen : List κ} {items : List α} {item : α}
    (hmem : item ∈ items) (hnew : key item ∉ seen) :
    (unseen key (key item :: seen) items).length < (unseen key seen items).length := by
  have hsub : unseen key (key item :: seen) items =
      (unseen key seen items).filter fun other => key other ≠ key item := by
    simp only [unseen, List.filter_filter]
    congr 1
    funext other
    simp [not_or]
  rw [hsub, List.length_filter_lt_length_iff_exists]
  exact ⟨item, by simp [unseen, hmem, hnew], by simp⟩

/-- A graph as the list of its edges. -/
structure Graph (ν : Type) where
  edges : List (ν × ν)

namespace Graph

variable {ν : Type} [DecidableEq ν]

/-- The vertices that edges lead to from a vertex. -/
def successors (g : Graph ν) (v : ν) : List ν :=
  (g.edges.filter (·.1 = v)).map Prod.snd

/-- Adds to the seen vertices those that can be reached from the work without passing through seen
ones. -/
def extend (g : Graph ν) (seen : List ν) : List ν → List ν
  | [] => seen
  | v :: work =>
    if v ∈ seen then g.extend seen work
    else if g.successors v = [] then g.extend (v :: seen) work
    else g.extend (v :: seen) (g.successors v ++ work)
termination_by work => ((unseen Prod.fst seen g.edges).length, work.length)
decreasing_by
  · exact Prod.Lex.right _ (by simp)
  · rename_i hnew hnone
    have hkeep : unseen Prod.fst (v :: seen) g.edges = unseen Prod.fst seen g.edges := by
      simp only [successors, List.map_eq_nil_iff, List.filter_eq_nil_iff, decide_eq_true_eq]
        at hnone
      simp only [unseen]
      apply List.filter_congr
      intro edge hedge
      simp [hnone edge hedge]
    rw [hkeep]
    exact Prod.Lex.right _ (by simp)
  · rename_i hnew hsome
    obtain ⟨target, htarget⟩ := List.exists_mem_of_ne_nil _ hsome
    simp only [successors, List.mem_map, List.mem_filter, decide_eq_true_eq] at htarget
    obtain ⟨edge, ⟨hedge, rfl⟩, -⟩ := htarget
    exact Prod.Lex.left _ _ (length_unseen_lt hedge hnew)

/-- Everything that can be reached from the given vertices, themselves included. -/
def reach (g : Graph ν) (starts : List ν) : List ν :=
  g.extend [] starts

/-- A vertex is reached by a path of edges, which may be empty. -/
inductive Reachable (g : Graph ν) : ν → ν → Prop
  | refl (v : ν) : Reachable g v v
  | step {u v w : ν} : (u, v) ∈ g.edges → Reachable g v w → Reachable g u w

end Graph

end ApiAnnotator
