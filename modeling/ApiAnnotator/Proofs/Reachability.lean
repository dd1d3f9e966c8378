import ApiAnnotator.Graph
import Mathlib.Data.Set.Basic
import Mathlib.Logic.Relation
import Mathlib.Order.Bounds.Defs
import Mathlib.Tactic.Tauto

/-!
# The search finds what can be reached

`Graph.reach` works through a list of vertices, `Reachable` speaks of paths. The two agree for every
graph, with or without cycles. The search never adds a vertex without a path to it, and it stops
only at a set that no edge leaves, because every edge out of a seen vertex ends in a vertex that is
seen or still to be worked on. So what it finds is the least set with the starts in it that no edge
leaves, and it behaves as a closure does.

## Main statements

* `Graph.mem_reach_iff` — **a vertex is found exactly if there is a path to it**.
* `Graph.Reachable.mem_of_closed` — a set that no edge leaves keeps paths inside.
* `Graph.isLeast_reach` — what is found is the least set that no edge leaves.
* `Graph.reach_subset_reach`, `Graph.mem_reach_append`, `Graph.mem_reach_reach` — the laws of a
  closure.
-/

namespace ApiAnnotator.Graph

variable {ν : Type}

/-! ## Paths -/

namespace Reachable

variable {g : Graph ν} {u v w : ν}

/-- A single edge is a path. -/
theorem of_edge (h : (u, v) ∈ g.edges) : g.Reachable u v :=
  .step h (.refl v)

/-- Paths compose. -/
theorem trans (huv : g.Reachable u v) (hvw : g.Reachable v w) : g.Reachable u w := by
  induction huv with
  | refl => exact hvw
  | step hedge _ ih => exact .step hedge (ih hvw)

/-- A path can be extended by an edge at its end. -/
theorem tail (huv : g.Reachable u v) (h : (v, w) ∈ g.edges) : g.Reachable u w :=
  huv.trans (of_edge h)

/-- Paths are the reflexive and transitive closure of the edges. -/
theorem iff_reflTransGen :
    g.Reachable u v ↔ Relation.ReflTransGen (fun a b => (a, b) ∈ g.edges) u v := by
  constructor
  · intro h
    induction h with
    | refl => exact .refl
    | step hedge _ ih => exact .head hedge ih
  · intro h
    induction h with
    | refl => exact .refl u
    | tail _ hedge ih => exact ih.tail hedge

end Reachable

/-- No edge leaves the set. -/
def Closed (g : Graph ν) (S : ν → Prop) : Prop :=
  ∀ u v, (u, v) ∈ g.edges → S u → S v

/-- A path that starts in a set that no edge leaves stays in it. -/
theorem Reachable.mem_of_closed {g : Graph ν} {S : ν → Prop} {u v : ν} (hS : g.Closed S)
    (h : g.Reachable u v) (hu : S u) : S v := by
  induction h with
  | refl => exact hu
  | step hedge _ ih => exact ih (hS _ _ hedge hu)

/-! ## The search -/

variable [DecidableEq ν]

@[simp] theorem mem_successors {g : Graph ν} {u v : ν} :
    v ∈ g.successors u ↔ (u, v) ∈ g.edges := by
  simp [successors]

/-- The search loses neither what is seen nor any of its work. -/
theorem mem_extend_of_mem (g : Graph ν) (seen work : List ν) {v : ν} (h : v ∈ seen ∨ v ∈ work) :
    v ∈ g.extend seen work := by
  fun_induction extend g seen work with
  | case1 => simpa using h
  | case2 seen u work hu ih =>
    apply ih
    rcases h with h | h
    · exact .inl h
    · rcases List.mem_cons.1 h with rfl | h
      · exact .inl hu
      · exact .inr h
  | case3 seen u work hu hnone ih =>
    apply ih
    simp only [List.mem_cons] at h ⊢
    tauto
  | case4 seen u work hu hsome ih =>
    apply ih
    simp only [List.mem_cons, List.mem_append] at h ⊢
    tauto

/-- Whatever the search adds can be reached from its work. -/
theorem reachable_of_mem_extend (g : Graph ν) (seen work : List ν) {v : ν}
    (h : v ∈ g.extend seen work) : v ∈ seen ∨ ∃ s ∈ work, g.Reachable s v := by
  fun_induction extend g seen work with
  | case1 => exact .inl h
  | case2 seen u work hu ih =>
    rcases ih h with h | ⟨s, hs, hv⟩
    · exact .inl h
    · exact .inr ⟨s, List.mem_cons_of_mem u hs, hv⟩
  | case3 seen u work hu hnone ih =>
    rcases ih h with h | ⟨s, hs, hv⟩
    · rcases List.mem_cons.1 h with rfl | h
      · exact .inr ⟨v, List.mem_cons_self, .refl v⟩
      · exact .inl h
    · exact .inr ⟨s, List.mem_cons_of_mem u hs, hv⟩
  | case4 seen u work hu hsome ih =>
    rcases ih h with h | ⟨s, hs, hv⟩
    · rcases List.mem_cons.1 h with rfl | h
      · exact .inr ⟨v, List.mem_cons_self, .refl v⟩
      · exact .inl h
    · rcases List.mem_append.1 hs with hs | hs
      · exact .inr ⟨u, List.mem_cons_self, .step (mem_successors.1 hs) hv⟩
      · exact .inr ⟨s, List.mem_cons_of_mem u hs, hv⟩

/-- The invariant of the search: an edge out of a seen vertex ends in the seen ones or in the work.
When the work is done, no edge leaves what has been seen. -/
theorem closed_extend (g : Graph ν) (seen work : List ν)
    (h : ∀ u v, (u, v) ∈ g.edges → u ∈ seen → v ∈ seen ∨ v ∈ work) :
    g.Closed (· ∈ g.extend seen work) := by
  fun_induction extend g seen work with
  | case1 seen =>
    intro u v hedge hu
    simpa using h u v hedge hu
  | case2 seen w work hw ih =>
    refine ih fun u v hedge hu => ?_
    rcases h u v hedge hu with hv | hv
    · exact .inl hv
    · rcases List.mem_cons.1 hv with rfl | hv
      · exact .inl hw
      · exact .inr hv
  | case3 seen w work hw hnone ih =>
    refine ih fun u v hedge hu => ?_
    have hne : u ≠ w := by
      rintro rfl
      have hv : v ∈ g.successors u := mem_successors.2 hedge
      simp [hnone] at hv
    have huSeen : u ∈ seen := by simpa [hne] using hu
    have hv := h u v hedge huSeen
    simp only [List.mem_cons] at hv ⊢
    tauto
  | case4 seen w work hw hsome ih =>
    refine ih fun u v hedge hu => ?_
    simp only [List.mem_cons, List.mem_append, mem_successors] at hu ⊢
    rcases hu with rfl | hu
    · exact .inr (.inl hedge)
    · have hv := h u v hedge hu
      simp only [List.mem_cons] at hv
      tauto

/-- The search sees no vertex twice. -/
theorem nodup_extend (g : Graph ν) (seen work : List ν) (h : seen.Nodup) :
    (g.extend seen work).Nodup := by
  fun_induction extend g seen work with
  | case1 => exact h
  | case2 seen u work hu ih => exact ih h
  | case3 seen u work hu hnone ih => exact ih (List.nodup_cons.2 ⟨hu, h⟩)
  | case4 seen u work hu hsome ih => exact ih (List.nodup_cons.2 ⟨hu, h⟩)

variable {g : Graph ν} {starts more : List ν} {v : ν}

theorem mem_reach_of_mem (h : v ∈ starts) : v ∈ g.reach starts :=
  mem_extend_of_mem g [] starts (.inr h)

theorem closed_reach (g : Graph ν) (starts : List ν) : g.Closed (· ∈ g.reach starts) :=
  closed_extend g [] starts (by simp)

/-- **The search finds a vertex exactly if a path leads there from one of its starts.** -/
theorem mem_reach_iff : v ∈ g.reach starts ↔ ∃ s ∈ starts, g.Reachable s v := by
  constructor
  · intro h
    simpa using reachable_of_mem_extend g [] starts h
  · rintro ⟨s, hs, hv⟩
    exact hv.mem_of_closed (closed_reach g starts) (mem_reach_of_mem hs)

/-! ## The closure of the starts -/

/-- Each vertex is found once. -/
theorem nodup_reach (g : Graph ν) (starts : List ν) : (g.reach starts).Nodup :=
  nodup_extend g [] starts List.nodup_nil

/-- What is found is the least set with the starts in it that no edge leaves. -/
theorem isLeast_reach (g : Graph ν) (starts : List ν) :
    IsLeast {S : Set ν | (∀ s ∈ starts, s ∈ S) ∧ g.Closed (· ∈ S)} {v | v ∈ g.reach starts} := by
  refine ⟨⟨fun s hs => mem_reach_of_mem hs, closed_reach g starts⟩, ?_⟩
  rintro S ⟨hstarts, hclosed⟩ v hv
  obtain ⟨s, hs, hpath⟩ := mem_reach_iff.1 hv
  exact hpath.mem_of_closed hclosed (hstarts s hs)

/-- More starts find no less. -/
theorem reach_subset_reach (h : starts ⊆ more) : g.reach starts ⊆ g.reach more := by
  intro v hv
  obtain ⟨s, hs, hpath⟩ := mem_reach_iff.1 hv
  exact mem_reach_iff.2 ⟨s, h hs, hpath⟩

/-- What two lists of starts find together is what one of them finds. -/
theorem mem_reach_append :
    v ∈ g.reach (starts ++ more) ↔ v ∈ g.reach starts ∨ v ∈ g.reach more := by
  simp only [mem_reach_iff, List.mem_append, or_and_right, exists_or]

/-- A search that starts from all that was found finds nothing else. -/
theorem mem_reach_reach : v ∈ g.reach (g.reach starts) ↔ v ∈ g.reach starts := by
  constructor
  · intro h
    obtain ⟨s, hs, hpath⟩ := mem_reach_iff.1 h
    exact hpath.mem_of_closed (closed_reach g starts) hs
  · exact mem_reach_of_mem

end ApiAnnotator.Graph
