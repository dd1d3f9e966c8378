import Mathlib.Data.List.Nodup
import Mathlib.Order.Lattice

/-!
# Stable sorting

A list is stably sorted by a key if its items come in the order of their keys and items with the
same key stay in the order in which they were. There is exactly one way to do this, so a stable sort
is described by what it keeps and not by how it is done.

## Main definitions

* `IsStableSort` — a list sorted by a key, with the order kept among items with the same key.

## Main statements

* `isStableSort_mergeSort` — merge sort is stable.
* `IsStableSort.eq` — **there is only one stable sort**.
-/

namespace ApiAnnotator

variable {α κ : Type} [LinearOrder κ] {key : α → κ} {items sorted sorted' : List α}

/-- The second list has the items of the first one in the order of their keys, and those with the
same key in the order in which they were. -/
structure IsStableSort (key : α → κ) (items sorted : List α) : Prop where
  perm : sorted.Perm items
  pairwise : sorted.Pairwise fun a b => key a ≤ key b
  filter_eq : ∀ k, sorted.filter (key · = k) = items.filter (key · = k)

theorem isStableSort_mergeSort (key : α → κ) (items : List α) :
    IsStableSort key items (items.mergeSort fun a b => key a ≤ key b) := by
  have htrans : ∀ a b c : α, decide (key a ≤ key b) = true → decide (key b ≤ key c) = true →
      decide (key a ≤ key c) = true := by
    simpa only [decide_eq_true_eq] using fun a b c => le_trans
  have htotal : ∀ a b : α, (decide (key a ≤ key b) || decide (key b ≤ key a)) = true := by
    simpa using fun a b => le_total (key a) (key b)
  have hperm := List.mergeSort_perm items fun a b => decide (key a ≤ key b)
  refine ⟨hperm, ?_, fun k => ?_⟩
  · simpa using List.pairwise_mergeSort htrans htotal items
  · -- the items with the key `k` are sorted as they stand, so they stay a sublist
    have hties : (items.filter (key · = k)).Pairwise fun a b => decide (key a ≤ key b) = true := by
      refine List.pairwise_of_forall_mem_list fun a ha b hb => ?_
      have hsame : key a = key b := by
        rw [of_decide_eq_true (List.mem_filter.1 ha).2, of_decide_eq_true (List.mem_filter.1 hb).2]
      exact decide_eq_true hsame.le
    have hsub := (List.sublist_mergeSort htrans htotal hties List.filter_sublist).filter (key · = k)
    simp only [List.filter_filter, Bool.and_self] at hsub
    exact (hsub.eq_of_length (hperm.filter _).length_eq.symm).symm

theorem key_le_of_mem_cons {a b : α} (h : (a :: items).Pairwise (key · ≤ key ·))
    (hb : b ∈ a :: items) : key a ≤ key b := by
  rcases List.mem_cons.1 hb with rfl | hb
  · exact le_rfl
  · exact (List.pairwise_cons.1 h).1 b hb

/-- A list that is sorted as it stands is its only stable sort. -/
theorem IsStableSort.eq_of_pairwise (h : IsStableSort key items sorted)
    (hitems : items.Pairwise fun a b => key a ≤ key b) : sorted = items := by
  induction items generalizing sorted with
  | nil => exact h.perm.eq_nil
  | cons a rest ih =>
      cases sorted with
      | nil => exact h.perm.nil_eq
      | cons b rest' =>
          have hkey : key b = key a :=
            le_antisymm (key_le_of_mem_cons h.pairwise (h.perm.symm.subset List.mem_cons_self))
              (key_le_of_mem_cons hitems (h.perm.subset List.mem_cons_self))
          -- both are the first item with their key
          have hhead := h.filter_eq (key a)
          rw [List.filter_cons_of_pos (by simp [hkey]), List.filter_cons_of_pos (by simp)] at hhead
          obtain ⟨rfl, -⟩ := List.cons.inj hhead
          rw [ih ⟨h.perm.cons_inv, h.pairwise.of_cons, fun k => ?_⟩ hitems.of_cons]
          have hk := h.filter_eq k
          by_cases hb : key b = k <;> simpa [List.filter_cons, hb] using hk

/-- **There is only one stable sort.** -/
theorem IsStableSort.eq (h : IsStableSort key items sorted) (h' : IsStableSort key items sorted') :
    sorted = sorted' := by
  have hsame : IsStableSort key sorted' sorted :=
    ⟨h.perm.trans h'.perm.symm, h.pairwise, fun k => (h.filter_eq k).trans (h'.filter_eq k).symm⟩
  exact hsame.eq_of_pairwise h'.pairwise

/-- If all keys differ, it does not matter in which order the items are before. -/
theorem IsStableSort.eq_of_perm {items' : List α} (h : IsStableSort key items sorted)
    (h' : IsStableSort key items' sorted') (hperm : items.Perm items')
    (hkeys : (items.map key).Nodup) : sorted = sorted' := by
  refine List.Perm.eq_of_pairwise (fun a b ha hb hab hba => ?_) h.pairwise h'.pairwise
    (h.perm.trans (hperm.trans h'.perm.symm))
  exact List.inj_on_of_nodup_map hkeys (h.perm.subset ha)
    (hperm.symm.subset (h'.perm.subset hb)) (le_antisymm hab hba)

end ApiAnnotator
