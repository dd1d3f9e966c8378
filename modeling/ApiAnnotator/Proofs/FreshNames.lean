import ApiAnnotator.Identifier.Fresh
import Mathlib.Data.List.Nodup
import Mathlib.Data.List.Pairwise
import Std.Data.String.ToNat

/-!
# Fresh names are found

A taken name is given numbers until it is free. The numbers never run out, as different numbers make
different names and only finitely many names are taken; so counting ends, whatever number it starts
from, and the search within a bound finds what a search without one would. Names that are made fresh
one after the other therefore differ from each other as well as from all that were taken before.

## Main definitions

* `CountsOn` — one step of counting past the names that are taken.
* `IsFirstFree` — the first form of a name that is not taken.
* `IsFreshRun` — what names become that are made fresh in turn.

## Main statements

* `exists_free` — among as many numbers as there are taken names and one more, one is free.
* `isFirstFree_fresh` — a fresh name is the first free one.
* `fresh_not_mem` — a fresh name is not taken.
* `fresh_names_found` — **counting ends, at the first name that is free**.
-/

namespace ApiAnnotator.Identifier

variable {base name : String} {taken : List String}

theorem numbered_injective (base : String) : Function.Injective (numbered base) := by
  intro i j h
  unfold numbered at h
  rw [String.append_right_inj] at h
  exact Nat.repr_injective h

/-- Among as many consecutive numbers as there are taken names and one more, one is free. -/
theorem exists_free (base : String) (taken : List String) (first : Nat) :
    ∃ i ∈ List.range' first (taken.length + 1), numbered base i ∉ taken := by
  by_contra hnone
  push Not at hnone
  -- there are more numbered names than taken ones
  have hall : (List.range' first (taken.length + 1)).map (numbered base) ⊆ taken := by
    intro name hname
    obtain ⟨i, hi, rfl⟩ := List.mem_map.1 hname
    exact hnone i hi
  have hnodup : ((List.range' first (taken.length + 1)).map (numbered base)).Nodup :=
    List.Nodup.map (numbered_injective base) List.nodup_range'
  have hlength := hnodup.length_le_of_subset hall
  rw [List.length_map, List.length_range'] at hlength
  omega

/-! ## Counting -/

/-- Counting goes on from a number to the next one as long as the name with it is taken. -/
def CountsOn (base : String) (taken : List String) (next i : Nat) : Prop :=
  numbered base i ∈ taken ∧ next = i + 1

/-- Counting ends if there is a free number some way ahead. -/
theorem acc_countsOn {ahead i : Nat} (hfree : numbered base (i + ahead) ∉ taken) :
    Acc (CountsOn base taken) i := by
  induction ahead generalizing i with
  | zero => exact ⟨i, fun next ⟨htaken, _⟩ => absurd htaken hfree⟩
  | succ ahead ih =>
      refine ⟨i, ?_⟩
      rintro next ⟨-, rfl⟩
      apply ih
      rwa [Nat.add_right_comm, Nat.add_assoc]

/-- Counting ends, whatever number it starts from. -/
theorem wellFounded_countsOn (base : String) (taken : List String) :
    WellFounded (CountsOn base taken) := by
  refine ⟨fun i => ?_⟩
  obtain ⟨j, hj, hfree⟩ := exists_free base taken i
  obtain ⟨ahead, rfl⟩ := Nat.exists_eq_add_of_le (List.mem_range'_1.1 hj).1
  exact acc_countsOn hfree

/-! ## The first name that is free -/

/-- The base if it is not taken, otherwise the base with the least number from two on with which it
is not taken. -/
structure IsFirstFree (base : String) (taken : List String) (name : String) : Prop where
  eq_base : base ∉ taken → name = base
  exists_number : base ∈ taken → ∃ i, 2 ≤ i ∧ name = numbered base i ∧ name ∉ taken ∧
    ∀ j, 2 ≤ j → j < i → numbered base j ∈ taken

namespace IsFirstFree

/-- The first form that is not taken is not taken. -/
theorem not_mem (h : IsFirstFree base taken name) : name ∉ taken := by
  by_cases hbase : base ∈ taken
  · obtain ⟨i, -, -, hfree, -⟩ := h.exists_number hbase
    exact hfree
  · rwa [h.eq_base hbase]

/-- The first form that is not taken is the base, with or without a number. -/
theorem eq_or (h : IsFirstFree base taken name) : name = base ∨ ∃ i, name = numbered base i := by
  by_cases hbase : base ∈ taken
  · obtain ⟨i, -, hname, -⟩ := h.exists_number hbase
    exact .inr ⟨i, hname⟩
  · exact .inl (h.eq_base hbase)

/-- It matters which names are taken, but not in which order and how often. -/
theorem congr {taken' : List String} (h : IsFirstFree base taken name)
    (hsame : ∀ other, other ∈ taken ↔ other ∈ taken') : IsFirstFree base taken' name where
  eq_base := by
    rw [← hsame]
    exact h.eq_base
  exists_number := by
    simp only [← hsame]
    exact h.exists_number

end IsFirstFree

/-- **A fresh name is the first one that is free.** -/
theorem isFirstFree_fresh (base : String) (taken : List String) :
    IsFirstFree base taken (fresh base taken) where
  eq_base hbase := if_neg hbase
  exists_number hbase := by
    rw [fresh, if_pos hbase]
    cases hfind : (List.range' 2 (taken.length + 1)).find? fun i => numbered base i ∉ taken with
    | none =>
        obtain ⟨i, hi, hfree⟩ := exists_free base taken 2
        exact absurd (decide_eq_true hfree) (List.find?_eq_none.1 hfind i hi)
    | some i =>
        obtain ⟨hfree, hi, hless⟩ := List.find?_range'_eq_some.1 hfind
        exact ⟨i, (List.mem_range'_1.1 hi).1, rfl, by simpa using hfree, by simpa using hless⟩

/-- **A fresh name is not taken.** -/
theorem fresh_not_mem (base : String) (taken : List String) : fresh base taken ∉ taken :=
  (isFirstFree_fresh base taken).not_mem

/-- A fresh name is the name asked for, with or without a number. -/
theorem fresh_eq_or (base : String) (taken : List String) :
    fresh base taken = base ∨ ∃ i, fresh base taken = numbered base i :=
  (isFirstFree_fresh base taken).eq_or

/-! ## Names made fresh in turn -/

/-- What names become that are made fresh in turn: each result is the first form of its name that is
neither taken nor a result before it, so the results differ and none of them was taken. -/
structure IsFreshRun (taken names results : List String) : Prop where
  length_eq : results.length = names.length
  isFirstFree : ∀ i name result, names[i]? = some name → results[i]? = some result →
    IsFirstFree name (results.take i ++ taken) result
  nodup : results.Nodup
  not_mem : ∀ result ∈ results, result ∉ taken

/-- A name that is made fresh before others is taken for them. -/
theorem IsFreshRun.cons {names results : List String}
    (h : IsFreshRun (fresh name taken :: taken) names results) :
    IsFreshRun taken (name :: names) (fresh name taken :: results) where
  length_eq := by rw [List.length_cons, List.length_cons, h.length_eq]
  isFirstFree i asked result hname hresult := by
    cases i with
    | zero =>
        obtain rfl : name = asked := by simpa using hname
        obtain rfl : fresh name taken = result := by simpa using hresult
        exact isFirstFree_fresh name taken
    | succ i =>
        refine (h.isFirstFree i asked result hname hresult).congr fun other => ?_
        simp only [List.take_succ_cons, List.mem_append, List.mem_cons]
        exact or_left_comm.trans or_assoc.symm
  nodup := by
    refine List.nodup_cons.2 ⟨fun hagain => ?_, h.nodup⟩
    exact h.not_mem _ hagain List.mem_cons_self
  not_mem result hresult := by
    rcases List.mem_cons.1 hresult with rfl | hresult
    · exact fresh_not_mem name taken
    · exact fun htaken => h.not_mem result hresult (List.mem_cons_of_mem _ htaken)

theorem isFreshRun_freshAll (taken names : List String) :
    IsFreshRun taken names (freshAll taken names) := by
  induction names generalizing taken with
  | nil => exact ⟨rfl, by simp, List.nodup_nil, by simp [freshAll]⟩
  | cons name names ih => exact (ih (fresh name taken :: taken)).cons

/-- **Counting ends, at the first name that is free.** Whatever names are taken, counting past them
comes to an end. A fresh name is the name asked for if that is free, and otherwise the name with the
least number from two on that makes it free. Names that are made fresh in turn differ from each
other and from all that were taken. -/
theorem fresh_names_found (base : String) (taken : List String) :
    WellFounded (CountsOn base taken) ∧ IsFirstFree base taken (fresh base taken) ∧
      fresh base taken ∉ taken ∧ ∀ names, IsFreshRun taken names (freshAll taken names) :=
  ⟨wellFounded_countsOn base taken, isFirstFree_fresh base taken, fresh_not_mem base taken,
    isFreshRun_freshAll taken⟩

/-- A name with a number can be in the way of one that asks for it. -/
example : freshAll ["Foo"] ["Foo", "Foo", "Foo2", "Bar"] = ["Foo2", "Foo3", "Foo22", "Bar"] := by
  decide

end ApiAnnotator.Identifier
