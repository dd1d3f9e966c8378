import ApiAnnotator.Table
import Mathlib.Data.List.Forall2
import Mathlib.Data.List.Nodup

/-!
# What a table records

A table is made from entries in the order of the items that they are about, and of entries with the
same key the last one counts. So what a table holds for a key is related to the last item with that
key, in whatever way each entry is related to its item.

## Main statements

* `Table.getElem?_ofEntries` — a look-up in a table is a look-up in its entries from the end.
* `Table.mem_iff_exists_item`, `Table.size_eq_length_items` — the keys of a table and how many there
  are, in terms of the items behind the entries.
* `Table.rel_ofEntries` — a look-up in a table, in terms of the items behind the entries.
* `Table.exists_entry_of_mem` — each item has an entry, kept in the table if no later one
  replaces it.
-/

namespace ApiAnnotator

/-- The last item with the given key. -/
def lastWith? [DecidableEq κ] (key : α → κ) (k : κ) (items : List α) : Option α :=
  items.reverse.find? (key · = k)

section LastWith

variable {α κ : Type} [DecidableEq κ] {key : α → κ} {k : κ} {items : List α} {item : α}

theorem of_lastWith?_eq_some (h : lastWith? key k items = some item) :
    item ∈ items ∧ key item = k := by
  have hmem := List.mem_of_find?_eq_some h
  have hkey := List.find?_some h
  exact ⟨by simpa using hmem, by simpa using hkey⟩

theorem lastWith?_eq_none_iff : lastWith? key k items = none ↔ k ∉ items.map key := by
  simp [lastWith?]

theorem isSome_lastWith?_iff : (lastWith? key k items).isSome = true ↔ k ∈ items.map key := by
  simp [lastWith?]

@[simp] theorem lastWith?_nil : lastWith? key k [] = none := rfl

theorem lastWith?_cons :
    lastWith? key k (item :: items) =
      (lastWith? key k items).or (if key item = k then some item else none) := by
  simp only [lastWith?, List.reverse_cons, List.find?_append]
  congr 1
  by_cases h : key item = k <;> simp [h]

theorem lastWith?_append {more : List α} :
    lastWith? key k (items ++ more) = (lastWith? key k more).or (lastWith? key k items) := by
  rw [lastWith?, List.reverse_append, List.find?_append]
  rfl

/-- If all keys differ, every item is the last one with its key. -/
theorem lastWith?_of_mem (hkeys : (items.map key).Nodup) (h : item ∈ items) :
    lastWith? key (key item) items = some item := by
  cases hlast : lastWith? key (key item) items with
  | none =>
      exact absurd (List.mem_map_of_mem h) (lastWith?_eq_none_iff.1 hlast)
  | some other =>
      obtain ⟨hother, hkey⟩ := of_lastWith?_eq_some hlast
      rw [List.inj_on_of_nodup_map hkeys hother h hkey]

/-- If all keys differ, it does not matter which item with a key is the last one. -/
theorem lastWith?_perm {items' : List α} (hperm : items.Perm items')
    (hkeys : (items.map key).Nodup) : lastWith? key k items = lastWith? key k items' := by
  cases hlast : lastWith? key k items with
  | none =>
      rw [lastWith?_eq_none_iff, (hperm.map key).mem_iff] at hlast
      exact (lastWith?_eq_none_iff.2 hlast).symm
  | some item =>
      obtain ⟨hitem, rfl⟩ := of_lastWith?_eq_some hlast
      exact (lastWith?_of_mem ((hperm.map key).nodup_iff.1 hkeys) (hperm.mem_iff.1 hitem)).symm

end LastWith

section Rel

variable {α β : Type} {R : β → α → Prop} {item : β} {item? : Option β} {value : α}
  {value? : Option α}

/-- What is related to something is there exactly if that is. -/
theorem isSome_eq_of_rel (h : Option.Rel R item? value?) : item?.isSome = value?.isSome := by
  cases h <;> rfl

theorem eq_none_of_rel_none (h : Option.Rel R none value?) : value? = none := by
  cases h
  rfl

theorem of_rel_some_left (h : Option.Rel R (some item) value?) :
    ∃ value, value? = some value ∧ R item value := by
  cases h with
  | some h => exact ⟨_, rfl, h⟩

theorem of_rel_some_right (h : Option.Rel R item? (some value)) :
    ∃ item, item? = some item ∧ R item value := by
  cases h with
  | some h => exact ⟨_, rfl, h⟩

/-- What is read off both sides of a relation is the same if the relation says so. -/
theorem map_eq_map_of_rel {γ : Type} {f : β → γ} {g : α → γ} (h : Option.Rel R item? value?)
    (heq : ∀ item value, R item value → f item = g value) : item?.map f = value?.map g := by
  cases h with
  | none => rfl
  | some h => rw [Option.map_some, Option.map_some, heq _ _ h]

end Rel

namespace Table

variable {α β : Type} {R : β → α → Prop}

/-- A look-up in a table is a look-up in its entries, where the last entry with the key counts. -/
theorem getElem?_ofEntries (entries : List (String × α)) (k : String) :
    (ofEntries entries)[k]? = (lastWith? Prod.fst k entries).map Prod.snd := by
  have hfold : ∀ table : Table α,
      (entries.foldl (fun table entry => table.insert entry.1 entry.2) table)[k]? =
        ((lastWith? Prod.fst k entries).map Prod.snd).or table[k]? := by
    induction entries with
    | nil => simp
    | cons entry entries ih =>
        intro table
        rw [List.foldl_cons, ih, lastWith?_cons, Std.ExtTreeMap.getElem?_insert]
        by_cases hkey : entry.1 = k
        · cases lastWith? Prod.fst k entries <;> simp [hkey]
        · simp [hkey]
  have hempty := hfold ∅
  rw [Std.ExtTreeMap.getElem?_empty, Option.or_none] at hempty
  exact hempty

/-- A table has the keys of the entries that it is made from. -/
theorem mem_ofEntries {entries : List (String × α)} {k : String} :
    k ∈ ofEntries entries ↔ k ∈ entries.map Prod.fst := by
  rw [Std.ExtTreeMap.mem_iff_isSome_getElem?, getElem?_ofEntries, Option.isSome_map,
    isSome_lastWith?_iff]

/-- If all keys differ, a table has as many entries as it is made from. -/
theorem size_ofEntries {entries : List (String × α)} (hkeys : (entries.map Prod.fst).Nodup) :
    (ofEntries entries).size = entries.length := by
  have hfold : ∀ table : Table α, (∀ entry ∈ entries, entry.1 ∉ table) →
      (entries.foldl (fun table entry => table.insert entry.1 entry.2) table).size =
        table.size + entries.length := by
    induction entries with
    | nil => simp
    | cons entry entries ih =>
        intro table hnew
        rw [List.map_cons, List.nodup_cons] at hkeys
        have hhead : table.contains entry.1 = false :=
          Bool.eq_false_iff.2 (hnew entry List.mem_cons_self)
        have hrest : ∀ other ∈ entries, other.1 ∉ table.insert entry.1 entry.2 := by
          intro other hother
          have hne : entry.1 ≠ other.1 := by
            intro heq
            exact hkeys.1 (heq ▸ List.mem_map_of_mem hother)
          simpa [hne] using hnew other (List.mem_cons_of_mem entry hother)
        rw [List.foldl_cons, ih hkeys.2 _ hrest, Std.ExtTreeMap.size_insert, hhead,
          if_neg Bool.false_ne_true, List.length_cons]
        omega
  exact (hfold ∅ (by simp)).trans (by simp)

/-- The keys of entries that are made item by item are those of the items. -/
theorem map_fst_eq_map_key {key : β → String} {items : List β} {entries : List (String × α)}
    (h : List.Forall₂ (fun item entry => entry.1 = key item) items entries) :
    entries.map Prod.fst = items.map key := by
  induction h with
  | nil => rfl
  | cons hkey _ ih => rw [List.map_cons, List.map_cons, hkey, ih]

/-- A table has the keys of the items that its entries are made from. -/
theorem mem_iff_exists_item {key : β → String} {items : List β} {entries : List (String × α)}
    (h : List.Forall₂ (fun item entry => entry.1 = key item) items entries) {k : String} :
    k ∈ ofEntries entries ↔ ∃ item ∈ items, key item = k := by
  rw [mem_ofEntries, map_fst_eq_map_key h, List.mem_map]

/-- If all items have keys of their own, a table has as many entries as there are items. -/
theorem size_eq_length_items {key : β → String} {items : List β} {entries : List (String × α)}
    (h : List.Forall₂ (fun item entry => entry.1 = key item) items entries)
    (hkeys : (items.map key).Nodup) : (ofEntries entries).size = items.length := by
  rw [← map_fst_eq_map_key h] at hkeys
  rw [size_ofEntries hkeys, h.length_eq]

/-- If each entry has the key of an item and a value related to that item, then what the table holds
for a key is related to the last item with that key. -/
theorem rel_ofEntries {key : β → String} {items : List β} {entries : List (String × α)}
    (h : List.Forall₂ (fun item entry => entry.1 = key item ∧ R item entry.2) items entries)
    (k : String) : Option.Rel R (lastWith? key k items) (ofEntries entries)[k]? := by
  rw [getElem?_ofEntries]
  induction h with
  | nil => exact .none
  | @cons item entry items entries hentry _ ih =>
      obtain ⟨hkey, hrel⟩ := hentry
      rw [lastWith?_cons, lastWith?_cons, hkey]
      cases hitems : lastWith? key k items <;> cases hentries : lastWith? Prod.fst k entries <;>
        simp only [hitems, hentries, Option.map_none, Option.map_some, Option.not_rel_some_none,
          Option.not_rel_none_some, Option.rel_some_some] at ih
      · by_cases hk : key item = k
        · simpa [hk] using hrel
        · simp [hk]
      · simpa using ih

/-- Each item has an entry, and the last item with its key has the one that the table holds. -/
theorem exists_entry_of_mem {key : β → String} {items : List β} {entries : List (String × α)}
    (h : List.Forall₂ (fun item entry => entry.1 = key item ∧ R item entry.2) items entries)
    {item : β} (hitem : item ∈ items) :
    ∃ value, R item value ∧
      (lastWith? key (key item) items = some item →
        (ofEntries entries)[key item]? = some value) := by
  by_cases hlast : lastWith? key (key item) items = some item
  · have hrel := rel_ofEntries h (key item)
    rw [hlast] at hrel
    obtain ⟨value, hentry, hvalue⟩ := of_rel_some_left hrel
    exact ⟨value, hvalue, fun _ => hentry⟩
  · have hsome : ∃ value, R item value := by
      clear hlast
      induction h with
      | nil => simp at hitem
      | cons hentry _ ih =>
          rcases List.mem_cons.1 hitem with rfl | hrest
          · exact ⟨_, hentry.2⟩
          · exact ih hrest
    obtain ⟨value, hvalue⟩ := hsome
    exact ⟨value, hvalue, fun h => absurd h hlast⟩

end Table

end ApiAnnotator
