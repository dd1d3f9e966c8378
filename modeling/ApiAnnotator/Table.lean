import Std.Data.ExtTreeMap
import Std.Data.ExtTreeSet
import ApiAnnotator.Json.Basic

/-!
# Tables

Entities refer to each other by ID, and what is known about them is kept in tables keyed by ID. A
table is determined by its entries alone: two tables with the same value for each key are equal. Its
entries are listed in the order of the keys.
-/

namespace ApiAnnotator

/-- A table from texts to values, in the order of the texts. -/
abbrev Table (α : Type) := Std.ExtTreeMap String α

/-- A set of texts, in their order. -/
abbrev Names := Std.ExtTreeSet String

namespace Table

/-- The table of the given entries; of entries with the same key the last one counts. -/
def ofEntries (entries : List (String × α)) : Table α :=
  entries.foldl (fun table (key, value) => table.insert key value) ∅

/-- The table as an object, in the order of the keys. -/
def toJson (f : α → Json) (table : Table α) : Json :=
  .obj (table.toList.map fun (key, value) => (key, f value))

end Table

end ApiAnnotator
