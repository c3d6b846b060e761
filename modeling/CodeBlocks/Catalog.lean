/-
**Catalogs.**

A catalog holds entries by name, each name once, in the order in which the names first came.

Main definitions:

* `CodeBlocks.Catalog` — the entries;
* `CodeBlocks.Catalog.insert` — a new name goes to the end, a name that is there keeps its place and
  takes the new entry;
* `CodeBlocks.Catalog.find?`, `CodeBlocks.Catalog.names` — looking up, and listing.

Main results:

* `CodeBlocks.Catalog.names_insert` — what inserting does to the names;
* `CodeBlocks.Catalog.find?_eq_some_iff`, `CodeBlocks.Catalog.mem_names_iff` — looking up finds
  exactly the entries.
-/

set_option relaxedAutoImplicit false
set_option autoImplicit false

namespace CodeBlocks

/-- **Entries by name**, each name once, in order of first appearance. -/
structure Catalog (α : Type) where
  entries : List (String × α)
  nodup : (entries.map Prod.fst).Nodup

namespace Catalog

variable {α : Type}

def empty : Catalog α := ⟨[], List.nodup_nil⟩

instance : Inhabited (Catalog α) := ⟨empty⟩

def names (catalog : Catalog α) : List String := catalog.entries.map Prod.fst

def find? (catalog : Catalog α) (name : String) : Option α :=
  (catalog.entries.find? fun entry => entry.1 = name).map Prod.snd

def replaced (entries : List (String × α)) (name : String) (value : α) : List (String × α) :=
  entries.map fun entry => if entry.1 = name then (name, value) else entry

theorem map_fst_replaced (entries : List (String × α)) (name : String) (value : α) :
    (replaced entries name value).map Prod.fst = entries.map Prod.fst := by
  rw [replaced, List.map_map]
  apply List.map_congr_left
  intro entry _
  by_cases h : entry.1 = name <;> simp [h]

/-- **The catalog with a value for a name.**  A new name goes to the end; a name that is there keeps
its place. -/
def insert (catalog : Catalog α) (name : String) (value : α) : Catalog α :=
  if h : name ∈ catalog.names then
    ⟨replaced catalog.entries name value, by rw [map_fst_replaced]; exact catalog.nodup⟩
  else
    ⟨catalog.entries ++ [(name, value)], by
      rw [List.map_append, List.nodup_append]
      refine ⟨catalog.nodup, by simp, ?_⟩
      rintro a ha b hb rfl
      simp at hb
      exact h (hb ▸ ha)⟩

def map {β : Type} (f : α → β) (catalog : Catalog α) : Catalog β :=
  ⟨catalog.entries.map fun entry => (entry.1, f entry.2), by
    rw [List.map_map]
    exact catalog.nodup⟩

/-! ### Names and entries -/

theorem names_insert (catalog : Catalog α) (name : String) (value : α) :
    (catalog.insert name value).names =
      if name ∈ catalog.names then catalog.names else catalog.names ++ [name] := by
  rw [insert]
  split
  · exact map_fst_replaced _ _ _
  · simp [names]

theorem not_mem_names_insert {catalog : Catalog α} {name other : String} (value : α)
    (absent : other ∉ catalog.names) (distinct : other ≠ name) :
    other ∉ (catalog.insert name value).names := by
  rw [names_insert]
  split
  · exact absent
  · simp [absent, distinct]

theorem entries_insert_of_not_mem (catalog : Catalog α) {name : String} (value : α)
    (fresh : name ∉ catalog.names) :
    (catalog.insert name value).entries = catalog.entries ++ [(name, value)] := by
  rw [insert, dif_neg fresh]

/-- **Looking up finds exactly the entries.** -/
theorem find?_eq_some_iff {catalog : Catalog α} {name : String} {value : α} :
    catalog.find? name = some value ↔ (name, value) ∈ catalog.entries := by
  obtain ⟨entries, nodup⟩ := catalog
  rw [find?]
  induction entries with
  | nil => simp
  | cons entry entries ih =>
    obtain ⟨key, held⟩ := entry
    obtain ⟨fresh, nodup⟩ := List.nodup_cons.1 nodup
    have ih := ih nodup
    by_cases h : key = name
    · subst h
      have absent : (key, value) ∉ entries := fun hm => fresh (List.mem_map.2 ⟨_, hm, rfl⟩)
      simp [absent, eq_comm]
    · simp [h, Ne.symm h, ih]

/-- Exactly the names have an entry. -/
theorem mem_names_iff {catalog : Catalog α} {name : String} :
    name ∈ catalog.names ↔ ∃ value, catalog.find? name = some value := by
  simp only [find?_eq_some_iff, names, List.mem_map]
  constructor
  · rintro ⟨entry, member, rfl⟩
    exact ⟨entry.2, member⟩
  · rintro ⟨value, member⟩
    exact ⟨(name, value), member, rfl⟩

theorem find?_map {β : Type} (f : α → β) (catalog : Catalog α) (name : String) :
    (catalog.map f).find? name = (catalog.find? name).map f := by
  rw [find?, find?, map, List.find?_map, Option.map_map, Option.map_map]
  rfl

end Catalog

end CodeBlocks
