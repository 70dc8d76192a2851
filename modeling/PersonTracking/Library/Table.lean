import Mathlib.Data.List.Nodup

/-!
# Tables with a primary key

A `Table` is a list of rows with pairwise different keys.  `select` reads rows,
`delete` drops the rows with given keys, `update` rewrites rows without moving
their keys and `insert` adds a row under a new key.

`rows_delete_select` is what a job lives on that first selects rows and later
deletes them by their keys: exactly the selected rows go.
-/

namespace PersonTracking.Library

/-- Rows with different keys. -/
structure Table (κ ρ : Type) (key : ρ → κ) where
  rows : List ρ
  nodup : (rows.map key).Nodup

namespace Table

variable {κ ρ : Type} {key : ρ → κ}

/-- The keys in use. -/
def keys (table : Table κ ρ key) : List κ := table.rows.map key

/-- No rows. -/
def empty : Table κ ρ key where
  rows := []
  nodup := List.nodup_nil

@[ext] theorem ext {first second : Table κ ρ key} (same : first.rows = second.rows) :
    first = second := by
  cases first
  cases second
  cases same
  rfl

/-- A key leads to one row. -/
theorem eq_of_key_eq {table : Table κ ρ key} {row other : ρ} (here : row ∈ table.rows)
    (there : other ∈ table.rows) (same : key row = key other) : row = other :=
  List.inj_on_of_nodup_map table.nodup here there same

theorem mem_keys {table : Table κ ρ key} {k : κ} :
    k ∈ table.keys ↔ ∃ row ∈ table.rows, key row = k := List.mem_map

/-- The rows that meet a condition. -/
def select (table : Table κ ρ key) (condition : ρ → Bool) : List ρ := table.rows.filter condition

@[simp] theorem mem_select {table : Table κ ρ key} {condition : ρ → Bool} {row : ρ} :
    row ∈ table.select condition ↔ row ∈ table.rows ∧ condition row = true := List.mem_filter

/-! ## Changes -/

section Delete

variable [DecidableEq κ]

/-- `DELETE … WHERE key = ANY(keys)`. -/
def delete (table : Table κ ρ key) (keys : List κ) : Table κ ρ key where
  rows := table.rows.filter fun row => key row ∉ keys
  nodup := table.nodup.sublist (List.filter_sublist.map key)

@[simp] theorem mem_delete {table : Table κ ρ key} {keys : List κ} {row : ρ} :
    row ∈ (table.delete keys).rows ↔ row ∈ table.rows ∧ key row ∉ keys := by
  rw [delete, List.mem_filter, decide_eq_true_eq]

@[simp] theorem delete_nil (table : Table κ ρ key) : table.delete [] = table := by
  ext1
  exact List.filter_eq_self.mpr fun row _ => by simp

theorem mem_keys_delete {table : Table κ ρ key} {keys : List κ} {k : κ} :
    k ∈ (table.delete keys).keys ↔ k ∈ table.keys ∧ k ∉ keys := by
  rw [mem_keys, mem_keys]
  constructor
  · rintro ⟨row, here, rfl⟩
    obtain ⟨was, kept⟩ := mem_delete.mp here
    exact ⟨⟨row, was, rfl⟩, kept⟩
  · rintro ⟨⟨row, was, rfl⟩, kept⟩
    exact ⟨row, mem_delete.mpr ⟨was, kept⟩, rfl⟩

/-- **Deleting by the keys of selected rows** deletes the selected rows, and no others. -/
theorem rows_delete_select (table : Table κ ρ key) (condition : ρ → Bool) :
    (table.delete ((table.select condition).map key)).rows =
      table.select fun row => !condition row := by
  refine List.filter_congr fun row here => ?_
  have listed : key row ∈ (table.select condition).map key ↔ condition row = true := by
    constructor
    · intro member
      obtain ⟨other, chosen, same⟩ := List.mem_map.mp member
      obtain ⟨there, meets⟩ := mem_select.mp chosen
      exact eq_of_key_eq there here same ▸ meets
    · exact fun meets => List.mem_map_of_mem (mem_select.mpr ⟨here, meets⟩)
  simp [listed]

/-- …and no other key goes. -/
theorem key_mem_delete_select {table : Table κ ρ key} {condition : ρ → Bool} {row : ρ}
    (here : row ∈ table.rows) :
    key row ∈ (table.delete ((table.select condition).map key)).keys ↔ condition row = false := by
  rw [mem_keys, rows_delete_select]
  constructor
  · rintro ⟨other, kept, same⟩
    obtain ⟨there, meets⟩ := mem_select.mp kept
    rw [← eq_of_key_eq there here same]
    simpa using meets
  · intro kept
    exact ⟨row, mem_select.mpr ⟨here, by simp [kept]⟩, rfl⟩

end Delete

/-- Every row rewritten, no key moved. -/
def update (table : Table κ ρ key) (change : ρ → ρ) (keyed : ∀ row, key (change row) = key row) :
    Table κ ρ key where
  rows := table.rows.map change
  nodup := by
    rw [List.map_map, show key ∘ change = key from funext keyed]
    exact table.nodup

section Update

variable {table : Table κ ρ key} {change : ρ → ρ} {keyed : ∀ row, key (change row) = key row}

@[simp] theorem keys_update : (table.update change keyed).keys = table.keys := by
  rw [keys, update, List.map_map, show key ∘ change = key from funext keyed, keys]

theorem mem_update {row : ρ} :
    row ∈ (table.update change keyed).rows ↔ ∃ old ∈ table.rows, change old = row := List.mem_map

/-- Rows the change leaves alone stay as they are. -/
theorem rows_update_of_fixed (fixed : ∀ row ∈ table.rows, change row = row) :
    (table.update change keyed).rows = table.rows := by
  have same : table.rows.map change = table.rows.map id := List.map_congr_left fixed
  exact same.trans (List.map_id _)

end Update

/-- A row under a new key. -/
def insert (table : Table κ ρ key) (row : ρ) (fresh : key row ∉ table.keys) : Table κ ρ key where
  rows := table.rows ++ [row]
  nodup := by
    rw [List.map_append, List.map_singleton]
    exact List.Nodup.append table.nodup (List.nodup_singleton _)
      (List.disjoint_singleton.mpr fresh)

theorem mem_insert {table : Table κ ρ key} {row other : ρ} {fresh : key row ∉ table.keys} :
    other ∈ (table.insert row fresh).rows ↔ other ∈ table.rows ∨ other = row := by
  rw [insert, List.mem_append, List.mem_singleton]

theorem mem_keys_insert {table : Table κ ρ key} {row : ρ} {fresh : key row ∉ table.keys} {k : κ} :
    k ∈ (table.insert row fresh).keys ↔ k ∈ table.keys ∨ k = key row := by
  rw [keys, insert, List.map_append, List.mem_append, List.map_singleton, List.mem_singleton, keys]

end Table

end PersonTracking.Library
