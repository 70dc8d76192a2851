import Mathlib.Data.List.Nodup

/-!
# Insertion-ordered dictionaries

A dictionary that iterates its keys in the order they were first inserted.
Keys are pairwise different by construction; assigning to a present key keeps
its place, assigning to an absent one appends.
-/

namespace PersonTracking.Library

universe u v

/-- Entries in insertion order, no key twice. -/
structure OrderedDict (K : Type u) (V : Type v) where
  entries : List (K × V)
  nodup : (entries.map Prod.fst).Nodup

namespace OrderedDict

variable {K : Type u} {V : Type v}

/-- The keys, in insertion order. -/
def keys (dict : OrderedDict K V) : List K := dict.entries.map Prod.fst

/-- The dictionary without entries. -/
def empty : OrderedDict K V := ⟨[], List.nodup_nil⟩

@[simp] theorem entries_empty : (empty : OrderedDict K V).entries = [] := rfl

@[simp] theorem mem_keys {dict : OrderedDict K V} {k : K} :
    k ∈ dict.keys ↔ ∃ v, (k, v) ∈ dict.entries := by
  simp [keys]

variable [DecidableEq K]

/-- Look a key up. -/
def get? (dict : OrderedDict K V) (k : K) : Option V :=
  (dict.entries.find? fun entry => entry.1 = k).map Prod.snd

theorem get?_of_notMem {dict : OrderedDict K V} {k : K} (absent : k ∉ dict.keys) :
    dict.get? k = none := by
  have nowhere : (dict.entries.find? fun entry => entry.1 = k) = none := by
    rw [List.find?_eq_none]
    intro entry member
    rw [decide_eq_true_eq]
    rintro rfl
    exact absent (List.mem_map.mpr ⟨entry, member, rfl⟩)
  rw [get?, nowhere, Option.map_none]

theorem get?_of_mem {dict : OrderedDict K V} {k : K} {v : V} (member : (k, v) ∈ dict.entries) :
    dict.get? k = some v := by
  obtain ⟨entries, nodup⟩ := dict
  show (entries.find? fun entry => entry.1 = k).map Prod.snd = some v
  induction entries with
  | nil => cases member
  | cons entry rest ih =>
      rw [List.map_cons, List.nodup_cons] at nodup
      rcases List.mem_cons.mp member with rfl | later
      · simp
      · have other : entry.1 ≠ k := fun here =>
          nodup.1 (List.mem_map.mpr ⟨(k, v), later, here.symm⟩)
        rw [List.find?_cons_of_neg (by simpa using other)]
        exact ih nodup.2 later

/-- The entries after an assignment. -/
def assign (k : K) (v : V) : List (K × V) → List (K × V)
  | [] => [(k, v)]
  | entry :: rest => if entry.1 = k then (k, v) :: rest else entry :: assign k v rest

theorem assign_of_notMem {k : K} {v : V} {entries : List (K × V)}
    (absent : k ∉ entries.map Prod.fst) : assign k v entries = entries ++ [(k, v)] := by
  induction entries with
  | nil => rfl
  | cons entry rest ih =>
      rw [List.map_cons, List.mem_cons, not_or] at absent
      rw [assign, if_neg (Ne.symm absent.1), ih absent.2, List.cons_append]

/-- An entry whose value is replaced stays where it is. -/
theorem assign_of_split {k : K} {v w : V} {before after : List (K × V)}
    (notMem : k ∉ before.map Prod.fst) :
    assign k w (before ++ (k, v) :: after) = before ++ (k, w) :: after := by
  induction before with
  | nil => simp [assign]
  | cons entry before ih =>
      rw [List.map_cons, List.mem_cons, not_or] at notMem
      rw [List.cons_append, assign, if_neg (Ne.symm notMem.1), ih notMem.2]
      rfl

theorem map_fst_assign_of_mem {k : K} {v : V} {entries : List (K × V)}
    (present : k ∈ entries.map Prod.fst) :
    (assign k v entries).map Prod.fst = entries.map Prod.fst := by
  induction entries with
  | nil => simp at present
  | cons entry rest ih =>
      by_cases here : entry.1 = k
      · simp [assign, here]
      · have later : k ∈ rest.map Prod.fst := by
          rcases List.mem_cons.mp present with same | later
          · exact absurd same.symm here
          · exact later
        simp [assign, here, ih later]

/-- `dict[k] = v`. -/
def set (dict : OrderedDict K V) (k : K) (v : V) : OrderedDict K V where
  entries := assign k v dict.entries
  nodup := by
    by_cases present : k ∈ dict.entries.map Prod.fst
    · rw [map_fst_assign_of_mem present]
      exact dict.nodup
    · rw [assign_of_notMem present, List.map_append]
      exact dict.nodup.append (by simp) (by simpa using present)

theorem entries_set_of_notMem {dict : OrderedDict K V} {k : K} {v : V}
    (absent : k ∉ dict.keys) : (dict.set k v).entries = dict.entries ++ [(k, v)] :=
  assign_of_notMem absent

/-- An assignment brings in one entry at most. -/
theorem of_mem_entries_set {dict : OrderedDict K V} {k : K} {v : V} {entry : K × V}
    (member : entry ∈ (dict.set k v).entries) : entry = (k, v) ∨ entry ∈ dict.entries := by
  have assigned : ∀ entries : List (K × V), entry ∈ assign k v entries →
      entry = (k, v) ∨ entry ∈ entries := by
    intro entries
    induction entries with
    | nil => exact fun member => Or.inl (List.mem_singleton.mp member)
    | cons first rest ih =>
        intro member
        rw [assign] at member
        split at member
        · exact (List.mem_cons.mp member).imp_right (List.mem_cons_of_mem _)
        · rcases List.mem_cons.mp member with rfl | later
          · exact Or.inr List.mem_cons_self
          · exact (ih later).imp_right (List.mem_cons_of_mem _)
  exact assigned dict.entries member

theorem get?_assign (k j : K) (v : V) (entries : List (K × V)) :
    ((assign k v entries).find? fun entry => entry.1 = j).map Prod.snd =
      if k = j then some v else (entries.find? fun entry => entry.1 = j).map Prod.snd := by
  induction entries with
  | nil => by_cases same : k = j <;> simp [assign, same]
  | cons entry rest ih =>
      by_cases here : entry.1 = k
      · by_cases same : k = j
        · simp [assign, here, same]
        · simp [assign, here, same]
      · by_cases there : entry.1 = j
        · have different : k ≠ j := fun same => here (there.trans same.symm)
          rw [assign, if_neg here]
          simp [there, different]
        · simpa [assign, here, there] using ih

@[simp] theorem get?_set (dict : OrderedDict K V) (k j : K) (v : V) :
    (dict.set k v).get? j = if k = j then some v else dict.get? j :=
  get?_assign k j v dict.entries

@[simp] theorem mem_keys_set {dict : OrderedDict K V} {k j : K} {v : V} :
    j ∈ (dict.set k v).keys ↔ j = k ∨ j ∈ dict.keys := by
  by_cases present : k ∈ dict.keys
  · have same : (dict.set k v).keys = dict.keys := map_fst_assign_of_mem present
    rw [same]
    exact ⟨Or.inr, fun either => either.elim (fun here => here ▸ present) id⟩
  · rw [keys, entries_set_of_notMem present, List.map_append, List.mem_append]
    simp [keys, or_comm]

theorem length_keys_set_le (dict : OrderedDict K V) (k : K) (v : V) :
    (dict.set k v).keys.length ≤ dict.keys.length + 1 := by
  by_cases present : k ∈ dict.keys
  · have same : (dict.set k v).keys = dict.keys := map_fst_assign_of_mem present
    rw [same]
    exact Nat.le_succ _
  · rw [keys, entries_set_of_notMem present, List.map_append, List.length_append, keys]
    exact Nat.le_refl _

/-- `dict.pop(k, None)`: forget a key. -/
def pop (dict : OrderedDict K V) (k : K) : OrderedDict K V where
  entries := dict.entries.filter fun entry => entry.1 ≠ k
  nodup := (List.filter_sublist.map Prod.fst).nodup dict.nodup

theorem get?_pop_of_ne (dict : OrderedDict K V) {k j : K} (different : j ≠ k) :
    (dict.pop k).get? j = dict.get? j := by
  have agree : ((dict.entries.filter fun entry => entry.1 ≠ k).find? fun entry => entry.1 = j) =
      dict.entries.find? fun entry => entry.1 = j := by
    rw [List.find?_filter]
    congr 1
    funext entry
    by_cases here : entry.1 = j
    · simp [here, different]
    · simp [here]
  exact congrArg (Option.map Prod.snd) agree

theorem get?_pop_self (dict : OrderedDict K V) (k : K) : (dict.pop k).get? k = none := by
  have gone : ((dict.entries.filter fun entry => entry.1 ≠ k).find? fun entry => entry.1 = k) =
      none := by
    rw [List.find?_eq_none]
    intro entry member
    simpa using (List.mem_filter.mp member).2
  rw [get?, pop, gone, Option.map_none]

/-- Forgetting several keys. -/
theorem get?_foldl_pop (dict : OrderedDict K V) (ks : List K) (j : K) :
    (ks.foldl pop dict).get? j = if j ∈ ks then none else dict.get? j := by
  induction ks generalizing dict with
  | nil => simp
  | cons k rest ih =>
      rw [List.foldl_cons, ih]
      by_cases later : j ∈ rest
      · simp [later]
      · by_cases here : j = k
        · rw [here, get?_pop_self]
          simp
        · rw [get?_pop_of_ne dict here]
          simp [later, here]

theorem mem_keys_of_mem_keys_pop {dict : OrderedDict K V} {k j : K}
    (member : j ∈ (dict.pop k).keys) : j ∈ dict.keys :=
  (List.filter_sublist.map Prod.fst).subset member

theorem mem_keys_of_mem_keys_foldl_pop {dict : OrderedDict K V} {ks : List K} {j : K}
    (member : j ∈ (ks.foldl pop dict).keys) : j ∈ dict.keys := by
  induction ks generalizing dict with
  | nil => exact member
  | cons k rest ih => exact mem_keys_of_mem_keys_pop (ih member)

theorem keys_pop (dict : OrderedDict K V) (k : K) :
    (dict.pop k).keys = dict.keys.filter fun j => j ≠ k := by
  rw [keys, keys, pop, List.filter_map]
  rfl

/-- What is left after forgetting several keys, in the same order. -/
theorem keys_foldl_pop (dict : OrderedDict K V) (ks : List K) :
    (ks.foldl pop dict).keys = dict.keys.filter fun j => j ∉ ks := by
  induction ks generalizing dict with
  | nil => simp
  | cons k rest ih =>
      rw [List.foldl_cons, ih, keys_pop, List.filter_filter]
      refine List.filter_congr fun j _ => ?_
      by_cases here : j = k
      · simp [here]
      · simp [here]

/-- Insert the keys one after the other, each with its value. -/
def ofKeys (ks : List K) (value : K → V) : OrderedDict K V :=
  ks.foldl (fun dict k => dict.set k (value k)) empty

theorem get?_foldl_set (ks : List K) (value : K → V) (dict : OrderedDict K V) (j : K) :
    (ks.foldl (fun dict k => dict.set k (value k)) dict).get? j =
      if j ∈ ks then some (value j) else dict.get? j := by
  induction ks generalizing dict with
  | nil => simp
  | cons k rest ih =>
      rw [List.foldl_cons, ih]
      by_cases later : j ∈ rest
      · simp [later]
      · by_cases here : k = j
        · simp [here]
        · simp [later, here, Ne.symm here]

@[simp] theorem get?_ofKeys (ks : List K) (value : K → V) (j : K) :
    (ofKeys ks value).get? j = if j ∈ ks then some (value j) else none :=
  get?_foldl_set ks value empty j

theorem mem_keys_foldl_set {ks : List K} {value : K → V} {dict : OrderedDict K V} {j : K} :
    j ∈ (ks.foldl (fun dict k => dict.set k (value k)) dict).keys ↔ j ∈ ks ∨ j ∈ dict.keys := by
  induction ks generalizing dict with
  | nil => simp
  | cons k rest ih => rw [List.foldl_cons, ih, mem_keys_set, List.mem_cons]; tauto

@[simp] theorem mem_keys_ofKeys {ks : List K} {value : K → V} {j : K} :
    j ∈ (ofKeys ks value).keys ↔ j ∈ ks := by
  rw [ofKeys, mem_keys_foldl_set]
  simp [keys, empty]

end OrderedDict

end PersonTracking.Library
