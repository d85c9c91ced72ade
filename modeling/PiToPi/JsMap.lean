import Mathlib.Data.List.Nodup

/-!
The host language's `Map`: a finite map that remembers insertion order. Setting
a present key replaces its value in place, setting an absent one appends it,
and iteration follows that order. Keys are pairwise distinct by construction.
-/

/-- A `Map` from `κ` to `ν`, as its entries in insertion order. -/
structure JsMap (κ ν : Type) where
  entries : List (κ × ν)
  distinct : (entries.map Prod.fst).Nodup

namespace JsMap

variable {κ ν : Type} [DecidableEq κ]

/-- `new Map()`. -/
def empty : JsMap κ ν := ⟨[], by simp⟩

instance : EmptyCollection (JsMap κ ν) := ⟨empty⟩

/-- `map.get(key)`. -/
def get? (m : JsMap κ ν) (key : κ) : Option ν :=
  (m.entries.find? fun entry => entry.1 = key).map Prod.snd

/-- `map.has(key)`. -/
def has (m : JsMap κ ν) (key : κ) : Bool := (m.get? key).isSome

/-- `map.size`. -/
def size (m : JsMap κ ν) : Nat := m.entries.length

/-- `map.values()`, in insertion order. -/
def values (m : JsMap κ ν) : List ν := m.entries.map Prod.snd

/-- `map.keys()`, in insertion order. -/
def keys (m : JsMap κ ν) : List κ := m.entries.map Prod.fst

/-- `map.delete(key)`. -/
def delete (m : JsMap κ ν) (key : κ) : JsMap κ ν where
  entries := m.entries.filter fun entry => entry.1 ≠ key
  distinct := m.distinct.sublist (List.filter_sublist.map _)

/-- The value of `key` replaced in place. -/
def replaceEntries (key : κ) (value : ν) (entries : List (κ × ν)) : List (κ × ν) :=
  entries.map fun entry => if entry.1 = key then (key, value) else entry

theorem keys_replaceEntries (key : κ) (value : ν) (entries : List (κ × ν)) :
    (replaceEntries key value entries).map Prod.fst = entries.map Prod.fst := by
  simp only [replaceEntries, List.map_map]
  refine List.map_congr_left fun entry _ => ?_
  by_cases same : entry.1 = key <;> simp [same]

theorem get?_isSome_iff {m : JsMap κ ν} {key : κ} : (m.get? key).isSome ↔ key ∈ m.keys := by
  simp [get?, keys]

theorem get?_eq_none_iff {m : JsMap κ ν} {key : κ} : m.get? key = none ↔ key ∉ m.keys := by
  rw [← get?_isSome_iff, Option.not_isSome_iff_eq_none]

/-- `map.set(key, value)`. -/
def set (m : JsMap κ ν) (key : κ) (value : ν) : JsMap κ ν :=
  if absent : m.get? key = none then
    { entries := m.entries ++ [(key, value)]
      distinct := by
        rw [get?_eq_none_iff] at absent
        simp only [List.map_append, List.map_cons, List.map_nil]
        refine m.distinct.append (List.nodup_singleton key) ?_
        intro held member single
        rw [List.mem_singleton] at single
        subst single
        exact absent member }
  else
    { entries := replaceEntries key value m.entries
      distinct := by rw [keys_replaceEntries]; exact m.distinct }

variable {m : JsMap κ ν} {key other : κ} {value : ν}

@[simp] theorem get?_empty : (∅ : JsMap κ ν).get? key = none := rfl

omit [DecidableEq κ] in
@[simp] theorem size_empty : (∅ : JsMap κ ν).size = 0 := rfl

/-- The entries are the graph of `get?`. -/
theorem mem_entries_iff : (key, value) ∈ m.entries ↔ m.get? key = some value := by
  simp only [get?, Option.map_eq_some_iff, Prod.exists]
  constructor
  · intro member
    obtain ⟨⟨k, v⟩, found⟩ : ∃ entry, m.entries.find? (fun entry => entry.1 = key) = some entry :=
      Option.isSome_iff_exists.mp (by simpa using ⟨value, member⟩)
    have same : k = key := by simpa using List.find?_some found
    subst same
    have unique := List.inj_on_of_nodup_map m.distinct member (List.mem_of_find?_eq_some found) rfl
    exact ⟨k, v, found, by simpa using unique.symm⟩
  · rintro ⟨k, v, found, rfl⟩
    have same : k = key := by simpa using List.find?_some found
    subst same
    exact List.mem_of_find?_eq_some found

@[simp] theorem get?_delete_self : (m.delete key).get? key = none := by
  rw [get?_eq_none_iff]
  simp [delete, keys]

theorem get?_delete_ne (differ : other ≠ key) : (m.delete key).get? other = m.get? other := by
  ext v
  rw [← mem_entries_iff, ← mem_entries_iff]
  simp [delete, differ]

theorem get?_delete : (m.delete key).get? other = if other = key then none else m.get? other := by
  by_cases same : other = key
  · simp [same]
  · simp [same, get?_delete_ne same]

theorem get?_delete_eq_some_iff :
    (m.delete key).get? other = some value ↔ other ≠ key ∧ m.get? other = some value := by
  rw [get?_delete]
  by_cases same : other = key <;> simp [same]

@[simp] theorem get?_set_self : (m.set key value).get? key = some value := by
  rw [← mem_entries_iff]
  by_cases absent : m.get? key = none
  · simp [set, absent]
  · obtain ⟨held, present⟩ := Option.ne_none_iff_exists'.mp absent
    simp only [set, absent, ↓reduceDIte, replaceEntries, List.mem_map]
    exact ⟨(key, held), mem_entries_iff.mpr present, by simp⟩

theorem get?_set_ne (differ : other ≠ key) : (m.set key value).get? other = m.get? other := by
  ext v
  rw [← mem_entries_iff, ← mem_entries_iff]
  by_cases absent : m.get? key = none
  · simp [set, absent, differ]
  · simp only [set, absent, ↓reduceDIte, replaceEntries, List.mem_map, Prod.exists]
    constructor
    · rintro ⟨k, w, member, shape⟩
      by_cases same : k = key
      · simp only [same, ↓reduceIte, Prod.mk.injEq] at shape
        exact absurd shape.1.symm differ
      · simp only [same, ↓reduceIte, Prod.mk.injEq] at shape
        obtain ⟨rfl, rfl⟩ := shape
        exact member
    · intro member
      exact ⟨other, v, member, by simp [differ]⟩

theorem get?_set : (m.set key value).get? other = if other = key then some value else m.get? other := by
  by_cases same : other = key
  · simp [same]
  · simp [same, get?_set_ne same]

theorem has_iff : m.has key = true ↔ ∃ value, m.get? key = some value := by
  rw [has, Option.isSome_iff_exists]

/-- Replacing a value keeps the number of entries; a new key adds one. -/
theorem size_set : (m.set key value).size = if m.get? key = none then m.size + 1 else m.size := by
  by_cases absent : m.get? key = none
  · simp [set, size, absent]
  · simp [set, size, absent, replaceEntries]

theorem size_delete_le : (m.delete key).size ≤ m.size := List.length_filter_le _ _

/-- Deleting an absent key changes nothing. -/
theorem delete_of_get?_none (absent : m.get? key = none) : m.delete key = m := by
  rw [get?_eq_none_iff] at absent
  have kept : m.entries.filter (fun entry => entry.1 ≠ key) = m.entries := by
    rw [List.filter_eq_self]
    intro entry member
    simp only [ne_eq, decide_not, Bool.not_eq_eq_eq_not, Bool.not_true, decide_eq_false_iff_not]
    rintro rfl
    exact absent (List.mem_map_of_mem member)
  cases m
  simp only [delete, kept]

theorem mem_values_iff {m : JsMap κ ν} {v : ν} : v ∈ m.values ↔ ∃ key, m.get? key = some v := by
  simp only [values, List.mem_map, Prod.exists]
  constructor
  · rintro ⟨k, w, member, rfl⟩
    exact ⟨k, mem_entries_iff.mp member⟩
  · rintro ⟨k, present⟩
    exact ⟨k, v, mem_entries_iff.mpr present, rfl⟩

end JsMap
