import Sooqa.Foundation.Json
import Mathlib.Data.List.Nodup

/-!
JSON documents by the paths of their objects. A document has no object with a
key twice, so that a value is the one under its path, whatever the order of the
entries; an induction over a document goes from the values under its keys.
-/
namespace Foundation.Json

/-- The value at a path of object keys. -/
def follow (value : Json) : List String → Option Json
  | [] => some value
  | key :: path => (value.get key).bind (·.follow path)

@[simp] theorem follow_nil (value : Json) : value.follow [] = some value := rfl

theorem follow_cons (value : Json) (key : String) (path : List String) :
    value.follow (key :: path) = (value.get key).bind (·.follow path) := rfl

@[simp] theorem get_object (entries : List (String × Json)) (key : String) :
    (object entries).get key = entries.lookup key := rfl

theorem isNull_eq_false {value : Json} (present : value ≠ null) : value.isNull = false := by
  cases value <;> first | rfl | exact absurd rfl present

theorem isObject_iff {value : Json} :
    value.isObject = true ↔ ∃ entries, value = object entries := by
  cases value <;> simp [isObject, asObject]

section Entries
variable {entries : List (String × Json)} {key other : String} {value : Json}

/-- A value under a key, in the place of the one that was there. -/
def insertEntry (key : String) (value : Json) : List (String × Json) → List (String × Json)
  | [] => [(key, value)]
  | (k, v) :: rest => if k = key then (key, value) :: rest else (k, v) :: insertEntry key value rest

theorem lookup_cons (entry : String × Json) :
    (entry :: entries).lookup key = if key = entry.1 then some entry.2 else entries.lookup key := by
  rw [List.lookup_cons]
  by_cases same : key = entry.1
  · rw [if_pos same, same, beq_self_eq_true]
  · rw [if_neg same, beq_false_of_ne same]

theorem lookup_insertEntry : (insertEntry key value entries).lookup other =
    if other = key then some value else entries.lookup other := by
  induction entries with
  | nil => rw [insertEntry, lookup_cons]
  | cons entry rest ih =>
    obtain ⟨k, v⟩ := entry
    by_cases here : k = key
    · rw [insertEntry, if_pos here, lookup_cons, lookup_cons, here]
      by_cases same : other = key
      · rw [if_pos same, if_pos same]
      · rw [if_neg same, if_neg same, if_neg same]
    · rw [insertEntry, if_neg here, lookup_cons, lookup_cons, ih]
      by_cases same : other = k
      · have apart : other ≠ key := fun there => here (same.symm.trans there)
        rw [if_pos same, if_pos same, if_neg apart]
      · rw [if_neg same, if_neg same]

theorem insertEntry_same (found : entries.lookup key = some value) :
    insertEntry key value entries = entries := by
  induction entries with
  | nil => cases found
  | cons entry rest ih =>
    obtain ⟨k, v⟩ := entry
    rw [lookup_cons] at found
    by_cases here : k = key
    · rw [if_pos here.symm] at found
      cases found
      rw [insertEntry, if_pos here, here]
    · rw [if_neg (Ne.symm here)] at found
      rw [insertEntry, if_neg here, ih found]

theorem mem_of_lookup (found : entries.lookup key = some value) : (key, value) ∈ entries := by
  induction entries with
  | nil => cases found
  | cons entry rest ih =>
    rw [lookup_cons] at found
    by_cases here : key = entry.1
    · rw [if_pos here] at found
      cases found
      rw [here]
      exact List.mem_cons_self
    · rw [if_neg here] at found
      exact List.mem_cons_of_mem _ (ih found)

theorem lookup_of_mem (distinct : (entries.map Prod.fst).Nodup) (member : (key, value) ∈ entries) :
    entries.lookup key = some value := by
  induction entries with
  | nil => cases member
  | cons entry rest ih =>
    rw [List.map_cons, List.nodup_cons] at distinct
    rw [lookup_cons]
    rcases List.mem_cons.mp member with rfl | later
    · exact if_pos rfl
    · have apart : key ≠ entry.1 := by
        rintro rfl
        exact distinct.1 (List.mem_map.mpr ⟨_, later, rfl⟩)
      rw [if_neg apart]
      exact ih distinct.2 later

theorem mem_insertEntry {entry : String × Json} (member : entry ∈ insertEntry key value entries) :
    entry = (key, value) ∨ entry ∈ entries := by
  induction entries with
  | nil => exact Or.inl (List.mem_singleton.mp member)
  | cons first rest ih =>
    obtain ⟨k, v⟩ := first
    by_cases here : k = key
    · rw [insertEntry, if_pos here, List.mem_cons] at member
      exact member.imp_right (List.mem_cons_of_mem _)
    · rw [insertEntry, if_neg here, List.mem_cons] at member
      rcases member with same | later
      · exact Or.inr (same ▸ List.mem_cons_self)
      · exact (ih later).imp_right (List.mem_cons_of_mem _)

theorem insertEntry_distinct (distinct : (entries.map Prod.fst).Nodup) :
    ((insertEntry key value entries).map Prod.fst).Nodup := by
  induction entries with
  | nil => exact List.nodup_singleton key
  | cons first rest ih =>
    obtain ⟨k, v⟩ := first
    rw [List.map_cons, List.nodup_cons] at distinct
    by_cases here : k = key
    · rw [insertEntry, if_pos here, List.map_cons, List.nodup_cons]
      exact here ▸ distinct
    · rw [insertEntry, if_neg here, List.map_cons, List.nodup_cons]
      refine ⟨fun member => ?_, ih distinct.2⟩
      obtain ⟨entry, inserted, same⟩ := List.mem_map.mp member
      rcases mem_insertEntry inserted with rfl | old
      · exact here same.symm
      · exact distinct.1 (same ▸ List.mem_map_of_mem old)

end Entries

section Uniqueness

mutual

/-- No object has a key twice. -/
def Unique : Json → Prop
  | .null => True
  | .bool _ => True
  | .number _ => True
  | .string _ => True
  | .array items => itemsUnique items
  | .object entries => (entries.map Prod.fst).Nodup ∧ entriesUnique entries

def itemsUnique : List Json → Prop
  | [] => True
  | item :: rest => item.Unique ∧ itemsUnique rest

def entriesUnique : List (String × Json) → Prop
  | [] => True
  | (_, value) :: rest => value.Unique ∧ entriesUnique rest

end

theorem entriesUnique_iff {entries : List (String × Json)} :
    entriesUnique entries ↔ ∀ entry ∈ entries, entry.2.Unique := by
  induction entries with
  | nil => simp [entriesUnique]
  | cons entry rest ih =>
    obtain ⟨key, value⟩ := entry
    rw [entriesUnique, ih, List.forall_mem_cons]

theorem unique_object_iff {entries : List (String × Json)} :
    (object entries).Unique ↔
      (entries.map Prod.fst).Nodup ∧ ∀ entry ∈ entries, entry.2.Unique := by
  rw [Unique, entriesUnique_iff]

theorem Unique.get {value inner : Json} {key : String} (unique : value.Unique)
    (found : value.get key = some inner) : inner.Unique := by
  cases value with
  | object entries => exact (unique_object_iff.mp unique).2 _ (mem_of_lookup found)
  | _ => cases found

end Uniqueness

/-- What holds of a value once it holds of the values under its keys. -/
theorem get_induction {motive : Json → Prop}
    (step : ∀ value, (∀ key inner, value.get key = some inner → motive inner) → motive value)
    (value : Json) : motive value := by
  induction size : sizeOf value using Nat.strongRecOn generalizing value with
  | ind n ih =>
    refine step value (fun key inner found => ih (sizeOf inner) ?_ inner rfl)
    cases value with
    | object entries =>
      have member := List.sizeOf_lt_of_mem (mem_of_lookup found)
      rw [← size]
      simp only [Json.object.sizeOf_spec, Prod.mk.sizeOf_spec] at member ⊢
      omega
    | _ => cases found

end Foundation.Json

namespace Foundation

/-- A JSON document: its objects are maps. -/
@[ext] structure Document where
  value : Json
  unique : value.Unique

end Foundation
