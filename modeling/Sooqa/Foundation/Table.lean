import Mathlib.Data.List.AList

/-!
Finite keyed tables with the row operations of a relational store: point
lookup, point write, an update over every row, a guarded insert that never
overwrites, and a scan. Each operation is described by what it does to a
point lookup, so that clients reason about one row at a time.
-/
namespace Foundation

abbrev Table (K V : Type) := AList (fun _ : K => V)

namespace Table
variable {K V : Type} [DecidableEq K]

def get (t : Table K V) (k : K) : Option V := t.lookup k

def set (t : Table K V) (k : K) (v : V) : Table K V := t.insert k v

def remove (t : Table K V) (k : K) : Table K V := t.erase k

/-- Rewrite every row. Keys are kept, so a row never changes its identity. -/
def updateAll (t : Table K V) (f : K → V → V) : Table K V where
  entries := t.entries.map (fun e => ⟨e.1, f e.1 e.2⟩)
  nodupKeys := by
    have nodup := t.nodupKeys
    simp only [List.NodupKeys, List.keys, List.map_map] at nodup ⊢
    exact nodup

/-- Insert a row only when its key is free. -/
def insertAbsent (t : Table K V) (k : K) (v : V) : Table K V :=
  if (t.get k).isSome then t else t.set k v

def insertAbsentAll (t : Table K V) (rows : List (K × V)) : Table K V :=
  rows.foldl (fun acc row => acc.insertAbsent row.1 row.2) t

def rows (t : Table K V) : List (K × V) := t.entries.map (fun e => (e.1, e.2))

@[simp] theorem get_empty (k : K) : get (∅ : Table K V) k = none := rfl

@[simp] theorem get_set_self (t : Table K V) (k : K) (v : V) : (t.set k v).get k = some v :=
  AList.lookup_insert t

theorem get_set_ne (t : Table K V) {k l : K} (v : V) (ne : l ≠ k) :
    (t.set k v).get l = t.get l := AList.lookup_insert_ne ne

theorem get_set (t : Table K V) (k l : K) (v : V) :
    (t.set k v).get l = if l = k then some v else t.get l := by
  split
  · rename_i same
    rw [same, get_set_self]
  · rename_i ne
    exact get_set_ne t v ne

/-- A row of a written table is the written one or an old one. -/
theorem get_set_cases {t : Table K V} {k l : K} {v x : V} (h : (t.set k v).get l = some x) :
    (l = k ∧ x = v) ∨ (l ≠ k ∧ t.get l = some x) := by
  rw [get_set] at h
  split at h
  · rename_i same
    cases h
    exact Or.inl ⟨same, rfl⟩
  · rename_i ne
    exact Or.inr ⟨ne, h⟩

@[simp] theorem get_remove_self (t : Table K V) (k : K) : (t.remove k).get k = none :=
  AList.lookup_erase k t

theorem get_remove_ne (t : Table K V) {k l : K} (ne : l ≠ k) :
    (t.remove k).get l = t.get l := AList.lookup_erase_ne ne

theorem get_remove (t : Table K V) (k l : K) :
    (t.remove k).get l = if l = k then none else t.get l := by
  split
  · rename_i same
    rw [same, get_remove_self]
  · rename_i ne
    exact get_remove_ne t ne

@[simp] theorem get_updateAll (t : Table K V) (f : K → V → V) (k : K) :
    (t.updateAll f).get k = (t.get k).map (f k) := by
  simp only [get, updateAll, AList.lookup]
  induction t.entries with
  | nil => rfl
  | cons e rest ih =>
    obtain ⟨a, b⟩ := e
    by_cases same : k = a
    · subst same
      rw [List.map_cons, List.dlookup_cons_eq, List.dlookup_cons_eq]
      rfl
    · have mapped := List.dlookup_cons_ne (β := fun _ : K => V)
        (rest.map (fun e => ⟨e.1, f e.1 e.2⟩)) ⟨a, f a b⟩ same
      have plain := List.dlookup_cons_ne (β := fun _ : K => V) rest ⟨a, b⟩ same
      rw [List.map_cons, plain]
      exact mapped.trans ih

/-- Updates that agree on the rows of a table are one. -/
theorem updateAll_congr {t : Table K V} {f g : K → V → V}
    (agree : ∀ k v, t.get k = some v → f k v = g k v) : t.updateAll f = t.updateAll g := by
  apply AList.ext
  apply List.map_congr_left
  intro row member
  have found : t.get row.1 = some row.2 := AList.mem_lookup_iff.mpr member
  rw [agree row.1 row.2 found]

theorem get_insertAbsent (t : Table K V) (k l : K) (v : V) :
    (t.insertAbsent k v).get l =
      if l = k then some ((t.get k).getD v) else t.get l := by
  unfold insertAbsent
  cases hk : t.get k with
  | none =>
    simp only [Option.isSome_none, Bool.false_eq_true, if_false, Option.getD_none]
    exact get_set t k l v
  | some old =>
    simp only [Option.isSome_some, if_true, Option.getD_some]
    split
    · rename_i same
      rw [same, hk]
    · rfl

theorem get_insertAbsent_ne (t : Table K V) {k l : K} (v : V) (ne : l ≠ k) :
    (t.insertAbsent k v).get l = t.get l := by
  rw [get_insertAbsent, if_neg ne]

theorem get_insertAbsent_of_some (t : Table K V) {k l : K} {v w : V} (h : t.get l = some w) :
    (t.insertAbsent k v).get l = some w := by
  rw [get_insertAbsent]
  split
  · rename_i same
    rw [← same, h]
    rfl
  · exact h

theorem get_insertAbsentAll_of_some (t : Table K V) (new : List (K × V)) {l : K} {w : V}
    (h : t.get l = some w) : (t.insertAbsentAll new).get l = some w := by
  induction new generalizing t with
  | nil => exact h
  | cons row rest ih => exact ih (t.insertAbsent row.1 row.2) (get_insertAbsent_of_some t h)

theorem get_insertAbsentAll_of_not_mem (t : Table K V) (new : List (K × V)) {l : K}
    (h : ∀ row ∈ new, row.1 ≠ l) : (t.insertAbsentAll new).get l = t.get l := by
  induction new generalizing t with
  | nil => rfl
  | cons row rest ih =>
    have tail := ih (t.insertAbsent row.1 row.2) (fun r hr => h r (List.mem_cons_of_mem _ hr))
    have head := h row List.mem_cons_self
    exact tail.trans (get_insertAbsent_ne t row.2 (Ne.symm head))

theorem get_insertAbsentAll_of_mem (t : Table K V) (new : List (K × V)) {l : K} {v : V}
    (h : (l, v) ∈ new) : ((t.insertAbsentAll new).get l).isSome := by
  induction new generalizing t with
  | nil => cases h
  | cons row rest ih =>
    rcases List.mem_cons.mp h with first | later
    · subst first
      have present : (t.insertAbsent l v).get l = some ((t.get l).getD v) := by
        rw [get_insertAbsent, if_pos rfl]
      have kept := get_insertAbsentAll_of_some (t.insertAbsent l v) rest present
      exact Option.isSome_iff_exists.mpr ⟨_, kept⟩
    · exact ih (t.insertAbsent row.1 row.2) later

/-- A row of a guarded batch insert is either old or one of the new rows. -/
theorem get_insertAbsentAll_cases (t : Table K V) (new : List (K × V)) {l : K} {v : V}
    (h : (t.insertAbsentAll new).get l = some v) : t.get l = some v ∨ (l, v) ∈ new := by
  induction new generalizing t with
  | nil => exact Or.inl h
  | cons row rest ih =>
    rcases ih (t.insertAbsent row.1 row.2) h with old | fresh
    · rw [get_insertAbsent] at old
      split at old
      · rename_i same
        cases hk : t.get row.1 with
        | none =>
          rw [hk] at old
          simp only [Option.getD_none, Option.some.injEq] at old
          exact Or.inr (by rw [same, ← old]; exact List.mem_cons_self)
        | some w =>
          rw [hk] at old
          simp only [Option.getD_some] at old
          exact Or.inl (by rw [same, hk, old])
      · exact Or.inl old
    · exact Or.inr (List.mem_cons_of_mem _ fresh)

theorem mem_rows_iff (t : Table K V) (k : K) (v : V) : (k, v) ∈ t.rows ↔ t.get k = some v := by
  constructor
  · intro member
    simp only [rows, List.mem_map] at member
    obtain ⟨e, inside, same⟩ := member
    obtain ⟨rfl, rfl⟩ := Prod.mk.inj same
    exact AList.mem_lookup_iff.mpr inside
  · intro found
    simp only [rows, List.mem_map]
    exact ⟨⟨k, v⟩, AList.mem_lookup_iff.mp found, rfl⟩

omit [DecidableEq K] in
/-- No key is listed twice. -/
theorem rows_apart (t : Table K V) : t.rows.Pairwise (fun row other => row.1 ≠ other.1) := by
  have nodup := t.nodupKeys
  rw [List.NodupKeys, List.Nodup, List.keys, List.pairwise_map] at nodup
  rw [rows, List.pairwise_map]
  exact nodup

/-- Rows under different keys are related. -/
def PairwiseRows (t : Table K V) (related : V → V → Prop) : Prop :=
  ∀ k k' v v', k ≠ k' → t.get k = some v → t.get k' = some v' → related v v'

namespace PairwiseRows
variable {t : Table K V} {related : V → V → Prop} {k : K} {v : V}

theorem set (h : t.PairwiseRows related) (symm : ∀ v v', related v v' → related v' v)
    (new : ∀ l x, l ≠ k → t.get l = some x → related v x) :
    (t.set k v).PairwiseRows related := by
  intro one two x y ne found found'
  rcases get_set_cases found with ⟨rfl, rfl⟩ | ⟨-, old⟩
  · rcases get_set_cases found' with ⟨rfl, -⟩ | ⟨other, old'⟩
    · exact absurd rfl ne
    · exact new two y other old'
  · rcases get_set_cases found' with ⟨rfl, rfl⟩ | ⟨-, old'⟩
    · exact symm _ _ (new one x ne old)
    · exact h one two x y ne old old'

theorem remove (h : t.PairwiseRows related) (k : K) : (t.remove k).PairwiseRows related := by
  intro one two x y ne found found'
  rw [get_remove] at found found'
  split at found
  · cases found
  · split at found'
    · cases found'
    · exact h one two x y ne found found'

end PairwiseRows

end Table
end Foundation
