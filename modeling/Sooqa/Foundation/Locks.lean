import Mathlib.Logic.Relation
import Sooqa.Foundation.Table
import Sooqa.Foundation.Transition

/-!
Row locks of concurrent transactions. A transaction is the list of locks it
takes, in order; it keeps each of them until it ends, and it may end at any
time. A lock it holds itself never stands in its way, so a shared lock can be
followed by an exclusive one on the same row. A transaction waits for those
whose locks conflict with the next one it needs.
-/
namespace Foundation

inductive Mode where
  | shared | exclusive
  deriving DecidableEq, Repr

def Mode.conflicts : Mode → Mode → Bool
  | .shared, .shared => false
  | _, _ => true

structure Lock (R : Type) where
  resource : R
  mode : Mode
  deriving DecidableEq, Repr

namespace Lock
variable {R : Type} [DecidableEq R]

/-- One of these locks conflicts with it. -/
def blocked (lock : Lock R) (held : List (Lock R)) : Bool :=
  held.any (fun other => other.resource == lock.resource && other.mode.conflicts lock.mode)

theorem blocked_iff {lock : Lock R} {held : List (Lock R)} :
    lock.blocked held = true ↔
      ∃ other ∈ held, other.resource = lock.resource ∧ other.mode.conflicts lock.mode = true := by
  simp [blocked]

end Lock

/-- A transaction that has taken so many of its locks. -/
structure Running (T : Type) where
  transaction : T
  taken : Nat
  deriving DecidableEq, Repr

inductive LockAction (I T : Type) where
  | begin (id : I) (transaction : T)
  | grant (id : I)
  | finish (id : I)

section Running
variable {R T : Type} (plan : T → List (Lock R))

namespace Running

def held (r : Running T) : List (Lock R) := (plan r.transaction).take r.taken
def next (r : Running T) : Option (Lock R) := (plan r.transaction)[r.taken]?
def advance (r : Running T) : Running T := { r with taken := r.taken + 1 }

variable {plan} {r : Running T} {lock : Lock R}

/-- What it holds after its next lock. -/
theorem held_advance (next : r.next plan = some lock) :
    r.advance.held plan = r.held plan ++ [lock] := by
  obtain ⟨below, here⟩ := List.getElem?_eq_some_iff.mp next
  simp [held, advance, List.take_add_one, List.getElem?_eq_getElem below, here]

/-- What holds between any two locks of the plan in their order holds between
    those it has and the next. -/
theorem pairwise_held {related : Lock R → Lock R → Prop}
    (ordered : (plan r.transaction).Pairwise related) {other : Lock R} (held : other ∈ r.held plan)
    (next : r.next plan = some lock) : related other lock := by
  rw [← List.take_append_drop r.taken (plan r.transaction)] at ordered
  refine (List.pairwise_append.mp ordered).2.2 other held lock ?_
  obtain ⟨below, here⟩ := List.getElem?_eq_some_iff.mp next
  rw [← here]
  exact List.mem_drop_iff_getElem.mpr ⟨0, by omega, by simp⟩

theorem mem_of_next (next : r.next plan = some lock) : lock ∈ plan r.transaction :=
  List.mem_of_getElem? next

/-- A transaction that needs a lock from the rest of its plan has what comes
    before. -/
theorem held_before {first rest : List (Lock R)} (split : plan r.transaction = first ++ rest)
    (next : r.next plan = some lock) (later : lock ∉ first) {other : Lock R}
    (member : other ∈ first) : other ∈ r.held plan := by
  unfold Running.next at next
  have past : first.length ≤ r.taken := by
    by_contra short
    rw [split, List.getElem?_append_left (by omega)] at next
    exact later (List.mem_of_getElem? next)
  unfold Running.held
  rw [split, List.take_append, List.take_of_length_le past]
  exact List.mem_append_left _ member

/-- A transaction that has a lock has its first one. -/
theorem first_held {first : Lock R} {rest : List (Lock R)}
    (split : plan r.transaction = first :: rest) (held : lock ∈ r.held plan) :
    first ∈ r.held plan := by
  unfold Running.held at held ⊢
  rw [split] at held ⊢
  cases taken : r.taken with
  | zero => simp [taken] at held
  | succ n => simp

end Running

end Running

section Locks
variable {I R T : Type} [DecidableEq I] [DecidableEq R] (plan : T → List (Lock R))

/-- The lock a transaction needs next is free of the others' locks. -/
def grantable (s : Table I (Running T)) (id : I) (lock : Lock R) : Bool :=
  (Table.rows s).all (fun row => row.1 == id || !(lock.blocked (row.2.held plan)))

def lockStep (s : Table I (Running T)) : LockAction I T → Option (Table I (Running T))
  | .begin id transaction =>
    if (s.get id).isNone then some (s.set id ⟨transaction, 0⟩) else none
  | .grant id =>
    match s.get id with
    | none => none
    | some r =>
      match r.next plan with
      | none => none
      | some lock => if grantable plan s id lock then some (s.set id r.advance) else none
  | .finish id => some (s.remove id)

/-- The next lock of the one conflicts with a lock of the other. -/
def WaitsFor (s : Table I (Running T)) (id other : I) : Prop :=
  id ≠ other ∧ ∃ r r' lock, s.get id = some r ∧ s.get other = some r' ∧
    r.next plan = some lock ∧ lock.blocked (r'.held plan) = true

def Deadlocked (s : Table I (Running T)) : Prop :=
  ∃ id, Relation.TransGen (WaitsFor plan s) id id

/-- No two transactions hold conflicting locks. -/
def Compatible (s : Table I (Running T)) : Prop :=
  ∀ id other r r', s.get id = some r → s.get other = some r' → id ≠ other →
    ∀ lock ∈ r.held plan, lock.blocked (r'.held plan) = false

variable {plan} {s s' : Table I (Running T)}

/-- What a step does. -/
inductive LockMove (plan : T → List (Lock R)) (s s' : Table I (Running T))
    (act : LockAction I T) : Prop where
  | began (id : I) (transaction : T) (after : s' = s.set id ⟨transaction, 0⟩)
  | granted (id : I) (r : Running T) (lock : Lock R) (which : act = .grant id)
      (found : s.get id = some r) (next : r.next plan = some lock)
      (free : ∀ other r', s.get other = some r' → other ≠ id → lock.blocked (r'.held plan) = false)
      (after : s' = s.set id r.advance)
  | finished (id : I) (after : s' = s.remove id)

theorem lockStep_cases {act : LockAction I T} (h : lockStep plan s act = some s') :
    LockMove plan s s' act := by
  cases act with
  | begin id transaction =>
    simp only [lockStep, Option.ite_none_right_eq_some, Option.some.injEq] at h
    exact .began id transaction h.2.symm
  | grant id =>
    simp only [lockStep] at h
    split at h
    · cases h
    · rename_i r found
      split at h
      · cases h
      · rename_i lock next
        simp only [Option.ite_none_right_eq_some, Option.some.injEq] at h
        refine .granted id r lock rfl found next ?_ h.2.symm
        intro other r' there ne
        have row := (Table.mem_rows_iff s other r').mpr there
        have clear := List.all_eq_true.mp h.1 (other, r') row
        simpa [ne] using clear
  | finish id =>
    cases h
    exact .finished id rfl

theorem Mode.conflicts_comm (a b : Mode) : a.conflicts b = b.conflicts a := by
  cases a <;> cases b <;> rfl

theorem Compatible.step (inv : Compatible plan s) {act : LockAction I T}
    (h : lockStep plan s act = some s') : Compatible plan s' := by
  cases lockStep_cases h with
  | began id transaction after =>
    subst after
    intro one other r r' here there ne lock held
    rw [Table.get_set] at here there
    split at here
    · cases here
      simp [Running.held] at held
    · split at there
      · cases there
        simp [Running.held, Lock.blocked]
      · exact inv one other r r' here there ne lock held
  | granted id running next which found need free after =>
    subst after
    -- The new lock is free of the others' locks, so theirs are free of it.
    have back : ∀ other r', s.get other = some r' → other ≠ id → ∀ lock ∈ r'.held plan,
        lock.blocked [next] = false := by
      intro other r' there ne lock held
      have clear := free other r' there ne
      cases hit : lock.blocked [next] with
      | false => rfl
      | true =>
        obtain ⟨same, conflicts⟩ : next.resource = lock.resource ∧
            next.mode.conflicts lock.mode = true := by simpa [Lock.blocked] using hit
        have blocks : next.blocked (r'.held plan) = true := Lock.blocked_iff.mpr
          ⟨lock, held, same.symm, by rw [Mode.conflicts_comm]; exact conflicts⟩
        rw [clear] at blocks
        cases blocks
    intro one other r r' here there ne lock held
    rw [Table.get_set] at here there
    split at here
    · rename_i mine
      subst mine
      cases here
      rw [if_neg (Ne.symm ne)] at there
      rw [Running.held_advance need, List.mem_append, List.mem_singleton] at held
      rcases held with before | rfl
      · exact inv one other running r' found there ne lock before
      · exact free other r' there (Ne.symm ne)
    · split at there
      · rename_i mine
        subst mine
        cases there
        rw [Running.held_advance need]
        have before := inv one other r running here found ne lock held
        have after := back one r here ne lock held
        simp only [Lock.blocked, List.any_append, Bool.or_eq_false_iff] at before after ⊢
        exact ⟨before, after⟩
      · exact inv one other r r' here there ne lock held
  | finished id after =>
    subst after
    intro one other r r' here there
    rw [Table.get_remove] at here there
    split at here
    · cases here
    · split at there
      · cases there
      · exact inv one other r r' here there

/-- A rank that grows from each waiting transaction to a waiting one it waits
    for rules out a deadlock. -/
theorem not_deadlocked_of_rank {α : Type} [Preorder α] (rank : I → α)
    (grows : ∀ a b c, WaitsFor plan s a b → WaitsFor plan s b c → rank a < rank b) :
    ¬ Deadlocked plan s := by
  have along : ∀ a b, Relation.TransGen (WaitsFor plan s) a b →
      ∀ c, WaitsFor plan s b c → rank a < rank b := by
    intro a b path
    induction path with
    | single first => exact fun c waits => grows _ _ c first waits
    | tail before last ih =>
      intro c waits
      exact lt_trans (ih _ last) (grows _ _ c last waits)
  rintro ⟨id, cycle⟩
  obtain ⟨next, waits⟩ : ∃ next, WaitsFor plan s id next := by
    rcases Relation.TransGen.head'_iff.mp cycle with ⟨next, first, -⟩
    exact ⟨next, first⟩
  exact lt_irrefl _ (along id id cycle next waits)

end Locks

end Foundation
