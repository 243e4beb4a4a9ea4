import Mathlib.Data.Finset.Card
import Mathlib.Data.Finset.Filter
import Mathlib.Data.Int.ConditionallyCompleteOrder
import Mathlib.Order.Bounds.Basic
import Mathlib.Order.Monotone.Defs
import Mathlib.Tactic.Common
import Mathlib.Tactic.Linarith

/-!
Searching an order for the earliest element of a set: element by element, day
by day where the days of the elements never go back, and past a finite number
of taken elements.
-/
namespace Foundation
namespace Earliest

section Scan
variable {α : Type} [LinearOrder α]

/-- The earlier of what was found so far and a new element, unless that is before the request. -/
def keep (request : α) (found : Option α) (x : α) : Option α :=
  if request ≤ x ∧ found.all (fun y => decide (x < y)) then some x else found

/-- The outcome of a search through a set: its least element, or none of an empty one. -/
def Found (s : Set α) : Option α → Prop
  | none => s = ∅
  | some x => IsLeast s x

variable {request : α} {s t : Set α} {found : Option α} {x : α}

theorem Found.congr (h : Found s found) (same : ∀ y, y ∈ s ↔ y ∈ t) : Found t found := by
  rw [show t = s from Set.ext fun y => (same y).symm]
  exact h

theorem Found.keep (h : Found s found) :
    Found (s ∪ {y | y = x ∧ request ≤ y}) (keep request found x) := by
  unfold Earliest.keep
  cases found with
  | none =>
    have empty : s = ∅ := h
    subst empty
    by_cases late : request ≤ x
    · rw [if_pos ⟨late, rfl⟩]
      constructor
      · exact Or.inr ⟨rfl, late⟩
      · rintro y (hy | ⟨rfl, -⟩)
        · exact absurd hy (Set.notMem_empty y)
        · exact le_rfl
    · rw [if_neg (fun both => late both.1)]
      apply Set.eq_empty_of_forall_notMem
      rintro y (hy | ⟨rfl, hy⟩)
      · exact hy
      · exact late hy
  | some z =>
    have least : IsLeast s z := h
    by_cases earlier : request ≤ x ∧ x < z
    · rw [if_pos ⟨earlier.1, decide_eq_true earlier.2⟩]
      constructor
      · exact Or.inr ⟨rfl, earlier.1⟩
      · rintro y (hy | ⟨rfl, -⟩)
        · exact earlier.2.le.trans (least.2 hy)
        · exact le_rfl
    · rw [if_neg (fun both => earlier ⟨both.1, of_decide_eq_true both.2⟩)]
      constructor
      · exact Or.inl least.1
      · rintro y (hy | ⟨rfl, hy⟩)
        · exact least.2 hy
        · exact not_lt.mp fun lt => earlier ⟨hy, lt⟩

theorem Found.keepAll (h : Found s found) (elements : List α) :
    Found (s ∪ {y | y ∈ elements ∧ request ≤ y})
      (elements.foldl (Earliest.keep request) found) := by
  induction elements generalizing s found with
  | nil => exact h.congr (by simp)
  | cons x elements ih =>
    have kept : Found (s ∪ {y | y = x ∧ request ≤ y}) (Earliest.keep request found x) := h.keep
    apply (ih kept).congr
    intro y
    simp only [Set.mem_union, Set.mem_ofPred_eq, List.mem_cons]
    tauto

end Scan

section Days
variable {α : Type}

/-- The first day with a hit, of a number of days from one on. -/
def firstDay (scan : Int → Option α) : Nat → Int → Option α
  | 0, _ => none
  | days + 1, date =>
    match scan date with
    | some result => some result
    | none => firstDay scan days (date + 1)

/-- Where days never go back, the least element of the first day with one is the least of all. -/
theorem firstDay_isLeast [LinearOrder α] {day : α → Int} (forward : Monotone day) {s : Set α}
    {scan : Int → Option α} (scanned : ∀ date, Found {x ∈ s | day x = date} (scan date))
    {days : Nat} {date : Int} {x : α} (from_ : ∀ y ∈ s, date ≤ day y)
    (h : firstDay scan days date = some x) : IsLeast s x := by
  induction days generalizing date with
  | zero => cases h
  | succ days ih =>
    have today := scanned date
    unfold firstDay at h
    cases hit : scan date with
    | some y =>
      rw [hit] at h today
      obtain rfl := Option.some.inj h
      constructor
      · exact today.1.1
      · intro z hz
        rcases (from_ z hz).eq_or_lt with same | later
        · exact today.2 ⟨hz, same.symm⟩
        · -- An element of a later day is later.
          by_contra before
          have back := forward (not_le.mp before).le
          rw [today.1.2] at back
          omega
    | none =>
      rw [hit] at h today
      apply ih ?_ h
      intro y hy
      have := from_ y hy
      have away : day y ≠ date := fun same =>
        Set.eq_empty_iff_forall_notMem.mp today y ⟨hy, same⟩
      omega

end Days

section Taken
variable {α : Type} [LinearOrder α] {after : α → α} {taken : Finset α} {request candidate : α}

/-- A taken candidate leaves fewer taken elements ahead. -/
theorem card_after (later : candidate < after candidate) (late : request ≤ candidate)
    (there : candidate ∈ taken) :
    (taken.filter (after candidate ≤ ·)).card < (taken.filter (request ≤ ·)).card := by
  apply Finset.card_lt_card
  constructor
  · intro y hy
    obtain ⟨member, from_⟩ := Finset.mem_filter.mp hy
    exact Finset.mem_filter.mpr ⟨member, late.trans (later.le.trans from_)⟩
  · intro whole
    have ahead := whole (Finset.mem_filter.mpr ⟨there, late⟩)
    exact absurd (Finset.mem_filter.mp ahead).2 (not_le.mpr later)

end Taken

section Free
variable {α ε : Type} [DecidableEq α]

/-- Take the first candidate that is free; ask again after each one that is taken. -/
def searchFree (next : α → Except ε α) (after : α → α) (exhausted : ε) (taken : Finset α) :
    Nat → α → Except ε α
  | 0, _ => .error exhausted
  | rounds + 1, candidate =>
    if candidate ∉ taken then .ok candidate
    else do
      let candidate ← next (after candidate)
      searchFree next after exhausted taken rounds candidate

/-- The requests of a search: the first one, and one after each candidate that is taken. -/
inductive Asked (next : α → Except ε α) (after : α → α) (taken : Finset α) (first : α) :
    α → Prop
  | first : Asked next after taken first first
  | again {request candidate : α} (asked : Asked next after taken first request)
      (found : next request = .ok candidate) (there : candidate ∈ taken) :
      Asked next after taken first (after candidate)

variable [LinearOrder α]
variable {next : α → Except ε α} {after : α → α} {taken : Finset α}
variable {s : Set α} {first request candidate : α}

/-- A search goes on until it has passed the taken elements, and skips no other one. -/
theorem searchFree_isLeast (exhausted : ε)
    (least : ∀ t x, next t = .ok x → IsLeast {y | t ≤ y ∧ y ∈ s} x)
    (later : ∀ x, x < after x) (skips : ∀ x ∈ s, ∀ y ∈ s, x < y → after x ≤ y)
    (succeed : ∀ t, Asked next after taken first t → ∃ x, next t = .ok x)
    {rounds : Nat} (few : (taken.filter (request ≤ ·)).card < rounds)
    (asked : Asked next after taken first request) (found : next request = .ok candidate)
    (passed : ∀ y ∈ s, first ≤ y → y < request → y ∈ taken) (since : first ≤ request) :
    ∃ x, searchFree next after exhausted taken rounds candidate = .ok x ∧
      IsLeast {y | first ≤ y ∧ y ∈ s ∧ y ∉ taken} x := by
  induction rounds generalizing request candidate with
  | zero => exact absurd few (Nat.not_lt_zero _)
  | succ rounds ih =>
    obtain ⟨⟨late, inside⟩, bound⟩ := least request candidate found
    by_cases there : candidate ∈ taken
    · have asked' := asked.again found there
      obtain ⟨candidate', found'⟩ := succeed _ asked'
      have fewer := card_after (later candidate) late there
      have rest := ih (by omega) asked' found' ?_ (since.trans (late.trans (later candidate).le))
      · rw [searchFree, if_neg (not_not.mpr there), found']
        exact rest
      · -- Up to the next request there is the candidate, which is taken, and what was passed.
        intro y hy from_ before
        by_cases old : y < request
        · exact passed y hy from_ old
        · rcases (bound ⟨not_lt.mp old, hy⟩).eq_or_lt with same | beyond
          · rw [← same]
            exact there
          · exact absurd (skips candidate inside y hy beyond) (not_le.mpr before)
    · refine ⟨candidate, by rw [searchFree, if_pos there], ⟨since.trans late, inside, there⟩, ?_⟩
      rintro y ⟨from_, hy, free⟩
      by_cases old : y < request
      · exact absurd (passed y hy from_ old) free
      · exact bound ⟨not_lt.mp old, hy⟩

end Free
end Earliest
end Foundation
