import Mathlib.Tactic.Common

/-!
Fallible computations as transactions see them: a failed guard aborts, a
sequence succeeds when each of its parts does.
-/
namespace Foundation
variable {ε α β : Type}

def require (condition : Prop) [Decidable condition] (error : ε) : Except ε Unit :=
  if condition then .ok () else .error error

/-- The value of a lookup, or an abort. -/
def expect (value : Option α) (error : ε) : Except ε α :=
  match value with
  | some a => .ok a
  | none => .error error

/-- Check a value that may be absent. -/
def validateSome (check : α → Except ε Unit) : Option α → Except ε Unit
  | some a => check a
  | none => .ok ()

theorem require_ok {condition : Prop} [Decidable condition] {error : ε} {u : Unit} :
    require condition error = .ok u ↔ condition := by
  unfold require
  split <;> simp_all

theorem require_met {condition : Prop} [Decidable condition] {error : ε} (met : condition) :
    require condition error = .ok () := if_pos met

theorem require_error {condition : Prop} [Decidable condition] {error e : ε} :
    require condition error = .error e ↔ ¬ condition ∧ e = error := by
  unfold require
  split <;> simp_all [eq_comm]

theorem expect_ok {value : Option α} {error : ε} {a : α} :
    expect value error = .ok a ↔ value = some a := by
  cases value <;> simp [expect]

theorem expect_error {value : Option α} {error e : ε} :
    expect value error = .error e ↔ value = none ∧ e = error := by
  cases value <;> simp [expect, eq_comm]

theorem bind_ok {x : Except ε α} {f : α → Except ε β} {b : β} :
    (x >>= f) = .ok b ↔ ∃ a, x = .ok a ∧ f a = .ok b := by
  cases x with
  | error e => simp [bind, Except.bind]
  | ok a => simp [bind, Except.bind]

theorem bind_error {x : Except ε α} {f : α → Except ε β} {e : ε} :
    (x >>= f) = .error e ↔ x = .error e ∨ ∃ a, x = .ok a ∧ f a = .error e := by
  cases x with
  | error e => simp [bind, Except.bind]
  | ok a => simp [bind, Except.bind]

theorem bind_ok_eq {a : α} {f : α → Except ε β} : ((.ok a : Except ε α) >>= f) = f a := rfl

theorem mapError_ok {ε' : Type} {x : Except ε α} {f : ε → ε'} {a : α} :
    x.mapError f = .ok a ↔ x = .ok a := by
  cases x <;> simp [Except.mapError]

theorem mapError_error {ε' : Type} {x : Except ε α} {f : ε → ε'} {e' : ε'} :
    x.mapError f = .error e' ↔ ∃ e, x = .error e ∧ f e = e' := by
  cases x <;> simp [Except.mapError]

theorem pure_ok {a b : α} : (pure a : Except ε α) = .ok b ↔ a = b := by
  simp [pure, Except.pure]

/-- The state a transaction leaves: the committed one, or the old one after an
    error rolled it back. -/
def committed (s : α) (result : Except ε (α × β)) : α :=
  match result with
  | .ok (t, _) => t
  | .error _ => s

theorem committed_cases (s : α) (result : Except ε (α × β)) :
    committed s result = s ∨ ∃ answer, result = .ok (committed s result, answer) := by
  cases result with
  | error e => exact Or.inl rfl
  | ok pair => exact Or.inr ⟨pair.2, rfl⟩

end Foundation
