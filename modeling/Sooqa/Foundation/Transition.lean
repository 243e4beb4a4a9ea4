import Mathlib.Data.List.Basic

/-!
Guarded transition functions. A step takes a state and an action and may
refuse; the action carries every choice of the environment, so a run is a
list of actions. `Run` also records a side condition met before every step.
-/
namespace Foundation
variable {S A : Type}

/-- Execute a list of actions, stopping at the first refused one. -/
def exec (step : S → A → Option S) : S → List A → Option S
  | s, [] => some s
  | s, a :: rest => (step s a).bind (fun t => exec step t rest)

inductive Run (step : S → A → Option S) (allowed : S → A → Prop) : S → List A → S → Prop where
  | nil (s : S) : Run step allowed s [] s
  | cons {s t u : S} {a : A} {rest : List A} (ok : allowed s a) (first : step s a = some t)
      (tail : Run step allowed t rest u) : Run step allowed s (a :: rest) u

def Unrestricted : S → A → Prop := fun _ _ => True

/-- An execution of actions that are allowed in every state is a run. -/
theorem run_of_exec_allowed {step : S → A → Option S} {allowed : S → A → Prop} {s u : S}
    {acts : List A} (ok : ∀ a ∈ acts, ∀ t, allowed t a) (h : exec step s acts = some u) :
    Run step allowed s acts u := by
  induction acts generalizing s with
  | nil =>
    cases h
    exact Run.nil _
  | cons a rest ih =>
    simp only [exec, Option.bind_eq_some_iff] at h
    obtain ⟨t, first, tail⟩ := h
    exact Run.cons (ok a List.mem_cons_self s) first
      (ih (fun b member => ok b (List.mem_cons_of_mem _ member)) tail)

theorem run_of_exec {step : S → A → Option S} {s u : S} {acts : List A}
    (h : exec step s acts = some u) : Run step Unrestricted s acts u :=
  run_of_exec_allowed (fun _ _ _ => trivial) h

/-- An execution that checks a condition before every step is a run under it. -/
theorem run_of_exec_checked {step : S → A → Option S} {allowed : S → A → Bool} {s u : S}
    {acts : List A}
    (h : exec (fun s a => if allowed s a then step s a else none) s acts = some u) :
    Run step (fun s a => allowed s a = true) s acts u := by
  induction acts generalizing s with
  | nil =>
    cases h
    exact Run.nil _
  | cons a rest ih =>
    simp only [exec, Option.bind_eq_some_iff, Option.ite_none_right_eq_some] at h
    obtain ⟨t, ⟨ok, first⟩, tail⟩ := h
    exact Run.cons ok first (ih tail)

/-- The steps of a run lead where it led. -/
theorem exec_of_run {step : S → A → Option S} {allowed : S → A → Prop} {s u : S} {acts : List A}
    (run : Run step allowed s acts u) : exec step s acts = some u := by
  induction run with
  | nil s => rfl
  | cons ok first tail ih =>
    simp only [exec, first, Option.bind_some]
    exact ih

theorem run_split {step : S → A → Option S} {allowed : S → A → Prop} {s u : S}
    {first second : List A} (h : Run step allowed s (first ++ second) u) :
    ∃ t, Run step allowed s first t ∧ Run step allowed t second u := by
  induction first generalizing s with
  | nil => exact ⟨s, Run.nil s, h⟩
  | cons a rest ih =>
    cases h with
    | cons ok one tail =>
      obtain ⟨t, before, after⟩ := ih tail
      exact ⟨t, Run.cons ok one before, after⟩

theorem run_append {step : S → A → Option S} {allowed : S → A → Prop} {s t u : S}
    {first second : List A} (before : Run step allowed s first t)
    (after : Run step allowed t second u) : Run step allowed s (first ++ second) u := by
  induction before with
  | nil s => exact after
  | cons ok one tail ih => exact Run.cons ok one (ih after)

/-- The invariant rule: what every allowed step keeps, every run keeps. -/
theorem run_invariant {step : S → A → Option S} {allowed : S → A → Prop} (inv : S → Prop)
    (kept : ∀ {s a t}, inv s → allowed s a → step s a = some t → inv t)
    {s u : S} {acts : List A} (start : inv s) (run : Run step allowed s acts u) : inv u := by
  induction run with
  | nil s => exact start
  | cons ok first tail ih => exact ih (kept start ok first)

/-- A relation between the first and the last state, built from steps taken
    inside an invariant. -/
theorem run_relation {step : S → A → Option S} {allowed : S → A → Prop} (inv : S → Prop)
    (rel : S → S → Prop) (refl : ∀ s, rel s s) (trans : ∀ {a b c}, rel a b → rel b c → rel a c)
    (kept : ∀ {s a t}, inv s → allowed s a → step s a = some t → inv t)
    (one : ∀ {s a t}, inv s → allowed s a → step s a = some t → rel s t)
    {s u : S} {acts : List A} (start : inv s) (run : Run step allowed s acts u) : rel s u := by
  induction run with
  | nil s => exact refl s
  | cons ok first tail ih => exact trans (one start ok first) (ih (kept start ok first))

end Foundation
