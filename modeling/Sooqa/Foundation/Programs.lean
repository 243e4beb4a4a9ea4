import Mathlib.Tactic.Basic

/-!
Programs with a state that may fail, and that may be interrupted wherever they
wait. A program computes a pure value when each of its runs that is not
interrupted comes to it; what always holds is established at every exit.
-/
namespace Foundation

inductive Exit (ε : Type) where
  | interrupted
  | failed (error : ε)
  deriving DecidableEq, Repr

abbrev Program (σ ε α : Type) := ExceptT (Exit ε) (StateM σ) α

section Runs
variable {σ ε α β : Type}

def Program.exec (program : Program σ ε α) (s : σ) : Except (Exit ε) α × σ :=
  (ExceptT.run program).run s

def Program.of (f : σ → Except (Exit ε) α × σ) : Program σ ε α :=
  ExceptT.mk (StateT.mk f)

/-- A pure computation, which leaves the state alone. -/
def Program.lift (value : Except ε α) : Program σ ε α :=
  .of fun s => (value.mapError .failed, s)

/-- A value that is known to be there; a program that is wrong about it dies. -/
def Program.expected : Option α → Program σ ε α
  | some a => pure a
  | none => .of fun s => (.error .interrupted, s)

@[simp] theorem exec_of (f : σ → Except (Exit ε) α × σ) (s : σ) :
    (Program.of f).exec s = f s := rfl

@[simp] theorem exec_pure (a : α) (s : σ) : (pure a : Program σ ε α).exec s = (.ok a, s) := rfl

theorem exec_bind (program : Program σ ε α) (next : α → Program σ ε β) (s : σ) :
    (program >>= next).exec s = match program.exec s with
      | (.ok a, after) => (next a).exec after
      | (.error exit, after) => (.error exit, after) := by
  change (ExceptT.bindCont next (program.exec s).1) (program.exec s).2 = _
  cases program.exec s with
  | mk outcome after => cases outcome <;> rfl

/-- A run from a state with `before` keeps to the value, and leaves a state with
    `after` where it comes to a result. -/
def Computes (always before : σ → Prop) (program : Program σ ε α) (value : Except ε α)
    (after : α → σ → Prop) : Prop :=
  ∀ s, before s → always (program.exec s).2 ∧
    match (program.exec s).1 with
    | .ok a => value = .ok a ∧ after a (program.exec s).2
    | .error (.failed error) => value = .error error
    | .error .interrupted => True

variable {always before : σ → Prop} {program : Program σ ε α} {value : Except ε α}
  {after : α → σ → Prop}

theorem Computes.pure {a : α} (safe : ∀ s, before s → always s) :
    Computes always before (pure a : Program σ ε α) (.ok a) fun b s => b = a ∧ before s :=
  fun s holds => ⟨safe s holds, rfl, rfl, holds⟩

theorem Computes.lift (safe : ∀ s, before s → always s) :
    Computes always before (.lift value) value fun a s => value = .ok a ∧ before s := by
  intro s holds
  cases value with
  | ok a => exact ⟨safe s holds, rfl, rfl, holds⟩
  | error error => exact ⟨safe s holds, rfl⟩

/-- A part of a program is followed by what continues from where it left. -/
theorem Computes.bind {next : α → Program σ ε β} {continued : α → Except ε β}
    {last : β → σ → Prop} (first : Computes always before program value after)
    (rest : ∀ a, value = .ok a → Computes always (after a) (next a) (continued a) last) :
    Computes always before (program >>= next) (value >>= continued) last := by
  intro s holds
  obtain ⟨safe, outcome⟩ := first s holds
  rw [exec_bind]
  generalize program.exec s = run at safe outcome
  obtain ⟨exit, reached⟩ := run
  cases exit with
  | ok a =>
    obtain ⟨rfl, left⟩ := outcome
    exact rest a rfl reached left
  | error error =>
    cases error with
    | interrupted => exact ⟨safe, trivial⟩
    | failed error =>
      cases outcome
      exact ⟨safe, rfl⟩

/-- A part that has a result in any case. -/
theorem Computes.step {a : α} {next : α → Program σ ε β} {continued : Except ε β}
    {last : β → σ → Prop} (first : Computes always before program (.ok a) after)
    (rest : Computes always (after a) (next a) continued last) :
    Computes always before (program >>= next) continued last :=
  @Computes.bind _ _ _ _ _ _ _ _ _ _ (fun _ => continued) _ first
    fun _ same => by cases same; exact rest

theorem Computes.weaken {sooner : σ → Prop} {later : α → σ → Prop}
    (computes : Computes always before program value after) (pre : ∀ s, sooner s → before s)
    (post : ∀ a s, after a s → later a s) : Computes always sooner program value later := by
  intro s holds
  obtain ⟨safe, outcome⟩ := computes s (pre s holds)
  refine ⟨safe, ?_⟩
  generalize program.exec s = run at outcome ⊢
  obtain ⟨exit, reached⟩ := run
  cases exit with
  | ok a => exact ⟨outcome.1, post a reached outcome.2⟩
  | error error => cases error <;> exact outcome

/-- A run that is not interrupted ends as the value does. -/
theorem Computes.outcome {s : σ} (computes : Computes always before program value after)
    (holds : before s) (uninterrupted : (program.exec s).1 ≠ .error .interrupted) :
    (program.exec s).1 = value.mapError .failed := by
  have outcome := (computes s holds).2
  generalize program.exec s = run at outcome uninterrupted ⊢
  obtain ⟨exit, reached⟩ := run
  cases exit with
  | ok a =>
    rw [outcome.1]
    rfl
  | error error =>
    cases error with
    | interrupted => exact absurd rfl uninterrupted
    | failed error =>
      cases outcome
      rfl

/-- A run that comes to a result leaves what is promised of it. -/
theorem Computes.reached {s : σ} {a : α} (computes : Computes always before program value after)
    (holds : before s) (ended : (program.exec s).1 = .ok a) : after a (program.exec s).2 := by
  have outcome := (computes s holds).2
  rw [ended] at outcome
  exact outcome.2

/-- From a state with `before`, any exit leaves a state with `always`, and a
    result one with `after`. -/
def Ensures (always before : σ → Prop) (program : Program σ ε α) (after : α → σ → Prop) : Prop :=
  ∀ s, before s → always (program.exec s).2 ∧
    ∀ a, (program.exec s).1 = .ok a → after a (program.exec s).2

theorem Ensures.fail {error : ε} (safe : ∀ s, before s → always s) :
    Ensures always before (.lift (.error error)) after :=
  fun s holds => ⟨safe s holds, nofun⟩

theorem Ensures.bind {next : α → Program σ ε β} {last : β → σ → Prop}
    (first : Ensures always before program after)
    (rest : ∀ a, Ensures always (after a) (next a) last) :
    Ensures always before (program >>= next) last := by
  intro s holds
  obtain ⟨safe, outcome⟩ := first s holds
  rw [exec_bind]
  generalize program.exec s = run at safe outcome
  obtain ⟨exit, reached⟩ := run
  cases exit with
  | ok a => exact rest a reached (outcome a rfl)
  | error error => exact ⟨safe, nofun⟩

/-- A pure computation before the rest. -/
theorem Ensures.lifted {next : α → Program σ ε β} {last : β → σ → Prop}
    (safe : ∀ s, before s → always s)
    (rest : ∀ a, value = .ok a → Ensures always before (next a) last) :
    Ensures always before (.lift value >>= next) last := by
  intro s holds
  rw [exec_bind]
  cases value with
  | ok a => exact rest a rfl s holds
  | error error => exact ⟨safe s holds, nofun⟩

/-- A value that is known to be there before the rest. -/
theorem Ensures.found {known : Option α} {next : α → Program σ ε β} {last : β → σ → Prop}
    (safe : ∀ s, before s → always s)
    (rest : ∀ a, known = some a → Ensures always before (next a) last) :
    Ensures always before (.expected known >>= next) last := by
  intro s holds
  rw [exec_bind]
  cases known with
  | some a => exact rest a rfl s holds
  | none => exact ⟨safe s holds, nofun⟩

theorem Ensures.returned {a : α} (safe : ∀ s, before s → always s)
    (holds : ∀ s, before s → after a s) :
    Ensures always before (pure a : Program σ ε α) after := by
  intro s first
  refine ⟨safe s first, ?_⟩
  rintro b ended
  cases ended
  exact holds s first

/-- A pure computation at the end. -/
theorem Ensures.last (safe : ∀ s, before s → always s)
    (holds : ∀ a s, value = .ok a → before s → after a s) :
    Ensures always before (.lift value) after := by
  intro s first
  refine ⟨safe s first, ?_⟩
  intro a ended
  cases value with
  | ok b =>
    cases ended
    exact holds a s rfl first
  | error error => cases ended

theorem Ensures.weaken {sooner anyway : σ → Prop} {later : α → σ → Prop}
    (ensures : Ensures always before program after) (pre : ∀ s, sooner s → before s)
    (exits : ∀ s, always s → anyway s) (post : ∀ a s, after a s → later a s) :
    Ensures anyway sooner program later :=
  fun s holds => ⟨exits _ (ensures s (pre s holds)).1, fun a ended =>
    post a _ ((ensures s (pre s holds)).2 a ended)⟩

end Runs

end Foundation
