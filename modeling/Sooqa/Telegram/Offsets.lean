import Sooqa.Telegram.Polling

/-!
No update is lost. As long as the server sends again what was not handled
before it sends anything later, the offset stays at or below every update that
was sent and not handled, so no poll tells the server to forget such an update.
-/
namespace Sooqa.Telegram
open Foundation

section Steps
variable {config : Config} {asOffset : Nat → Int}

variable {answers : Nat → Answers} {update : Update} {limiter : Limiter}

theorem tryFrom_ok {left attempt : Nat} {next : Int}
    (h : (tryFrom config asOffset answers update left attempt limiter).result = .ok next) :
    next = asOffset update.id := by
  induction left generalizing attempt limiter with
  | zero =>
    cases outcome : (handleUpdate config limiter (answers attempt) update).result with
    | ok handled =>
      simp only [tryFrom, outcome, Except.ok.injEq] at h
      exact h.symm
    | error error => simp only [tryFrom, outcome, reduceCtorEq] at h
  | succ left ih =>
    cases outcome : (handleUpdate config limiter (answers attempt) update).result with
    | ok handled =>
      simp only [tryFrom, outcome, Except.ok.injEq] at h
      exact h.symm
    | error error =>
      simp only [tryFrom, outcome] at h
      exact ih h

/-- The offset a handled update leaves behind. -/
theorem retries_ok {next : Int}
    (h : (handleUpdateWithRetries config asOffset answers update limiter).result = .ok next) :
    next = asOffset update.id :=
  tryFrom_ok h

/-- No batch is under way. -/
def Idle (phase : Phase) : Prop := ∀ update rest, phase ≠ .handling update rest

theorem idle_calling (stage : Stage) : Idle (.calling stage) := by
  intro _ _ h
  cases h

theorem idle_waiting (stage : Stage) : Idle (.waiting stage) := by
  intro _ _ h
  cases h

theorem idle_stopped (result : Except RuntimeError Unit) : Idle (.stopped result) := by
  intro _ _ h
  cases h

theorem afterError_idle (s : Runtime) (stage : Stage) (error : PollingError) :
    (s.afterError stage error).offset = s.offset ∧ Idle (s.afterError stage error).phase := by
  unfold Runtime.afterError
  split
  · exact ⟨rfl, idle_stopped _⟩
  · exact ⟨rfl, idle_waiting _⟩

theorem afterCall_idle (s : Runtime) (stage next : Stage) (result : Except PollingError Unit) :
    (s.afterCall stage next result).offset = s.offset ∧
      Idle (s.afterCall stage next result).phase := by
  cases result with
  | ok done => exact ⟨rfl, idle_calling _⟩
  | error error => exact afterError_idle s stage error

/-- What one event does to the offset and to the records: nothing, the arrival
    of a batch, the success of the update under way, or its failure. -/
theorem step_cases {w v : World} {event : Event} (h : w.step config asOffset event = some v) :
    (v.offset = w.offset ∧ v.delivered = w.delivered ∧ v.done = w.done ∧ Idle v.phase) ∨
    (∃ updates, event = .updates (.ok updates) ∧ v.offset = w.offset ∧ v.done = w.done ∧
        v.delivered = w.delivered ++ updates.map Update.id ∧ v.phase = nextUpdate updates) ∨
    (∃ answers update rest, event = .handled answers ∧ w.phase = .handling update rest ∧
        v.offset = asOffset update.id ∧ v.delivered = w.delivered ∧
        v.done = update.id :: w.done ∧ v.phase = nextUpdate rest) := by
  rw [World.step, Option.map_eq_some_iff] at h
  obtain ⟨s, stepped, rfl⟩ := h
  cases event with
  | shutdown =>
    left
    simp only [Runtime.step] at stepped
    split at stepped <;> cases stepped <;> exact ⟨rfl, rfl, rfl, idle_stopped _⟩
  | called result =>
    left
    simp only [Runtime.step] at stepped
    split at stepped <;> cases stepped
    all_goals
      obtain ⟨offset, idle⟩ := afterCall_idle w.toRuntime _ _ result
      exact ⟨offset, rfl, rfl, idle⟩
  | updates result =>
    simp only [Runtime.step] at stepped
    split at stepped
    case h_2 => cases stepped
    cases result with
    | ok updates =>
      cases stepped
      exact .inr (.inl ⟨updates, rfl, rfl, rfl, rfl, rfl⟩)
    | error error =>
      cases stepped
      obtain ⟨offset, idle⟩ := afterError_idle w.toRuntime .polling error
      exact .inl ⟨offset, rfl, rfl, idle⟩
  | handled answers =>
    simp only [Runtime.step] at stepped
    split at stepped
    case h_2 => cases stepped
    case h_1 update rest under =>
      split at stepped
      case isFalse => cases stepped
      cases stepped
      cases outcome : (handleUpdateWithRetries config asOffset answers update w.limiter).result with
      | ok next =>
        refine .inr (.inr ⟨answers, update, rest, rfl, under, ?_, rfl, ?_, ?_⟩)
        · simp only [Runtime.afterUpdate, outcome]
          exact retries_ok outcome
        · simp only [World.finish, under, outcome]
        · simp only [Runtime.afterUpdate, outcome]
      | error error =>
        refine .inl ⟨?_, rfl, ?_, ?_⟩
        · simp only [Runtime.afterUpdate, outcome]
          split <;> rfl
        · simp only [World.finish, under, outcome]
        · simp only [Runtime.afterUpdate, outcome]
          split
          · exact idle_stopped _
          · exact idle_waiting _
  | waited =>
    left
    simp only [Runtime.step] at stepped
    split at stepped <;> cases stepped
    exact ⟨rfl, rfl, rfl, idle_calling _⟩

end Steps

section Invariant

/-- The updates of a batch that are not handled yet. -/
def batch : Phase → List Update
  | .handling update rest => update :: rest
  | _ => []

/-- Sent and not handled. -/
def Waiting (w : World) (id : Nat) : Prop := id ∈ w.delivered ∧ id ∉ w.done

structure Consistent (w : World) (updates : List Update) : Prop where
  increasing : (updates.map Update.id).Pairwise (· < ·)
  above : ∀ update ∈ updates, w.offset ≤ update.id
  /-- An update comes with every earlier one that still waits. -/
  complete : ∀ update ∈ updates, ∀ id, Waiting w id → id < update.id →
    ∃ earlier ∈ updates, earlier.id = id

/-- What the server may send: what still waits comes before anything later. -/
def Redelivers (w : World) (event : Event) : Prop :=
  ∀ updates, event = .updates (.ok updates) → Consistent w updates

structure Offsets (w : World) : Prop where
  below : ∀ id, Waiting w id → w.offset ≤ id
  current : Consistent w (batch w.phase)

variable {config : Config} {asOffset : Nat → Int} {w v : World} {event : Event}

theorem consistent_nil : Consistent w [] :=
  ⟨.nil, fun _ h => absurd h List.not_mem_nil, fun _ h => absurd h List.not_mem_nil⟩

theorem consistent_idle {phase : Phase} (idle : Idle phase) : Consistent w (batch phase) := by
  cases phase with
  | handling update rest => exact absurd rfl (idle update rest)
  | _ => exact consistent_nil

theorem batch_nextUpdate (updates : List Update) : batch (nextUpdate updates) = updates := by
  cases updates <;> rfl

/-- Handling the first update of a batch leaves the offset right after it. -/
theorem Offsets.advance {update : Update} {rest : List Update} (inv : Offsets w)
    (under : w.phase = .handling update rest) (offset : v.offset = update.id + 1)
    (delivered : v.delivered = w.delivered) (done : v.done = update.id :: w.done) :
    w.offset ≤ v.offset ∧ (∀ id, Waiting v id → v.offset ≤ id) ∧ Consistent v rest := by
  have current := inv.current
  rw [under] at current
  have ordered := List.pairwise_cons.mp current.increasing
  have first := current.above update List.mem_cons_self
  have waited : ∀ id, Waiting v id → Waiting w id ∧ id ≠ update.id := by
    intro id waiting
    rw [Waiting, delivered, done, List.mem_cons, not_or] at waiting
    exact ⟨⟨waiting.1, waiting.2.2⟩, waiting.2.1⟩
  have later : ∀ id, Waiting v id → update.id < id := by
    intro id waiting
    obtain ⟨before, other⟩ := waited id waiting
    by_contra smaller
    obtain ⟨earlier, member, same⟩ :=
      current.complete update List.mem_cons_self id before (by omega)
    rcases List.mem_cons.mp member with rfl | inRest
    · exact other same.symm
    · have := ordered.1 earlier.id (List.mem_map_of_mem inRest)
      omega
  refine ⟨by omega, ?_, ordered.2, ?_, ?_⟩
  · intro id waiting
    have := later id waiting
    omega
  · intro next member
    have := ordered.1 next.id (List.mem_map_of_mem member)
    omega
  · intro next member id waiting smaller
    obtain ⟨before, other⟩ := waited id waiting
    obtain ⟨earlier, inBatch, same⟩ :=
      current.complete next (List.mem_cons_of_mem _ member) id before smaller
    rcases List.mem_cons.mp inBatch with rfl | inRest
    · exact absurd same.symm other
    · exact ⟨earlier, inRest, same⟩

theorem offsets_step (documented : ∀ id, asOffset id = id + 1) (inv : Offsets w)
    (sends : Redelivers w event) (h : w.step config asOffset event = some v) :
    w.offset ≤ v.offset ∧ Offsets v := by
  rcases step_cases h with ⟨offset, delivered, done, idle⟩ | ⟨updates, rfl, offset, done, delivered,
    phase⟩ | ⟨answers, update, rest, rfl, under, offset, delivered, done, phase⟩
  · refine ⟨by omega, ?_, consistent_idle idle⟩
    intro id waiting
    rw [Waiting, delivered, done] at waiting
    rw [offset]
    exact inv.below id waiting
  · have response := sends updates rfl
    have waited : ∀ id, Waiting v id → Waiting w id ∨ ∃ update ∈ updates, update.id = id := by
      intro id waiting
      rw [Waiting, delivered, done, List.mem_append, List.mem_map] at waiting
      obtain ⟨before | ⟨update, member, same⟩, open_⟩ := waiting
      · exact .inl ⟨before, open_⟩
      · exact .inr ⟨update, member, same⟩
    refine ⟨by omega, ?_, ?_⟩
    · intro id waiting
      rw [offset]
      rcases waited id waiting with before | ⟨update, member, rfl⟩
      · exact inv.below id before
      · exact response.above update member
    · rw [phase, batch_nextUpdate]
      refine ⟨response.increasing, ?_, ?_⟩
      · intro update member
        rw [offset]
        exact response.above update member
      · intro update member id waiting smaller
        rcases waited id waiting with before | arrived
        · exact response.complete update member id before smaller
        · exact arrived
  · rw [documented] at offset
    obtain ⟨grown, below, current⟩ := inv.advance under offset delivered done
    rw [← batch_nextUpdate rest, ← phase] at current
    exact ⟨grown, below, current⟩

theorem offsets_initial (storageChatId : Option Int) : Offsets (World.initial storageChatId) :=
  ⟨fun _ waiting => absurd waiting.1 List.not_mem_nil, consistent_idle (idle_calling _)⟩

theorem offsets_run (documented : ∀ id, asOffset id = id + 1) {events : List Event}
    (inv : Offsets w) (run : Run (World.step config asOffset) Redelivers w events v) :
    w.offset ≤ v.offset ∧ Offsets v := by
  induction run with
  | nil w => exact ⟨Int.le_refl _, inv⟩
  | cons sends first tail ih =>
    obtain ⟨grown, next⟩ := offsets_step documented inv sends first
    obtain ⟨further, last⟩ := ih next
    exact ⟨Int.le_trans grown further, last⟩

/-- An update is forgotten by the server once a poll asks for later ones. -/
def Acknowledged (w : World) (id : Nat) : Prop := w.phase = .calling .polling ∧ id < w.offset

/-- The offset never passes an update that was sent and not handled, no poll
    acknowledges one, and the offset never goes back. -/
theorem no_update_is_lost (documented : ∀ id, asOffset id = id + 1) {storageChatId : Option Int}
    {before after : List Event}
    (run : Run (World.step config asOffset) Redelivers (World.initial storageChatId) before w)
    (later : Run (World.step config asOffset) Redelivers w after v) :
    w.offset ≤ v.offset ∧ (∀ id ∈ v.delivered, id ∉ v.done → v.offset ≤ id) ∧
      ∀ id ∈ v.delivered, Acknowledged v id → id ∈ v.done := by
  obtain ⟨-, inv⟩ := offsets_run documented (offsets_initial storageChatId) run
  obtain ⟨grown, last⟩ := offsets_run documented inv later
  refine ⟨grown, fun id sent unhandled => last.below id ⟨sent, unhandled⟩, ?_⟩
  intro id sent passed
  by_contra unhandled
  have := last.below id ⟨sent, unhandled⟩
  have := passed.2
  omega

end Invariant

section Samples

def sampleConfig : Config := ⟨[123], 1000, false, fun _ => none⟩

/-- A stale button of the administrator. -/
def sampleCallback (id : Nat) : Update := ⟨id, .callbackQuery "stale" 123⟩

def failingAnswers : Nat → Answers := fun _ =>
  ⟨.error "unused", 0, .error (.other "unused"), .error (.other "query is too old")⟩

def workingAnswers : Nat → Answers := fun _ => ⟨.error "unused", 0, .ok (), .ok ()⟩

/-- The first update of a batch fails in every attempt and is sent again. -/
def redeliveredEvents : List Event :=
  [.called (.ok ()), .updates (.ok [sampleCallback 5, sampleCallback 6]), .handled failingAnswers,
    .waited]

/-- A batch that starts no later than anything sent before. -/
theorem redelivers_of_first {w : World} {updates : List Update}
    (increasing : (updates.map Update.id).Pairwise (· < ·))
    (above : ∀ update ∈ updates, w.offset ≤ update.id)
    (first : ∀ update ∈ updates, ∀ id ∈ w.delivered, update.id ≤ id) :
    Redelivers w (.updates (.ok updates)) := by
  intro sent same
  cases same
  refine ⟨increasing, above, ?_⟩
  intro update member id waiting smaller
  have := first update member id waiting.1
  omega

theorem redelivers_other {w : World} {event : Event}
    (other : ∀ updates, event ≠ .updates (.ok updates)) : Redelivers w event :=
  fun updates same => absurd same (other updates)

theorem failed_update_is_kept :
    ∃ w v, Run (World.step sampleConfig (fun id => id + 1)) Redelivers (World.initial none)
        redeliveredEvents w ∧
      Run (World.step sampleConfig (fun id => id + 1)) Redelivers w
        [.updates (.ok [sampleCallback 5]), .handled workingAnswers] v ∧
      (w.offset ≤ v.offset ∧ (∀ id ∈ v.delivered, id ∉ v.done → v.offset ≤ id) ∧
        ∀ id ∈ v.delivered, Acknowledged v id → id ∈ v.done) ∧
      v.offset = 6 ∧ v.delivered = [5, 6, 5] ∧ v.done = [5] := by
  have other {w : World} {event : Event} (h : ∀ updates, event ≠ .updates (.ok updates)) :
      Redelivers w event := redelivers_other h
  obtain ⟨w, first, v, second, offset, sent, done⟩ : ∃ w,
      Run (World.step sampleConfig (fun id => id + 1)) Redelivers (World.initial none)
        redeliveredEvents w ∧
      ∃ v, Run (World.step sampleConfig (fun id => id + 1)) Redelivers w
          [.updates (.ok [sampleCallback 5]), .handled workingAnswers] v ∧
        v.offset = 6 ∧ v.delivered = [5, 6, 5] ∧ v.done = [5] := by
    refine ⟨_, .cons (other fun _ h => by cases h) rfl (.cons ?_ rfl
      (.cons (other fun _ h => by cases h) rfl (.cons (other fun _ h => by cases h) rfl (.nil _)))),
      _, .cons ?_ rfl (.cons (other fun _ h => by cases h) rfl (.nil _)), rfl, rfl, rfl⟩
    · exact redelivers_of_first (by decide) (by decide) (by decide)
    · exact redelivers_of_first (by decide) (by decide) (by decide)
  exact ⟨w, v, first, second, no_update_is_lost (fun _ => rfl) first second, offset, sent, done⟩

/-- Only what the offset asks for: the server may leave out what it sent before. -/
def Ordered (w : World) (event : Event) : Prop :=
  ∀ updates, event = .updates (.ok updates) →
    (updates.map Update.id).Pairwise (· < ·) ∧ ∀ update ∈ updates, w.offset ≤ update.id

theorem skipped_update_is_passed :
    ¬ ∀ (config : Config) (asOffset : Nat → Int) (storageChatId : Option Int)
      (events : List Event) (w : World), (∀ id, asOffset id = id + 1) →
      Run (World.step config asOffset) Ordered (World.initial storageChatId) events w →
      ∀ id ∈ w.delivered, id ∉ w.done → w.offset ≤ id := by
  intro claim
  have other {w : World} {event : Event} (h : ∀ updates, event ≠ .updates (.ok updates)) :
      Ordered w event := fun updates same => absurd same (h updates)
  have batchOf {w : World} {updates : List Update}
      (h : (updates.map Update.id).Pairwise (· < ·) ∧ ∀ update ∈ updates, w.offset ≤ update.id) :
      Ordered w (.updates (.ok updates)) := fun sent same => by cases same; exact h
  obtain ⟨w, run, offset, sent, done⟩ : ∃ w,
      Run (World.step sampleConfig (fun id => id + 1)) Ordered (World.initial none)
        (redeliveredEvents ++ [.updates (.ok [sampleCallback 6]), .handled workingAnswers]) w ∧
      w.offset = 7 ∧ w.delivered = [5, 6, 6] ∧ w.done = [6] := by
    refine ⟨_, .cons (other fun _ h => by cases h) rfl (.cons (batchOf (by decide)) rfl
      (.cons (other fun _ h => by cases h) rfl (.cons (other fun _ h => by cases h) rfl
      (.cons (batchOf (by decide)) rfl (.cons (other fun _ h => by cases h) rfl (.nil _)))))),
      rfl, rfl, rfl⟩
  have bound := claim sampleConfig _ none _ w (fun _ => rfl) run 5 (by rw [sent]; decide)
    (by rw [done]; decide)
  rw [offset] at bound
  exact absurd bound (by decide)

end Samples

end Sooqa.Telegram
