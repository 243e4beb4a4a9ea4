import Sooqa.Telegram.Offsets

/-!
Updates of strangers. The bot owes a stranger at most a courtesy reply, and
the polling loop goes on past the update as soon as one attempt to reply gets
through. Then the administrators' requests are those of a run that never saw
the strangers.
-/
namespace Sooqa.Telegram
open Foundation

section Limiter
variable {config : Config} {limiter other : Limiter} {key : RateLimitKey} {clock now time : Nat}

/-- Keys of the configured administrators. -/
def Trusted (config : Config) (key : RateLimitKey) : Prop :=
  ∃ id ∈ config.adminUserIds, key.userId = some id

/-- Two limiters that decide alike for the administrators from an instant on. -/
def Agree (config : Config) (clock : Nat) (limiter other : Limiter) : Prop :=
  ∀ key, Trusted config key → ∀ time, clock ≤ time →
    limiter.recent key time = other.recent key time

theorem Agree.later (agree : Agree config clock limiter other) (passed : clock ≤ now) :
    Agree config now limiter other :=
  fun key trusted time after => agree key trusted time (Nat.le_trans passed after)

theorem recent_retain (after : now ≤ time) :
    (limiter.retain now).recent key time = limiter.recent key time := by
  unfold Limiter.recent Limiter.retain
  cases limiter key with
  | none => rfl
  | some last =>
    by_cases fresh : now - last < responseRateLimit
    · simp only [fresh, if_true]
    · have stale : ¬ time - last < responseRateLimit := by omega
      simp only [fresh, stale, if_false, decide_false]

theorem recent_insert {added : RateLimitKey} :
    (limiter.insert added now).recent key time =
      if key = added then decide (time - now < responseRateLimit) else limiter.recent key time := by
  simp only [Limiter.recent, Limiter.insert]
  by_cases same : key = added
  · simp only [same, if_true]
  · simp only [same, if_false]

theorem recent_clear {cleared : RateLimitKey} :
    (limiter.clear cleared).recent key time =
      if key = cleared then false else limiter.recent key time := by
  simp only [Limiter.recent, Limiter.clear]
  by_cases same : key = cleared
  · simp only [same, if_true]
  · simp only [same, if_false]

theorem Agree.allow (agree : Agree config clock limiter other) (passed : clock ≤ now)
    (trusted : Trusted config key) :
    (allowResponse limiter key now).1 = (allowResponse other key now).1 ∧
      Agree config now (allowResponse limiter key now).2 (allowResponse other key now).2 := by
  have decided := agree key trusted now passed
  have retained : Agree config now (limiter.retain now) (other.retain now) := by
    intro key trusted time after
    rw [recent_retain after, recent_retain after]
    exact agree key trusted time (Nat.le_trans passed after)
  unfold allowResponse
  simp only [recent_retain (Nat.le_refl now), ← decided]
  split
  · exact ⟨rfl, retained⟩
  · refine ⟨rfl, ?_⟩
    intro asked trusted time after
    rw [recent_insert, recent_insert, retained asked trusted time after]

/-- What the limiter does for a stranger is nothing to an administrator. -/
theorem Agree.allow_foreign (agree : Agree config clock limiter other) (passed : clock ≤ now)
    (foreign : ¬ Trusted config key) :
    Agree config now (allowResponse limiter key now).2 other := by
  unfold allowResponse
  simp only
  intro asked trusted time after
  have same := agree asked trusted time (Nat.le_trans passed after)
  have differ : asked ≠ key := by
    rintro rfl
    exact foreign trusted
  split
  · rw [recent_retain after, same]
  · rw [recent_insert, if_neg differ, recent_retain after, same]

theorem Agree.clear (agree : Agree config clock limiter other) :
    Agree config clock (limiter.clear key) (other.clear key) := by
  intro asked trusted time after
  rw [recent_clear, recent_clear, agree asked trusted time after]

theorem Agree.clear_foreign (agree : Agree config clock limiter other)
    (foreign : ¬ Trusted config key) : Agree config clock (limiter.clear key) other := by
  intro asked trusted time after
  have differ : asked ≠ key := by
    rintro rfl
    exact foreign trusted
  rw [recent_clear, if_neg differ, agree asked trusted time after]

end Limiter

section Attempts
variable {config : Config} {limiter other : Limiter} {clock : Nat} {answers : Answers}
  {message : IncomingMessage}

/-- The ingest commands among the effects. -/
def ingests (effects : List Effect) : List IngestCommand :=
  effects.filterMap fun
    | .ingest command => some command
    | _ => none

theorem ingests_append (first second : List Effect) :
    ingests (first ++ second) = ingests first ++ ingests second :=
  List.filterMap_append

/-- Two attempts that end alike and leave agreeing limiters. -/
structure Alike {α : Type} (config : Config) (now : Nat) (one two : Handled α) : Prop where
  result : one.result = two.result
  effects : one.effects = two.effects
  limiter : Agree config now one.limiter two.limiter

theorem respond_alike (agree : Agree config clock limiter other) (passed : clock ≤ answers.now)
    (trusted : Trusted config ⟨message.userId, message.chatId⟩) (text : String)
    (outcome : HandleOutcome) :
    Alike config answers.now (respond limiter answers message text outcome)
      (respond other answers message text outcome) := by
  obtain ⟨decided, left⟩ := agree.allow passed trusted
  unfold respond
  simp only [decided]
  split
  · unfold sendResponse
    split
    · exact ⟨rfl, rfl, left⟩
    · exact ⟨rfl, rfl, left.clear⟩
  · exact ⟨rfl, rfl, left⟩

theorem ingestAndRespond_alike (agree : Agree config clock limiter other)
    (passed : clock ≤ answers.now) (trusted : Trusted config ⟨message.userId, message.chatId⟩)
    (command : IngestCommand) :
    Alike config answers.now (ingestAndRespond config limiter answers message command)
      (ingestAndRespond config other answers message command) := by
  unfold ingestAndRespond
  split
  · split
    · rename_i accepted _
      have acknowledged := respond_alike agree passed trusted (queuedResponse accepted)
        (.responded .add)
      exact ⟨acknowledged.result, by simp only [Handled.after, acknowledged.effects],
        acknowledged.limiter⟩
    · exact ⟨rfl, rfl, (agree.later passed).clear⟩
  · exact ⟨rfl, rfl, agree.later passed⟩

theorem handleMediaMessage_alike (agree : Agree config clock limiter other)
    (passed : clock ≤ answers.now) (trusted : Trusted config ⟨message.userId, message.chatId⟩)
    (userId : Int) (media : TelegramMedia) :
    Alike config answers.now (handleMediaMessage config limiter answers message userId media)
      (handleMediaMessage config other answers message userId media) := by
  unfold handleMediaMessage
  split
  case h_1 => exact respond_alike agree passed trusted _ _
  all_goals
    simp only
    split
    · exact respond_alike agree passed trusted _ _
    · exact ingestAndRespond_alike agree passed trusted _

theorem authorized_trusted {userId : Int} (h : authorized config message.userId = some userId) :
    Trusted config ⟨message.userId, message.chatId⟩ := by
  obtain ⟨same, member⟩ := Option.filter_eq_some_iff.mp h
  exact ⟨userId, of_decide_eq_true member, same⟩

theorem handleMessage_alike (agree : Agree config clock limiter other)
    (passed : clock ≤ answers.now) {userId : Int}
    (sender : authorized config message.userId = some userId) :
    Alike config answers.now (handleMessage config limiter answers message)
      (handleMessage config other answers message) := by
  have trusted := authorized_trusted sender
  unfold handleMessage
  simp only [sender]
  split
  · exact ⟨rfl, rfl, agree.later passed⟩
  · split
    · exact handleMediaMessage_alike agree passed trusted _ _
    · split
      · exact ingestAndRespond_alike agree passed trusted _
      · exact respond_alike agree passed trusted _ _
      · exact ⟨rfl, rfl, agree.later passed⟩

end Attempts

section Updates
variable {config : Config} {asOffset : Nat → Int} {limiter other : Limiter} {clock : Nat}
  {answers : Nat → Answers} {update : Update}

def Update.senderId (update : Update) : Option Int :=
  match update.kind with
  | .message message => message.sender.bind signedUserId
  | .callbackQuery _ sender => signedUserId sender
  | .other sender => sender.bind signedUserId

/-- Whether the sender is a configured administrator. -/
def fromAdministrator (config : Config) (update : Update) : Bool :=
  (authorized config update.senderId).isSome

theorem handleUpdate_alike {now : Answers} (agree : Agree config clock limiter other)
    (passed : clock ≤ now.now) (administrator : fromAdministrator config update = true) :
    Alike config now.now (handleUpdate config limiter now update)
      (handleUpdate config other now update) := by
  obtain ⟨userId, sender⟩ := Option.isSome_iff_exists.mp administrator
  cases kind : update.kind with
  | message message =>
    simp only [Update.senderId, kind] at sender
    simp only [handleUpdate, kind]
    have sender' : authorized config (incomingMessage update.id message).userId = some userId :=
      sender
    exact handleMessage_alike agree passed sender'
  | callbackQuery callbackId id =>
    simp only [handleUpdate, kind, acknowledgeCallback]
    split <;> exact ⟨rfl, rfl, agree.later passed⟩
  | other id =>
    simp only [handleUpdate, kind]
    exact ⟨rfl, rfl, agree.later passed⟩

theorem respond_foreign {now : Answers} {message : IncomingMessage} {text : String}
    {outcome : HandleOutcome} (agree : Agree config clock limiter other) (passed : clock ≤ now.now)
    (foreign : ¬ Trusted config ⟨message.userId, message.chatId⟩) :
    ingests (respond limiter now message text outcome).effects = [] ∧
      Agree config now.now (respond limiter now message text outcome).limiter other := by
  have left := agree.allow_foreign passed foreign
  unfold respond sendResponse
  simp only
  split
  · split
    · exact ⟨rfl, left⟩
    · exact ⟨rfl, left.clear_foreign foreign⟩
  · exact ⟨rfl, left⟩

theorem authorized_foreign {userId : Option Int} {chatId : Int}
    (stranger : authorized config userId = none) : ¬ Trusted config ⟨userId, chatId⟩ := by
  rintro ⟨id, member, same⟩
  have := Option.filter_eq_none_iff.mp stranger id same
  simp [member] at this

/-- A stranger's update asks nothing of the ingest service. -/
theorem handleUpdate_foreign {now : Answers} (agree : Agree config clock limiter other)
    (passed : clock ≤ now.now) (stranger : fromAdministrator config update = false) :
    ingests (handleUpdate config limiter now update).effects = [] ∧
      Agree config now.now (handleUpdate config limiter now update).limiter other := by
  have sender : authorized config update.senderId = none := by
    simpa [fromAdministrator] using stranger
  cases kind : update.kind with
  | message message =>
    simp only [Update.senderId, kind] at sender
    simp only [handleUpdate, kind, handleMessage]
    split
    · exact ⟨rfl, agree.later passed⟩
    · simp only [incomingMessage, sender]
      exact respond_foreign agree passed (authorized_foreign sender)
  | callbackQuery callbackId id =>
    simp only [handleUpdate, kind, acknowledgeCallback]
    split <;> exact ⟨rfl, agree.later passed⟩
  | other id =>
    simp only [handleUpdate, kind]
    exact ⟨rfl, agree.later passed⟩

variable {final : Nat}

/-- The readings of the clock from one attempt to the last. -/
structure Readings (answers : Nat → Answers) (attempt left clock final : Nat) : Prop where
  start : clock ≤ (answers attempt).now
  next : ∀ k, attempt ≤ k → k < attempt + left → (answers k).now ≤ (answers (k + 1)).now
  stop : ∀ k, attempt ≤ k → k ≤ attempt + left → (answers k).now ≤ final

theorem Readings.after {attempt left : Nat} (h : Readings answers attempt (left + 1) clock final) :
    Readings answers (attempt + 1) left (answers attempt).now final :=
  ⟨h.next attempt (Nat.le_refl _) (by omega), fun k low high => h.next k (by omega) (by omega),
    fun k low high => h.stop k (by omega) (by omega)⟩

theorem Ticks.readings (ticks : Ticks clock answers) :
    Readings answers 1 (maxHandlerAttempts - 1) clock (answers maxHandlerAttempts).now := by
  obtain ⟨start, next⟩ := ticks
  have one : (answers 1).now ≤ (answers 2).now := next 1 (by decide)
  have two : (answers 2).now ≤ (answers 3).now := next 2 (by decide)
  have three : (answers 3).now ≤ (answers 4).now := next 3 (by decide)
  have four : (answers 4).now ≤ (answers 5).now := next 4 (by decide)
  refine ⟨start, ?_, ?_⟩
  · intro k low high
    exact next k (by unfold maxHandlerAttempts at high; simp; omega)
  · intro k low high
    unfold maxHandlerAttempts at high ⊢
    obtain rfl | rfl | rfl | rfl | rfl : k = 1 ∨ k = 2 ∨ k = 3 ∨ k = 4 ∨ k = 5 := by omega
    all_goals omega

theorem tryFrom_alike {left attempt : Nat} (agree : Agree config clock limiter other)
    (readings : Readings answers attempt left clock final)
    (administrator : fromAdministrator config update = true) :
    Alike config final (tryFrom config asOffset answers update left attempt limiter)
      (tryFrom config asOffset answers update left attempt other) := by
  induction left generalizing attempt limiter other clock with
  | zero =>
    have one := handleUpdate_alike agree readings.start administrator
    have same := one.result
    have kept := one.limiter.later (readings.stop attempt (Nat.le_refl _) (by omega))
    cases outcome : (handleUpdate config other (answers attempt) update).result with
    | ok handled =>
      rw [outcome] at same
      simp only [tryFrom, same, outcome]
      exact ⟨rfl, one.effects, kept⟩
    | error error =>
      rw [outcome] at same
      simp only [tryFrom, same, outcome]
      exact ⟨rfl, one.effects, kept⟩
  | succ left ih =>
    have one := handleUpdate_alike agree readings.start administrator
    have same := one.result
    have rest := ih one.limiter readings.after
    cases outcome : (handleUpdate config other (answers attempt) update).result with
    | ok handled =>
      rw [outcome] at same
      simp only [tryFrom, same, outcome]
      exact ⟨rfl, one.effects, one.limiter.later (readings.stop attempt (Nat.le_refl _) (by omega))⟩
    | error error =>
      rw [outcome] at same
      simp only [tryFrom, same, outcome]
      exact ⟨rest.result, by rw [one.effects, rest.effects], rest.limiter⟩

theorem tryFrom_foreign {left attempt : Nat} (agree : Agree config clock limiter other)
    (readings : Readings answers attempt left clock final)
    (stranger : fromAdministrator config update = false) :
    ingests (tryFrom config asOffset answers update left attempt limiter).effects = [] ∧
      Agree config final (tryFrom config asOffset answers update left attempt limiter).limiter
        other := by
  induction left generalizing attempt limiter clock with
  | zero =>
    obtain ⟨silent, kept⟩ := handleUpdate_foreign agree readings.start stranger
    have last := kept.later (readings.stop attempt (Nat.le_refl _) (by omega))
    cases outcome : (handleUpdate config limiter (answers attempt) update).result with
    | ok handled =>
      simp only [tryFrom, outcome]
      exact ⟨silent, last⟩
    | error error =>
      simp only [tryFrom, outcome]
      exact ⟨silent, last⟩
  | succ left ih =>
    obtain ⟨silent, kept⟩ := handleUpdate_foreign agree readings.start stranger
    obtain ⟨later, last⟩ := ih kept readings.after
    cases outcome : (handleUpdate config limiter (answers attempt) update).result with
    | ok handled =>
      simp only [tryFrom, outcome]
      exact ⟨silent, kept.later (readings.stop attempt (Nat.le_refl _) (by omega))⟩
    | error error =>
      simp only [tryFrom, outcome]
      exact ⟨by rw [ingests_append, silent, later]; rfl, last⟩

/-- An attempt that gets by without a failed reply. -/
def Replied (answers : Answers) (update : Update) : Prop :=
  match update.kind with
  | .message _ => answers.sendText = .ok ()
  | .callbackQuery _ _ => answers.answerCallbackQuery = .ok ()
  | .other _ => True

/-- No reply is due: the message is not private, or its sender was answered
    within the last second. -/
def Unanswered (limiter : Limiter) (answers : Answers) (update : Update) : Prop :=
  match update.kind with
  | .message message =>
    message.isPrivate = false ∨
      limiter.recent ⟨message.sender.bind signedUserId, message.chatId⟩ answers.now = true
  | .callbackQuery _ _ => False
  | .other _ => True

/-- The handling of a stranger's update needs no reply, or gets one through in
    one of its attempts. -/
def Answered (limiter : Limiter) (answers : Nat → Answers) (update : Update) : Prop :=
  Unanswered limiter (answers 1) update ∨
    ∃ attempt ∈ [1, 2, 3, 4, 5], Replied (answers attempt) update

def Succeeds (handled : Handled Int) : Prop := ∃ next, handled.result = .ok next

theorem handleUpdate_stranger (limiter : Limiter) (now : Answers)
    (stranger : fromAdministrator config update = false) :
    ((∃ outcome, (handleUpdate config limiter now update).result = .ok outcome) ↔
      Unanswered limiter now update ∨ Replied now update) ∧
    ∀ later, (¬ ∃ outcome, (handleUpdate config limiter now update).result = .ok outcome) →
      ¬ Unanswered (handleUpdate config limiter now update).limiter later update := by
  have sender : authorized config update.senderId = none := by
    simpa [fromAdministrator] using stranger
  cases kind : update.kind with
  | message message =>
    simp only [Update.senderId, kind] at sender
    simp only [handleUpdate, kind, handleMessage, Unanswered, Replied]
    by_cases isPrivate : message.isPrivate = true
    case neg =>
      simp [incomingMessage, isPrivate]
    simp only [incomingMessage, isPrivate, sender, respond, allowResponse, sendResponse,
      recent_retain (Nat.le_refl _)]
    cases recent : limiter.recent ⟨message.sender.bind signedUserId, message.chatId⟩ now.now with
    | true => simp
    | false =>
      cases sent : now.sendText with
      | ok done => simp
      | error error => simp [recent_clear]
  | callbackQuery callbackId id =>
    simp only [handleUpdate, kind, acknowledgeCallback, Unanswered, Replied]
    cases sent : now.answerCallbackQuery with
    | ok done => simp
    | error error => simp
  | other id => simp [handleUpdate, kind, Unanswered, Replied]

theorem tryFrom_stranger {left attempt : Nat} (stranger : fromAdministrator config update = false) :
    Succeeds (tryFrom config asOffset answers update left attempt limiter) ↔
      Unanswered limiter (answers attempt) update ∨
        ∃ k, attempt ≤ k ∧ k ≤ attempt + left ∧ Replied (answers k) update := by
  induction left generalizing attempt limiter with
  | zero =>
    obtain ⟨first, -⟩ := handleUpdate_stranger limiter (answers attempt) stranger
    have only : (∃ k, attempt ≤ k ∧ k ≤ attempt + 0 ∧ Replied (answers k) update) ↔
        Replied (answers attempt) update := by
      constructor
      · rintro ⟨k, low, high, replied⟩
        obtain rfl : k = attempt := by omega
        exact replied
      · intro replied
        exact ⟨attempt, Nat.le_refl _, Nat.le_refl _, replied⟩
    rw [only, ← first]
    cases outcome : (handleUpdate config limiter (answers attempt) update).result with
    | ok handled => simp [Succeeds, tryFrom, outcome]
    | error error => simp [Succeeds, tryFrom, outcome]
  | succ left ih =>
    obtain ⟨first, again⟩ := handleUpdate_stranger limiter (answers attempt) stranger
    cases outcome : (handleUpdate config limiter (answers attempt) update).result with
    | ok handled =>
      have due := first.mp ⟨handled, outcome⟩
      refine iff_of_true ⟨asOffset update.id, by simp only [tryFrom, outcome]⟩ ?_
      exact due.imp_right fun replied => ⟨attempt, Nat.le_refl _, by omega, replied⟩
    | error error =>
      have failed : ¬ ∃ handled,
          (handleUpdate config limiter (answers attempt) update).result = .ok handled := by
        simp [outcome]
      have due := mt first.mpr failed
      have rest : Succeeds (tryFrom config asOffset answers update left (attempt + 1)
          (handleUpdate config limiter (answers attempt) update).limiter) ↔ _ := ih
      have later : Succeeds (tryFrom config asOffset answers update (left + 1) attempt limiter) ↔
          Succeeds (tryFrom config asOffset answers update left (attempt + 1)
            (handleUpdate config limiter (answers attempt) update).limiter) := by
        simp only [Succeeds, tryFrom, outcome]
      rw [later, rest]
      constructor
      · rintro (unanswered | ⟨k, low, high, replied⟩)
        · exact absurd unanswered (again _ failed)
        · exact .inr ⟨k, by omega, by omega, replied⟩
      · rintro (unanswered | ⟨k, low, high, replied⟩)
        · exact absurd (.inl unanswered) due
        · have differ : k ≠ attempt := by
            rintro rfl
            exact due (.inr replied)
          exact .inr ⟨k, by omega, by omega, replied⟩

/-- The attempt bound is enough for a stranger's update exactly when it is answered. -/
theorem stranger_succeeds (stranger : fromAdministrator config update = false) :
    Succeeds (handleUpdateWithRetries config asOffset answers update limiter) ↔
      Answered limiter answers update := by
  have attempts : (∃ k, 1 ≤ k ∧ k ≤ 1 + 4 ∧ Replied (answers k) update) ↔
      ∃ attempt ∈ [1, 2, 3, 4, 5], Replied (answers attempt) update := by
    constructor
    · rintro ⟨k, low, high, replied⟩
      exact ⟨k, by simp; omega, replied⟩
    · rintro ⟨k, member, replied⟩
      simp only [List.mem_cons, List.not_mem_nil, or_false] at member
      exact ⟨k, by omega, by omega, replied⟩
  rw [Answered, ← attempts]
  exact tryFrom_stranger stranger

end Updates

section Runs
variable {config : Config} {asOffset : Nat → Int} {s t s' : Runtime} {event : Event}

/-- A batch without the updates of strangers. -/
def administrators (config : Config) (updates : List Update) : List Update :=
  updates.filter (fromAdministrator config)

def withoutStrangersPhase (config : Config) : Phase → Phase
  | .handling update rest => nextUpdate (administrators config (update :: rest))
  | phase => phase

/-- What an event is to a bot that never sees the strangers' updates. -/
def withoutStrangersEvent (config : Config) (s : Runtime) (event : Event) : List Event :=
  match event with
  | .updates (.ok updates) => [.updates (.ok (administrators config updates))]
  | .handled answers =>
    match s.phase with
    | .handling update _ =>
      if fromAdministrator config update then [.handled answers] else []
    | _ => [.handled answers]
  | event => [event]

def withoutStrangers (config : Config) (asOffset : Nat → Int) : Runtime → List Event → List Event
  | _, [] => []
  | s, event :: rest =>
    withoutStrangersEvent config s event ++
      ((s.step config asOffset event).map (withoutStrangers config asOffset · rest)).getD []

/-- The state of the run without strangers next to the state of the full run. -/
structure Mirrors (config : Config) (s s' : Runtime) : Prop where
  phase : s'.phase = withoutStrangersPhase config s.phase
  clock : s'.clock ≤ s.clock
  limiter : Agree config s.clock s.limiter s'.limiter
  ingests : ingests s.effects = ingests s'.effects

/-- Every update of a stranger that is handled is answered. -/
def StrangersAnswered (config : Config) (s : Runtime) (event : Event) : Prop :=
  ∀ update rest answers, s.phase = .handling update rest → event = .handled answers →
    fromAdministrator config update = false → Answered s.limiter answers update

theorem phase_nextUpdate (updates : List Update) :
    withoutStrangersPhase config (nextUpdate updates) =
      nextUpdate (administrators config updates) := by
  cases updates <;> rfl

theorem afterError_mirrors (mirror : Mirrors config s s') (stage : Stage) (error : PollingError) :
    Mirrors config (s.afterError stage error) (s'.afterError stage error) := by
  unfold Runtime.afterError
  split <;> exact ⟨rfl, mirror.clock, mirror.limiter, mirror.ingests⟩

theorem afterCall_mirrors (mirror : Mirrors config s s') (stage next : Stage)
    (result : Except PollingError Unit) :
    Mirrors config (s.afterCall stage next result) (s'.afterCall stage next result) := by
  cases result with
  | ok done => exact ⟨rfl, mirror.clock, mirror.limiter, mirror.ingests⟩
  | error error => exact afterError_mirrors mirror stage error

theorem afterUpdate_mirrors (mirror : Mirrors config s s') {rest : List Update} {clock : Nat}
    {one two : Handled Int} (alike : Alike config clock one two) :
    Mirrors config (s.afterUpdate rest clock one)
      (s'.afterUpdate (administrators config rest) clock two) := by
  have sent : ingests (s.effects ++ one.effects) = ingests (s'.effects ++ two.effects) := by
    rw [ingests_append, ingests_append, mirror.ingests, alike.effects]
  unfold Runtime.afterUpdate
  rw [alike.result]
  split
  · exact ⟨(phase_nextUpdate rest).symm, Nat.le_refl _, alike.limiter, sent⟩
  · split <;> exact ⟨rfl, Nat.le_refl _, alike.limiter, sent⟩

/-- A stranger's update that is answered leaves the mirrored run where it was. -/
theorem afterUpdate_foreign (mirror : Mirrors config s s') {update : Update} {rest : List Update}
    {clock : Nat} {one : Handled Int} (under : s.phase = .handling update rest)
    (stranger : fromAdministrator config update = false) (succeeds : Succeeds one)
    (silent : ingests one.effects = []) (passed : s.clock ≤ clock)
    (kept : Agree config clock one.limiter s'.limiter) :
    Mirrors config (s.afterUpdate rest clock one) s' := by
  obtain ⟨next, result⟩ := succeeds
  have phase := mirror.phase
  simp only [under, withoutStrangersPhase, administrators, List.filter_cons, stranger] at phase
  unfold Runtime.afterUpdate
  simp only [result]
  refine ⟨phase.trans (phase_nextUpdate rest).symm, Nat.le_trans mirror.clock passed, kept, ?_⟩
  rw [ingests_append, silent, List.append_nil]
  exact mirror.ingests

theorem mirrors_step (mirror : Mirrors config s s') (answered : StrangersAnswered config s event)
    (h : s.step config asOffset event = some t) :
    ∃ t', Run (Runtime.step config asOffset) Unrestricted s'
        (withoutStrangersEvent config s event) t' ∧ Mirrors config t t' := by
  have phase := mirror.phase
  have single {event : Event} {t' : Runtime} (first : s'.step config asOffset event = some t') :
      Run (Runtime.step config asOffset) Unrestricted s' [event] t' := .cons trivial first (.nil _)
  cases event with
  | shutdown =>
    simp only [Runtime.step] at h
    split at h
    case h_3 => cases h
    all_goals
      rename_i calling
      cases h
      rw [calling] at phase
      refine ⟨_, single (by simp only [Runtime.step, phase, withoutStrangersPhase]; rfl), ?_⟩
      exact ⟨rfl, mirror.clock, mirror.limiter, mirror.ingests⟩
  | called result =>
    simp only [Runtime.step] at h
    split at h
    case h_3 => cases h
    all_goals
      rename_i calling
      cases h
      rw [calling] at phase
      refine ⟨_, single (by simp only [Runtime.step, phase, withoutStrangersPhase]; rfl), ?_⟩
      exact afterCall_mirrors mirror _ _ result
  | updates result =>
    simp only [Runtime.step] at h
    split at h
    case h_2 => cases h
    rename_i calling
    rw [calling] at phase
    cases result with
    | ok updates =>
      cases h
      refine ⟨_, single (by simp only [Runtime.step, phase, withoutStrangersPhase]; rfl), ?_⟩
      exact ⟨(phase_nextUpdate updates).symm, mirror.clock, mirror.limiter, mirror.ingests⟩
    | error error =>
      cases h
      refine ⟨_, single (by simp only [Runtime.step, phase, withoutStrangersPhase]; rfl), ?_⟩
      exact afterError_mirrors mirror _ error
  | handled answers =>
    simp only [Runtime.step] at h
    split at h
    case h_2 => cases h
    case h_1 update rest under =>
      split at h
      case isFalse => cases h
      case isTrue ticks =>
        cases h
        have readings := Ticks.readings ticks
        cases sender : fromAdministrator config update with
        | true =>
          rw [under] at phase
          simp only [withoutStrangersPhase, administrators, List.filter_cons, sender, if_true,
            nextUpdate] at phase
          have ticks' : Ticks s'.clock answers := ⟨Nat.le_trans mirror.clock ticks.1, ticks.2⟩
          have alike : Alike config (answers maxHandlerAttempts).now
              (handleUpdateWithRetries config asOffset answers update s.limiter)
              (handleUpdateWithRetries config asOffset answers update s'.limiter) :=
            tryFrom_alike mirror.limiter readings sender
          refine ⟨_, ?_, afterUpdate_mirrors mirror alike⟩
          simp only [withoutStrangersEvent, under, sender, if_true]
          exact single (by simp only [Runtime.step, phase, ticks', if_true]; rfl)
        | false =>
          have reply := answered update rest answers under rfl sender
          have succeeds : Succeeds (handleUpdateWithRetries config asOffset answers update
              s.limiter) := (stranger_succeeds sender).mpr reply
          obtain ⟨silent, kept⟩ : ingests (handleUpdateWithRetries config asOffset answers update
              s.limiter).effects = [] ∧ _ := tryFrom_foreign mirror.limiter readings sender
          refine ⟨s', ?_, afterUpdate_foreign mirror under sender succeeds silent ?_ kept⟩
          · simp only [withoutStrangersEvent, under, sender]
            exact .nil _
          · exact Nat.le_trans readings.start (readings.stop 1 (by decide) (by decide))
  | waited =>
    simp only [Runtime.step] at h
    split at h
    case h_2 => cases h
    rename_i waiting
    cases h
    rw [waiting] at phase
    refine ⟨_, single (by simp only [Runtime.step, phase, withoutStrangersPhase]; rfl), ?_⟩
    exact ⟨rfl, mirror.clock, mirror.limiter, mirror.ingests⟩

theorem mirrors_run {events : List Event} (mirror : Mirrors config s s')
    (run : Run (Runtime.step config asOffset) (StrangersAnswered config) s events t) :
    ∃ t', Run (Runtime.step config asOffset) Unrestricted s'
        (withoutStrangers config asOffset s events) t' ∧ Mirrors config t t' := by
  induction run generalizing s' with
  | nil s => exact ⟨s', .nil s', mirror⟩
  | cons answered first tail ih =>
    obtain ⟨middle, one, mirrored⟩ := mirrors_step mirror answered first
    obtain ⟨last, rest, final⟩ := ih mirrored
    refine ⟨last, ?_, final⟩
    simp only [withoutStrangers, first, Option.map_some, Option.getD_some]
    exact run_append one rest

theorem mirrors_initial (storageChatId : Option Int) :
    Mirrors config (Runtime.initial storageChatId) (Runtime.initial storageChatId) :=
  ⟨rfl, Nat.le_refl _, fun _ _ _ _ => rfl, rfl⟩

/-- The loop goes on past a stranger's update exactly when it is answered. -/
theorem stranger_passes {update : Update} {rest : List Update} {answers : Nat → Answers}
    (under : s.phase = .handling update rest) (stranger : fromAdministrator config update = false)
    (h : s.step config asOffset (.handled answers) = some t) :
    (t.offset = asOffset update.id ∧ t.phase = nextUpdate rest) ↔
      Answered s.limiter answers update := by
  rw [← @stranger_succeeds config asOffset s.limiter answers update stranger]
  simp only [Runtime.step, under] at h
  split at h
  case isFalse => cases h
  cases h
  cases result : (handleUpdateWithRetries config asOffset answers update s.limiter).result with
  | ok next =>
    have same := retries_ok result
    simp only [Runtime.afterUpdate, result, Succeeds]
    exact iff_of_true ⟨same, trivial⟩ ⟨next, rfl⟩
  | error error =>
    have notNext : ∀ phase : Phase, Idle phase → phase ≠ .calling .polling →
        phase ≠ nextUpdate rest := by
      intro phase idle polling same
      cases rest with
      | nil => exact polling same
      | cons update rest => exact idle update rest same
    simp only [Runtime.afterUpdate, result, Succeeds, reduceCtorEq, exists_false, iff_false]
    rintro ⟨-, phase⟩
    split at phase
    · exact notNext _ (idle_stopped _) (by simp) phase
    · exact notNext _ (idle_waiting _) (by simp) phase

/-- Strangers whose updates are answered do not stall the bot, and the
    administrators' requests are those of the run without the strangers. -/
theorem answered_strangers_do_not_stall {storageChatId : Option Int} {events : List Event}
    (run : Run (Runtime.step config asOffset) (StrangersAnswered config)
      (Runtime.initial storageChatId) events s) :
    (∀ update rest answers t, s.phase = .handling update rest →
      fromAdministrator config update = false →
      s.step config asOffset (.handled answers) = some t →
      ((t.offset = asOffset update.id ∧ t.phase = nextUpdate rest) ↔
        Answered s.limiter answers update)) ∧
    ∃ s', Run (Runtime.step config asOffset) Unrestricted (Runtime.initial storageChatId)
        (withoutStrangers config asOffset (Runtime.initial storageChatId) events) s' ∧
      s'.phase = withoutStrangersPhase config s.phase ∧ ingests s.effects = ingests s'.effects := by
  refine ⟨fun _ _ _ _ => stranger_passes, ?_⟩
  obtain ⟨s', mirrored, mirror⟩ := mirrors_run (mirrors_initial storageChatId) run
  exact ⟨s', mirrored, mirror.phase, mirror.ingests⟩

end Runs

section Samples

/-- A private message of somebody who is not an administrator. -/
def strangerUpdate (id : Nat) : Update :=
  ⟨id, .message ⟨1, none, some 777, 777, true, some "hello", none, none, none, none, none⟩⟩

def administratorUpdate (id : Nat) : Update :=
  ⟨id, .message ⟨2, none, some 123, 42, true, none, none,
    some [⟨"file", "unique", 100⟩], none, none, none⟩⟩

def ingestConfig : Config := ⟨[123], 1000, true, fun _ => none⟩

def blockedAnswers : Nat → Answers := fun _ =>
  ⟨.ok ⟨"1", "queued"⟩, 0, .error (.other "Forbidden: bot was blocked by the user"), .ok ()⟩

def acceptedAnswers : Nat → Answers := fun _ => ⟨.ok ⟨"1", "queued"⟩, 0, .ok (), .ok ()⟩

theorem answered_stranger_is_passed :
    ∃ s s', Run (Runtime.step ingestConfig (fun id => id + 1)) (StrangersAnswered ingestConfig)
        (Runtime.initial none)
        [.called (.ok ()), .updates (.ok [strangerUpdate 5, administratorUpdate 6]),
          .handled acceptedAnswers, .handled acceptedAnswers] s ∧
      Run (Runtime.step ingestConfig (fun id => id + 1)) Unrestricted (Runtime.initial none)
        [.called (.ok ()), .updates (.ok [administratorUpdate 6]), .handled acceptedAnswers] s' ∧
      ingests s.effects = ingests s'.effects ∧ (ingests s.effects).length = 1 := by
  have other {s : Runtime} {event : Event} (h : ∀ answers, event ≠ .handled answers) :
      StrangersAnswered ingestConfig s event :=
    fun _ _ answers _ same _ => absurd same (h answers)
  obtain ⟨s, run, length⟩ : ∃ s,
      Run (Runtime.step ingestConfig (fun id => id + 1)) (StrangersAnswered ingestConfig)
        (Runtime.initial none)
        [.called (.ok ()), .updates (.ok [strangerUpdate 5, administratorUpdate 6]),
          .handled acceptedAnswers, .handled acceptedAnswers] s ∧
      (ingests s.effects).length = 1 := by
    refine ⟨_, .cons (other fun _ h => by cases h) rfl (.cons (other fun _ h => by cases h) rfl
      (.cons ?_ rfl (.cons ?_ rfl (.nil _)))), rfl⟩
    · intro update rest answers under handled stranger
      cases under
      cases handled
      exact .inr ⟨1, by decide, rfl⟩
    · intro update rest answers under handled stranger
      cases under
      exact absurd stranger (by decide)
  obtain ⟨-, s', mirrored, -, same⟩ := answered_strangers_do_not_stall run
  exact ⟨s, s', run, mirrored, same, length⟩

theorem unanswered_stranger_stalls :
    ¬ ∀ (config : Config) (asOffset : Nat → Int) (storageChatId : Option Int)
      (events : List Event) (s t : Runtime) (update : Update) (rest : List Update)
      (answers : Nat → Answers),
      Run (Runtime.step config asOffset) Unrestricted (Runtime.initial storageChatId) events s →
      s.phase = .handling update rest → fromAdministrator config update = false →
      (∀ attempt, (answers attempt).sendText ≠ .error .invalidToken) →
      s.step config asOffset (.handled answers) = some t →
      t.offset = asOffset update.id ∧ t.phase = nextUpdate rest := by
  intro claim
  obtain ⟨s, t, run, under, stepped, offset⟩ : ∃ s t,
      Run (Runtime.step ingestConfig (fun id => id + 1)) Unrestricted (Runtime.initial none)
        [.called (.ok ()), .updates (.ok [strangerUpdate 5, administratorUpdate 6])] s ∧
      s.phase = .handling (strangerUpdate 5) [administratorUpdate 6] ∧
      s.step ingestConfig (fun id => id + 1) (.handled blockedAnswers) = some t ∧ t.offset = 0 :=
    ⟨_, _, run_of_exec rfl, rfl, rfl, rfl⟩
  have passed := claim ingestConfig _ none _ s t (strangerUpdate 5) [administratorUpdate 6]
    blockedAnswers run under (by decide) (fun _ h => by cases h) stepped
  have contradiction := offset.symm.trans passed.1
  exact absurd contradiction (by decide)

end Samples

end Sooqa.Telegram
