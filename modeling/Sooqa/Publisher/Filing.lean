import Sooqa.Publisher.Moves

/-!
Every identifier the publisher files was drawn before, and a running job and
the attempt that runs it agree on the lease. From this follows that the holder
of a job is one attempt, and that a lease which lost its job never regains it.
-/
namespace Sooqa.Publisher
open Foundation Queue Worker

variable {w w' : World} {p : Uuid} {act : Action}

theorem filed_bystander {q : Uuid} (same : Bystander w w' q) (filed : Filed w q) : Filed w' q where
  attempt := by
    intro t a found own
    obtain ⟨token, drawn, key, post⟩ := filed.attempt t a ((same.attempts t a own).mp found) own
    exact ⟨token, lt_of_lt_of_le drawn same.fresh, key, lt_of_lt_of_le post same.fresh⟩
  claim := by
    intro t a c found own held
    obtain ⟨post, drawn⟩ := filed.claim t a c ((same.attempts t a own).mp found) own held
    exact ⟨post, lt_of_lt_of_le drawn same.fresh⟩
  failure := fun t a f found own => filed.failure t a f ((same.attempts t a own).mp found) own
  job := by
    intro job found
    rw [same.job] at found
    exact lt_of_lt_of_le (filed.job job found) same.fresh
  lease := by
    intro job columns found running
    rw [same.job] at found
    obtain ⟨drawn, agrees⟩ := filed.lease job columns found running
    exact ⟨lt_of_lt_of_le drawn same.fresh,
      fun a holder own => agrees a ((same.attempts _ a own).mp holder) own⟩
  post := by
    intro post found
    rw [same.post] at found
    obtain ⟨drawn, token⟩ := filed.post post found
    exact ⟨lt_of_lt_of_le drawn same.fresh, fun t h => lt_of_lt_of_le (token t h) same.fresh⟩
  flight := by
    intro f flight found own
    obtain ⟨drawn, post, token⟩ := filed.flight f flight ((same.flights f flight own).mp found) own
    exact ⟨lt_of_lt_of_le drawn same.fresh, lt_of_lt_of_le post same.fresh,
      lt_of_lt_of_le token same.fresh⟩

theorem sameLease_lease {job job' : Job} (same : SameLease job job') : job'.lease = job.lease := by
  obtain ⟨columns, columns', running, running', token, owner⟩ := same.holder
  simp only [Job.lease, running, running', same.id, same.attemptCount, token, owner]

/-- Every attempt of the post after the step continues one from before it. -/
def AttemptsContinue (w w' : World) (p : Uuid) : Prop :=
  ∀ t a, w'.attempts.get t = some a → a.postId = p →
    ∃ old, w.attempts.get t = some old ∧ old.postId = p ∧ a.lease = old.lease ∧
      (∀ c, a.phase.claim? = some c →
        old.phase.claim? = some c ∨ (c.postId = p ∧ c.token < w'.db.fresh)) ∧
      ∀ f, a.phase = .returned (.error f) → a.phase = old.phase ∨ Ends f ∨ Delays f

/-- A job running after the step was running before it under the same lease. -/
def JobContinues (w w' : World) (p : Uuid) : Prop :=
  ∀ job', w'.db.jobs.get (.publish p) = some job' → p < w'.db.fresh ∧
    ∀ columns', job'.state = .running columns' →
      ∃ job columns, w.db.jobs.get (.publish p) = some job ∧ job.state = .running columns ∧
        columns'.token = columns.token ∧ job'.lease = job.lease

def PostDrawn (w' : World) (p : Uuid) : Prop :=
  ∀ post, w'.db.posts.get p = some post →
    p < w'.db.fresh ∧ ∀ token ∈ post.state.sendToken, token < w'.db.fresh

def FlightsDrawn (w' : World) (p : Uuid) : Prop :=
  ∀ f flight, w'.flights.get f = some flight → flight.postId = p →
    f < w'.db.fresh ∧ p < w'.db.fresh ∧ flight.token < w'.db.fresh

theorem filed_of_continues (filed : Filed w p) (fresh : w.db.fresh ≤ w'.db.fresh)
    (attempts : AttemptsContinue w w' p) (job : JobContinues w w' p) (post : PostDrawn w' p)
    (flights : FlightsDrawn w' p) : Filed w' p where
  attempt := by
    intro t a found own
    obtain ⟨old, before, same, lease, -⟩ := attempts t a found own
    obtain ⟨token, drawn, key, post⟩ := filed.attempt t old before same
    exact ⟨by rw [lease, token], lt_of_lt_of_le drawn fresh, by rw [lease, key],
      lt_of_lt_of_le post fresh⟩
  claim := by
    intro t a c found own held
    obtain ⟨old, before, same, -, claims, -⟩ := attempts t a found own
    rcases claims c held with kept | new
    · obtain ⟨post, drawn⟩ := filed.claim t old c before same kept
      exact ⟨post, lt_of_lt_of_le drawn fresh⟩
    · exact new
  failure := by
    intro t a f found own phase
    obtain ⟨old, before, same, -, -, failures⟩ := attempts t a found own
    rcases failures f phase with kept | new
    · exact filed.failure t old f before same (kept ▸ phase)
    · exact new
  job := fun job' found => (job job' found).1
  lease := by
    intro job' columns' found running
    obtain ⟨old, columns, before, was, token, lease⟩ := (job job' found).2 columns' running
    obtain ⟨drawn, agrees⟩ := filed.lease old columns before was
    rw [token, lease]
    refine ⟨lt_of_lt_of_le drawn fresh, fun a holder own => ?_⟩
    obtain ⟨first, present, same, kept, -⟩ := attempts _ a holder own
    rw [kept]
    exact agrees first present same
  post := post
  flight := flights

section Parts

theorem attemptsContinue_refl {db' : Db} : AttemptsContinue w { w with db := db' } p :=
  fun _ a found own => ⟨a, found, own, rfl, fun _ held => Or.inl held, fun _ _ => Or.inl rfl⟩

theorem attemptsContinue_advance {t : Uuid} {attempt : Attempt} {db' : Db} {next : Phase}
    {flights : Table Uuid Flight} (found : w.attempts.get t = some attempt)
    (own : attempt.postId = p)
    (claims : ∀ c, next.claim? = some c →
      attempt.phase.claim? = some c ∨ (c.postId = p ∧ c.token < db'.fresh))
    (failures : ∀ f, next = .returned (.error f) → Ends f ∨ Delays f) :
    AttemptsContinue w ⟨db', w.attempts.set t { attempt with phase := next }, flights⟩ p := by
  intro u a present home
  simp only [Table.get_set] at present
  split at present
  · rename_i here
    cases present
    exact ⟨attempt, by rw [here, found], own, rfl, claims, fun f same => Or.inr (failures f same)⟩
  · exact ⟨a, present, home, rfl, fun _ held => Or.inl held, fun _ _ => Or.inl rfl⟩

theorem attemptsContinue_retire {t : Uuid} {db' : Db} : AttemptsContinue w (w.retire t db') p := by
  intro u a present home
  simp only [World.retire, Table.get_remove] at present
  split at present
  · cases present
  · exact ⟨a, present, home, rfl, fun _ held => Or.inl held, fun _ _ => Or.inl rfl⟩

theorem jobContinues_same (filed : Filed w p) (fresh : w.db.fresh ≤ w'.db.fresh)
    (same : w'.db.jobs.get (.publish p) = w.db.jobs.get (.publish p)) : JobContinues w w' p := by
  intro job' found
  rw [same] at found
  exact ⟨lt_of_lt_of_le (filed.job job' found) fresh,
    fun columns running => ⟨job', columns, found, running, rfl, rfl⟩⟩

theorem jobContinues_idle (drawn : p < w'.db.fresh)
    (idle : ∀ job columns, w'.db.jobs.get (.publish p) = some job →
      job.state ≠ .running columns) : JobContinues w w' p :=
  fun job' found => ⟨drawn, fun columns running => absurd running (idle job' columns found)⟩

theorem jobContinues_of {job job' : Job} (drawn : p < w'.db.fresh)
    (before : w.db.jobs.get (.publish p) = some job)
    (after : w'.db.jobs.get (.publish p) = some job') (same : SameLease job job') :
    JobContinues w w' p := by
  intro found present
  rw [after] at present
  cases present
  refine ⟨drawn, fun columns running => ?_⟩
  obtain ⟨old, new, was, is, token, -⟩ := same.holder
  rw [running] at is
  cases is
  exact ⟨job, old, before, was, token, sameLease_lease same⟩

theorem postDrawn_same (filed : Filed w p) (fresh : w.db.fresh ≤ w'.db.fresh)
    (same : w'.db.posts.get p = w.db.posts.get p) : PostDrawn w' p := by
  intro post found
  rw [same] at found
  obtain ⟨drawn, token⟩ := filed.post post found
  exact ⟨lt_of_lt_of_le drawn fresh, fun t h => lt_of_lt_of_le (token t h) fresh⟩

theorem postDrawn_idle {post : Post} (drawn : p < w'.db.fresh)
    (after : w'.db.posts.get p = some post) (idle : post.state.sendToken = none) :
    PostDrawn w' p := by
  intro found present
  rw [after] at present
  cases present
  refine ⟨drawn, fun token held => ?_⟩
  rw [idle] at held
  cases held

theorem flightsDrawn_same (filed : Filed w p) (fresh : w.db.fresh ≤ w'.db.fresh)
    (same : w'.flights = w.flights) : FlightsDrawn w' p := by
  intro f flight found own
  rw [same] at found
  obtain ⟨drawn, post, token⟩ := filed.flight f flight found own
  exact ⟨lt_of_lt_of_le drawn fresh, lt_of_lt_of_le post fresh, lt_of_lt_of_le token fresh⟩

end Parts

section Moved

theorem editedJob_sendToken {db db' : Db} {old new : Post} (job : EditedJob db db' p old new) :
    new.state.sendToken = none := by
  cases job with
  | drafted was becomes job => rcases becomes with draft | cancelled <;> simp [*, PostState.sendToken]
  | queued becomes driven => simp [becomes, PostState.sendToken]
  | failed was becomes idle kept => simp [becomes, PostState.sendToken]
  | cancelled becomes idle ended => simp [becomes, PostState.sendToken]

theorem driven_idle {jobs jobs' : Jobs} {revision : Nat} (driven : Driven jobs jobs' p revision)
    (job : Job) (columns : LeaseColumns) (found : jobs'.get (.publish p) = some job) :
    job.state ≠ .running columns := by
  obtain ⟨queued, present, state, -⟩ := driven.queued
  rw [present] at found
  cases found
  simp [state]

theorem filed_api {db' : Db} (filed : Filed w p) (write : ApiWrite w.db db' p)
    (fresh : w.db.fresh ≤ db'.fresh) : Filed { w with db := db' } p := by
  refine filed_of_continues filed fresh attemptsContinue_refl ?_ ?_
    (flightsDrawn_same filed fresh rfl)
  · cases write with
    | created post new drawn row job =>
      rcases job with ⟨-, same⟩ | ⟨-, driven⟩
      · exact jobContinues_same filed fresh same
      · exact jobContinues_idle (new ▸ drawn) (driven_idle driven)
    | edited old new before after editable revision job =>
      have drawn := lt_of_lt_of_le (filed.post old before).1 fresh
      cases job with
      | drafted was becomes job => exact jobContinues_same filed fresh job
      | queued becomes driven => exact jobContinues_idle drawn (driven_idle driven)
      | failed was becomes idle kept =>
        obtain ⟨job, present, state⟩ := kept
        refine jobContinues_idle drawn (fun other columns found => ?_)
        rw [present] at found
        cases found
        simp [state]
      | cancelled becomes idle ended =>
        refine jobContinues_idle drawn (fun other columns found => ?_)
        simp [ended other found]
  · cases write with
    | created post new drawn row job =>
      refine postDrawn_idle (new ▸ drawn) row ?_
      rcases job with ⟨state, -⟩ | ⟨state, -⟩ <;> simp [state, PostState.sendToken]
    | edited old new before after editable revision job =>
      exact postDrawn_idle (lt_of_lt_of_le (filed.post old before).1 fresh) after
        (editedJob_sendToken job)

theorem filed_released {db' : Db} {job : Job} {terminal : Bool} (filed : Filed w p)
    (released : Released w.db db' p job terminal) (after : World) (store : after.db = db')
    (attempts : AttemptsContinue w after p) (flights : after.flights = w.flights) :
    Filed after p := by
  have fresh : w.db.fresh ≤ after.db.fresh := by
    rw [store]
    exact released.elsewhere.fresh
  have drawn := lt_of_lt_of_le (filed.job job released.found) fresh
  refine filed_of_continues filed fresh attempts ?_ ?_ (flightsDrawn_same filed fresh flights)
  · refine jobContinues_idle drawn (fun other columns found => ?_)
    obtain ⟨job', present, -, state⟩ := released.after
    rw [store, present] at found
    cases found
    rw [state]
    split <;> simp
  · cases released.post with
    | kept same settled => exact postDrawn_same filed fresh (by rw [store]; exact same)
    | failed old new write was ended becomes =>
      exact postDrawn_idle drawn (by rw [store]; exact write.after)
        (by rw [becomes]; rfl)
    | unknown old new write was ended becomes =>
      exact postDrawn_idle drawn (by rw [store]; exact write.after)
        (by rw [becomes]; rfl)

theorem turn_claim {db : Db} {attempt : Attempt} {next : Phase} (turn : Turn db attempt next)
    {c : PublishClaim} (held : next.claim? = some c) : attempt.phase.claim? = some c := by
  cases turn with
  | interrupted start sending => cases held
  | dismissed cause => cases held
  | prepared claim request start => rw [start]; exact held
  | unprepared claim errorClass message start => rw [start]; exact held
  | postponed claim errorClass message start => rw [start]; exact held
  | uncommitted claim messageId message start => rw [start]; exact held
  | gaveUp failure kind => cases held

/-- A call keeps the claim of its attempt or acquires one with a fresh token. -/
theorem callEffect_claim {db db' : Db} {attempt : Attempt} {next : Phase}
    (effect : CallEffect db attempt db' next) {c : PublishClaim} (held : next.claim? = some c) :
    attempt.phase.claim? = some c ∨
      (c.postId = attempt.postId ∧ c.token = db.fresh ∧ db.fresh < db'.fresh ∧
        next = .claimed c) := by
  cases effect with
  | turned same turn => exact Or.inl (turn_claim turn held)
  | claimed old new startedAt write jobs start alive was becomes drawn turn =>
    rcases turn with ⟨claim, rfl, post, token, -⟩ | ⟨failure, rfl, -⟩
    · cases held
      exact Or.inr ⟨post, token, by rw [drawn]; exact Nat.lt_succ_self _, rfl⟩
    · cases held
  | reconciled old new write jobs start alive was becomes turn =>
    rcases turn with rfl | ⟨failure, rfl, -⟩ <;> cases held
  | completed old new claim messageId write jobs start alive holds becomes turn =>
    rcases turn with rfl | ⟨message, rfl⟩
    · cases held
    · rw [start]
      exact Or.inl held
  | failed old new claim state write jobs start alive holds outcome becomes turn =>
    obtain ⟨failure, rfl, -⟩ := turn
    cases held
  | retried old new claim terminal job job' write start current holds becomes after kept payload
      now turn =>
    obtain ⟨failure, rfl, -⟩ := turn
    cases held

theorem callEffect_failure {db db' : Db} {attempt : Attempt} {next : Phase}
    (effect : CallEffect db attempt db' next) {f : HandlerFailure}
    (returned : next = .returned (.error f)) : Ends f ∨ Delays f := by
  cases effect with
  | turned same turn =>
    cases turn <;> cases returned
    rename_i kind
    exact kind.imp id And.left
  | claimed old new startedAt write jobs start alive was becomes drawn turn =>
    rcases turn with ⟨claim, rfl, -⟩ | ⟨failure, rfl, delays⟩ <;> cases returned
    exact Or.inr delays
  | reconciled old new write jobs start alive was becomes turn =>
    rcases turn with rfl | ⟨failure, rfl, delays⟩ <;> cases returned
    exact Or.inr delays
  | completed old new claim messageId write jobs start alive holds becomes turn =>
    rcases turn with rfl | ⟨message, rfl⟩ <;> cases returned
  | failed old new claim state write jobs start alive holds outcome becomes turn =>
    obtain ⟨failure, rfl, ends⟩ := turn
    cases returned
    exact Or.inl ends
  | retried old new claim terminal job job' write start current holds becomes after kept payload
      now turn =>
    obtain ⟨failure, rfl, kind⟩ := turn
    cases returned
    exact kind.imp id And.left

theorem retried_sameLease {db : Db} {lease : JobLease} {job job' : Job}
    (current : lockCurrentJobAttempt db.jobs db.now lease = some job)
    (kept : job'.state = job.state ∧ job'.id = job.id ∧ job'.attemptCount = job.attemptCount ∧
      job'.maxAttempts = job.maxAttempts) : SameLease job job' := by
  obtain ⟨state, id, attempts, limit⟩ := kept
  obtain ⟨-, -, -, held⟩ := lockRunningJob_eq_some.mp current
  obtain ⟨columns, running, -⟩ := heldBy_eq_true.mp held
  exact ⟨id, attempts, limit, columns, columns, running, by rw [state, running], rfl, rfl⟩

theorem filed_called {t : Uuid} {attempt : Attempt} {db' : Db} {next : Phase} (filed : Filed w p)
    (found : w.attempts.get t = some attempt) (own : attempt.postId = p)
    (effect : CallEffect w.db attempt db' next) : Filed (w.advance t attempt db' next) p := by
  have fresh := (callEffect_elsewhere effect).fresh
  obtain ⟨token, -, key, drawn⟩ := filed.attempt t attempt found own
  have home := lt_of_lt_of_le drawn fresh
  refine filed_of_continues filed fresh (attemptsContinue_advance found own ?_
    (fun _ same => callEffect_failure effect same)) ?_ ?_ (flightsDrawn_same filed fresh rfl)
  · intro c held
    rcases callEffect_claim effect held with kept | ⟨post, new, later, -⟩
    · exact Or.inl kept
    · exact Or.inr ⟨by rw [post, own], lt_of_eq_of_lt new later⟩
  · cases effect with
    | turned same turn =>
      subst same
      exact jobContinues_same filed fresh rfl
    | claimed old new startedAt write jobs =>
      exact jobContinues_same filed fresh (by simp only [World.advance, jobs])
    | reconciled old new write jobs =>
      exact jobContinues_same filed fresh (by simp only [World.advance, jobs])
    | completed old new claim messageId write jobs =>
      exact jobContinues_same filed fresh (by simp only [World.advance, jobs])
    | failed old new claim state write jobs =>
      exact jobContinues_same filed fresh (by simp only [World.advance, jobs])
    | retried old new claim terminal job job' write start current holds becomes after kept =>
      have before := (lockRunningJob_eq_some.mp current).1
      rw [key] at before
      exact jobContinues_of home before (own ▸ after) (retried_sameLease current kept)
  · cases effect with
    | turned same turn =>
      subst same
      exact postDrawn_same filed fresh rfl
    | claimed old new startedAt write jobs start alive was becomes drawn turn =>
      intro post present
      rw [show (w.advance t attempt db' next).db.posts.get p = some new from own ▸ write.after]
        at present
      cases present
      refine ⟨home, fun token held => ?_⟩
      rw [becomes] at held
      cases held
      show w.db.fresh < db'.fresh
      rw [drawn]
      exact Nat.lt_succ_self _
    | reconciled old new write jobs start alive was becomes =>
      exact postDrawn_idle home (own ▸ write.after) (by rw [becomes]; rfl)
    | completed old new claim messageId write jobs start alive holds becomes =>
      exact postDrawn_idle home (own ▸ write.after) (by rw [becomes]; rfl)
    | failed old new claim state write jobs start alive holds outcome becomes =>
      refine postDrawn_idle home (own ▸ write.after) ?_
      rcases outcome with rfl | rfl <;> rw [becomes] <;> rfl
    | retried old new claim terminal job job' write start current holds becomes =>
      refine postDrawn_idle home (own ▸ write.after) ?_
      rw [becomes]
      split <;> rfl

theorem afterTransportError_claim (claim : PublishClaim) (error : TelegramError) :
    (afterTransportError claim error).claim? = some claim := by
  unfold afterTransportError
  repeat' split
  all_goals rfl

theorem afterCopy_claim (claim : PublishClaim) (request : TelegramPublicationRequest)
    (answer : TelegramAnswer) : (afterCopy claim request answer).claim? = some claim := by
  cases answer with
  | sent messageId => rfl
  | error error =>
    simp only [afterCopy]
    split
    · split <;> rfl
    · exact afterTransportError_claim claim error

theorem afterFile_claim (claim : PublishClaim) (answer : TelegramAnswer) :
    (afterFile claim answer).claim? = some claim := by
  cases answer with
  | sent messageId => rfl
  | error error => exact afterTransportError_claim claim error

/-- An attempt with a claim has not returned. -/
theorem unfailing {phase : Phase} {claim : PublishClaim} (held : phase.claim? = some claim)
    (f : HandlerFailure) (returned : phase = .returned (.error f)) : Ends f ∨ Delays f := by
  rw [returned] at held
  cases held

theorem filed_leased {db' : Db} {job' : Job} {lease : JobLease} {revision : Int}
    {columns : LeaseColumns} (filed : Filed w p) (before : (w.db.jobs.get (.publish p)).isSome)
    (after : db'.jobs.get (.publish p) = some job') (running : job'.state = .running columns)
    (token : columns.token = w.db.fresh) (held : job'.lease = some lease)
    (posts : db'.posts = w.db.posts) (fresh : db'.fresh = w.db.fresh + 1) :
    Filed { w with
      db := db', attempts := w.attempts.set w.db.fresh ⟨lease, p, revision, .started⟩ } p := by
  obtain ⟨job, present⟩ := Option.isSome_iff_exists.mp before
  have later : w.db.fresh < db'.fresh := by
    rw [fresh]
    exact Nat.lt_succ_self _
  have home := lt_trans (filed.job job present) later
  have owner := Jobs.get_key db'.jobs after
  simp only [Job.lease, running, Option.some.injEq] at held
  have named : lease.leaseToken = w.db.fresh ∧ lease.jobId.key = .publish p := by
    rw [← held]
    exact ⟨token, owner⟩
  refine ⟨?_, ?_, ?_, fun _ _ => home, ?_, postDrawn_same filed later.le (by simp only [posts]),
    flightsDrawn_same filed later.le rfl⟩
  · intro t a found own
    simp only [Table.get_set] at found
    split at found
    · rename_i here
      cases found
      exact ⟨by rw [named.1, here], by rw [here]; exact later, named.2, home⟩
    · obtain ⟨name, drawn, key, -⟩ := filed.attempt t a found own
      exact ⟨name, lt_trans drawn later, key, home⟩
  · intro t a c found own claimed
    simp only [Table.get_set] at found
    split at found
    · cases found
      cases claimed
    · obtain ⟨post, drawn⟩ := filed.claim t a c found own claimed
      exact ⟨post, lt_trans drawn later⟩
  · intro t a f found own returned
    simp only [Table.get_set] at found
    split at found
    · cases found
      cases returned
    · exact filed.failure t a f found own returned
  · intro other columns' found is
    rw [after] at found
    cases found
    rw [running] at is
    cases is
    rw [token]
    refine ⟨later, fun a holder own => ?_⟩
    simp only [Table.get_set_self, Option.some.injEq] at holder
    subst holder
    simp only [Job.lease, running, held]

theorem filed_move (filed : Filed w p) (move : Move w p act w') : Filed w' p := by
  cases move with
  | api write elsewhere => exact filed_api filed write elsewhere.fresh
  | renewed job job' columns before running unexpired after same command posts clock =>
    have fresh := le_of_eq clock.2.symm
    exact filed_of_continues filed fresh attemptsContinue_refl
      (jobContinues_of (lt_of_lt_of_le (filed.job job before) fresh) before after same)
      (postDrawn_same filed fresh (by simp only [posts])) (flightsDrawn_same filed fresh rfl)
  | pruned job before ended after post posts clock =>
    have fresh := le_of_eq clock.2.symm
    refine filed_of_continues filed fresh attemptsContinue_refl ?_
      (postDrawn_same filed fresh (by simp only [posts])) (flightsDrawn_same filed fresh rfl)
    intro job' found
    rw [after] at found
    cases found
  | recovered job lock released => exact filed_released filed released _ rfl attemptsContinue_refl rfl
  | leased job job' lease revision columns before was after running token held payload same posts
      clock =>
    exact filed_leased filed (by rw [before]; rfl) after running token held posts clock.2
  | called attempt found own effect => exact filed_called filed found own effect
  | answered attempt flight answer next found own sent answerable turn =>
    obtain ⟨claim, held, kept⟩ : ∃ claim, attempt.phase.claim? = some claim ∧
        next.claim? = some claim := by
      rcases turn with ⟨claim, request, phase, rfl⟩ | ⟨claim, phase, rfl⟩
      · exact ⟨claim, by rw [phase]; rfl, afterCopy_claim claim request answer⟩
      · exact ⟨claim, by rw [phase]; rfl, afterFile_claim claim answer⟩
    have claims : ∀ c, next.claim? = some c → attempt.phase.claim? = some c := by
      intro c same
      rw [held, ← kept, same]
    exact filed_of_continues filed (Nat.le_refl _)
      (attemptsContinue_advance found own (fun c held => Or.inl (claims c held)) (unfailing kept))
      (jobContinues_same filed (Nat.le_refl _) rfl) (postDrawn_same filed (Nat.le_refl _) rfl)
      (flightsDrawn_same filed (Nat.le_refl _) rfl)
  | launched attempt claim next found own turn =>
    have held : attempt.phase.claim? = some claim ∧ ∀ f, (next f).claim? = some claim := by
      rcases turn with ⟨request, phase, rfl⟩ | ⟨request, phase, rfl⟩ <;>
        exact ⟨by rw [phase]; rfl, fun _ => rfl⟩
    obtain ⟨home, drawn⟩ := filed.claim _ attempt claim found own held.1
    obtain ⟨-, -, -, post⟩ := filed.attempt _ attempt found own
    have fresh : w.db.fresh ≤ w.db.fresh + 1 := Nat.le_succ _
    refine filed_of_continues filed fresh
      (attemptsContinue_advance found own ?_ (unfailing (held.2 _)))
      (jobContinues_same filed fresh rfl) (postDrawn_same filed fresh rfl) ?_
    · intro c kept
      rw [held.2] at kept
      rw [held.1]
      exact Or.inl kept
    · intro f flight present owner
      simp only [World.launch, Table.get_set] at present
      split at present
      · rename_i here
        cases present
        exact ⟨by rw [here]; exact Nat.lt_succ_self _, Nat.lt_succ_of_lt post,
          Nat.lt_succ_of_lt drawn⟩
      · obtain ⟨earlier, known, token⟩ := filed.flight f flight present owner
        exact ⟨Nat.lt_succ_of_lt earlier, Nat.lt_succ_of_lt known, Nat.lt_succ_of_lt token⟩
  | landed flight fate sent own pending =>
    refine ⟨filed.attempt, filed.claim, filed.failure, filed.job, filed.lease, filed.post, ?_⟩
    intro f other present owner
    simp only [Table.get_set] at present
    split at present
    · rename_i here
      cases present
      rw [here]
      exact filed.flight _ flight sent own
    · exact filed.flight f other present owner
  | dropped attempt found own =>
    exact filed_of_continues filed (Nat.le_refl _) attemptsContinue_retire
      (jobContinues_same filed (Nat.le_refl _) rfl) (postDrawn_same filed (Nat.le_refl _) rfl)
      (flightsDrawn_same filed (Nat.le_refl _) rfl)
  | completed attempt job job' found own phase before held after done posts clock =>
    have fresh := le_of_eq clock.2.symm
    refine filed_of_continues filed fresh attemptsContinue_retire
      (jobContinues_idle (lt_of_lt_of_le (filed.job job before) fresh) ?_)
      (postDrawn_same filed fresh (by simp only [World.retire, posts]))
      (flightsDrawn_same filed fresh rfl)
    intro other columns present
    rw [show (w.retire _ _).db.jobs.get (.publish p) = some job' from after] at present
    cases present
    simp [done]
  | settled attempt failure settlement job found own phase asks lock released =>
    exact filed_released filed released _ rfl attemptsContinue_retire rfl
  | stopped attempt job found own applied lock released =>
    exact filed_released filed released _ rfl attemptsContinue_retire rfl

end Moved

/-- A property of one post at a time: kept by bystanders and by every allowed
    move of the post itself, it holds of all posts after every run. -/
theorem run_posts {calendar : Calendar} {allowed : World → Action → Prop}
    (inv : World → Uuid → Prop)
    (bystander : ∀ {w w' q}, Filed w q → Bystander w w' q → inv w q → inv w' q)
    (moved : ∀ {w w' p act}, Filed w p → inv w p → allowed w act → Move w p act w' → inv w' p)
    {s u : World} {acts : List Action} (filed : ∀ q, Filed s q) (start : ∀ q, inv s q)
    (run : Run (step calendar) allowed s acts u) : ∀ q, Filed u q ∧ inv u q := by
  refine run_invariant (fun w => ∀ q, Filed w q ∧ inv w q) ?_ (fun q => ⟨filed q, start q⟩) run
  intro w act w' kept ok one q
  rcases step_moves (fun p => (kept p).1) one with all | ⟨p, others, move⟩
  · exact ⟨filed_bystander (all q) (kept q).1, bystander (kept q).1 (all q) (kept q).2⟩
  · by_cases same : q = p
    · rw [same]
      exact ⟨filed_move (kept p).1 move, moved (kept p).1 (kept p).2 ok move⟩
    · exact ⟨filed_bystander (others q same) (kept q).1, bystander (kept q).1 (others q same) (kept q).2⟩

theorem filed_initial (p : Uuid) : Filed initial p := by
  refine ⟨?_, ?_, ?_, ?_, ?_, ?_, ?_⟩
  · intro t a found
    cases found
  · intro t a c found
    cases found
  · intro t a f found
    cases found
  · intro job found
    cases found
  · intro job columns found
    cases found
  · intro post found
    cases found
  · intro f flight found
    cases found

end Sooqa.Publisher
