import Sooqa.Publisher.Filing

/-!
A queued post is driven by its job. The job is live and its payload names the
revision of the post, whatever the API, the workers, crashes and recovery do.
What carries the invariant is that an attempt whose lease still holds has seen
the post as it is: only such an attempt can end the job.
-/
namespace Sooqa.Publisher
open Foundation Queue Worker

variable {w w' : World} {p : Uuid} {act : Action}

section Alive
variable {db db' : Db} {lease : JobLease}

theorem alive_running (alive : Alive db lease) :
    ∃ job columns, db.jobs.get lease.jobId.key = some job ∧ job.state = .running columns ∧
      columns.token = lease.leaseToken := by
  obtain ⟨job, lock⟩ := alive
  obtain ⟨found, -, -, held⟩ := lockRunningJob_eq_some.mp lock
  obtain ⟨columns, running, -, token, -⟩ := heldBy_eq_true.mp held
  exact ⟨job, columns, found, running, token⟩

/-- A lease never comes back to life while its job row stays as it is. -/
theorem alive_of_same (same : db'.jobs.get lease.jobId.key = db.jobs.get lease.jobId.key)
    (now : db.now ≤ db'.now) (alive : Alive db' lease) : Alive db lease := by
  obtain ⟨job, lock⟩ := alive
  obtain ⟨found, id, attempts, held⟩ := lockRunningJob_eq_some.mp lock
  obtain ⟨columns, running, owner, token, unexpired⟩ := heldBy_eq_true.mp held
  refine ⟨job, lockRunningJob_eq_some.mpr ⟨by rw [← same, found], id, attempts, ?_⟩⟩
  refine heldBy_eq_true.mpr ⟨columns, running, owner, token, Or.inr ?_⟩
  exact lt_of_le_of_lt now (unexpired.resolve_left (by simp))

theorem alive_of_sameLease {job job' : Job} {columns : LeaseColumns} (same : SameLease job job')
    (before : db.jobs.get lease.jobId.key = some job) (running : job.state = .running columns)
    (unexpired : db.now < columns.expiresAt)
    (after : db'.jobs.get lease.jobId.key = some job') (alive : Alive db' lease) :
    Alive db lease := by
  obtain ⟨found, lock⟩ := alive
  obtain ⟨present, id, attempts, held⟩ := lockRunningJob_eq_some.mp lock
  rw [after] at present
  cases present
  obtain ⟨new, is, owner, token, -⟩ := heldBy_eq_true.mp held
  obtain ⟨old, new', was, is', sameToken, sameOwner⟩ := same.holder
  rw [running] at was
  cases was
  rw [is] at is'
  cases is'
  refine ⟨job, lockRunningJob_eq_some.mpr ⟨before, by rw [← same.id, id],
    by rw [← same.attemptCount, attempts], ?_⟩⟩
  exact heldBy_eq_true.mpr ⟨columns, running, by rw [← sameOwner, owner],
    by rw [← sameToken, token], Or.inr unexpired⟩

theorem not_alive_of_idle {job : Job} (after : db.jobs.get lease.jobId.key = some job)
    (idle : ∀ columns, job.state ≠ .running columns) : ¬ Alive db lease := by
  intro alive
  obtain ⟨other, columns, found, running, -⟩ := alive_running alive
  rw [after] at found
  cases found
  exact idle columns running

theorem not_alive_of_none (after : db.jobs.get lease.jobId.key = none) : ¬ Alive db lease := by
  intro alive
  obtain ⟨other, columns, found, -⟩ := alive_running alive
  rw [after] at found
  cases found

/-- The filed attempt of a job whose lease has not expired is its current one. -/
theorem alive_of_heldBy {t : Uuid} {a : Attempt} {job : Job} (filed : Filed w p)
    (found : w.attempts.get t = some a) (own : a.postId = p)
    (before : w.db.jobs.get (.publish p) = some job)
    (held : job.heldBy w.db.now a.lease false = true) : Alive w.db a.lease := by
  obtain ⟨named, -, key, -⟩ := filed.attempt t a found own
  obtain ⟨columns, running, owner, token, unexpired⟩ := heldBy_eq_true.mp held
  have agrees := (filed.lease job columns before running).2 a (by rw [token, named, found]) own
  simp only [Job.lease, running, Option.some.injEq] at agrees
  refine ⟨job, lockRunningJob_eq_some.mpr ⟨by rw [key, before], ?_, ?_, held⟩⟩
  · rw [← agrees]
  · rw [← agrees]

/-- Two live leases of one post are one lease. -/
theorem alive_unique {t u : Uuid} {a b : Attempt} (filed : Filed w p)
    (first : w.attempts.get t = some a) (second : w.attempts.get u = some b)
    (ownA : a.postId = p) (ownB : b.postId = p) (aliveA : Alive w.db a.lease)
    (aliveB : Alive w.db b.lease) : t = u := by
  obtain ⟨nameA, -, keyA, -⟩ := filed.attempt t a first ownA
  obtain ⟨nameB, -, keyB, -⟩ := filed.attempt u b second ownB
  obtain ⟨job, columns, found, running, token⟩ := alive_running aliveA
  obtain ⟨job', columns', found', running', token'⟩ := alive_running aliveB
  rw [keyA] at found
  rw [keyB, found] at found'
  cases found'
  rw [running] at running'
  cases running'
  rw [← nameA, ← nameB, ← token, ← token']

end Alive

/-- What an attempt whose lease holds knows about its post and job. -/
def Fits (db : Db) (attempt : Attempt) : Prop :=
  match attempt.phase with
  | .started => ∃ job, db.jobs.get (.publish attempt.postId) = some job ∧
      job.command = attempt.command
  | .interrupted => ∃ post, db.posts.get attempt.postId = some post ∧ post.state.sendToken.isSome
  | .claimed claim | .prepared claim _ | .copying claim _ _ | .fallingBack claim _
  | .sendingFile claim _ | .sent claim _ | .retrying claim _ _ | .failing claim _ _ _ =>
    ∃ post, db.posts.get attempt.postId = some post ∧
      holdsClaim post (attempt.publishLease claim) = true
  | .commitFailed claim _ =>
    ∃ post, db.posts.get attempt.postId = some post ∧
      (holdsClaim post (attempt.publishLease claim) = true ∨ post.state = .published)
  | .returned (.ok _) => ∀ post, db.posts.get attempt.postId = some post → post.state ≠ .queued
  | .returned (.error _) => True

/-- The job of a queued post is live and carries its revision. -/
def Drives (db : Db) (p : Uuid) : Prop :=
  ∀ post, db.posts.get p = some post → post.state = .queued →
    ∃ job, db.jobs.get (.publish p) = some job ∧ job.state.live = true ∧
      job.command = .publishPost p post.revision

structure Agrees (w : World) (p : Uuid) : Prop where
  drives : Drives w.db p
  fits : ∀ t a, w.attempts.get t = some a → a.postId = p → Alive w.db a.lease → Fits w.db a

theorem fits_of_same {db db' : Db} {a : Attempt}
    (posts : db'.posts.get a.postId = db.posts.get a.postId)
    (jobs : ∀ job, db.jobs.get (.publish a.postId) = some job →
      ∃ job', db'.jobs.get (.publish a.postId) = some job' ∧ job'.command = job.command)
    (fits : Fits db a) : Fits db' a := by
  unfold Fits at fits ⊢
  split at fits
  · obtain ⟨job, found, command⟩ := fits
    obtain ⟨job', found', same⟩ := jobs job found
    exact ⟨job', found', by rw [same, command]⟩
  all_goals
    first
      | trivial
      | (rw [posts]; exact fits)

theorem holdsClaim_sendToken {post : Post} {lease : PublishLease}
    (holds : holdsClaim post lease = true) : post.state.sendToken = some lease.token := by
  unfold holdsClaim at holds
  split at holds
  · rename_i token startedAt state
    simp only [Bool.and_eq_true, beq_iff_eq] at holds
    rw [state, ← holds.2]
    rfl
  · cases holds

/-- A draft rewritten as anything but a queued post fits whoever it fitted. -/
theorem fits_of_drafted {db db' : Db} {a : Attempt} {old new : Post}
    (before : db.posts.get a.postId = some old) (after : db'.posts.get a.postId = some new)
    (was : old.state = .draft) (becomes : new.state ≠ .queued)
    (jobs : db'.jobs.get (.publish a.postId) = db.jobs.get (.publish a.postId))
    (fits : Fits db a) : Fits db' a := by
  have idle : ∀ lease, holdsClaim old lease = true → False := by
    intro lease holds
    have token := holdsClaim_sendToken holds
    rw [was] at token
    cases token
  unfold Fits at fits ⊢
  split at fits
  · obtain ⟨job, found, command⟩ := fits
    exact ⟨job, by rw [jobs, found], command⟩
  case h_12 =>
    intro post found
    rw [after] at found
    cases found
    exact becomes
  case h_13 => trivial
  all_goals
    obtain ⟨post, found, state⟩ := fits
    rw [before] at found
    cases found
    exfalso
  case h_2 =>
    rw [was] at state
    cases state
  case h_11 =>
    rcases state with holds | published
    · exact idle _ holds
    · rw [was] at published
      cases published
  all_goals exact idle _ state

theorem agrees_bystander {q : Uuid} (filed : Filed w q) (same : Bystander w w' q)
    (agrees : Agrees w q) : Agrees w' q where
  drives := by
    intro post found queued
    rw [same.post] at found
    rw [same.job]
    exact agrees.drives post found queued
  fits := by
    intro t a found own alive
    have before := (same.attempts t a own).mp found
    obtain ⟨-, -, key, -⟩ := filed.attempt t a before own
    have was := alive_of_same (by rw [key, same.job]) same.now alive
    subst own
    refine fits_of_same same.post ?_ (agrees.fits t a before rfl was)
    intro job present
    exact ⟨job, by rw [same.job, present], rfl⟩

section Moved

theorem agrees_api {db' : Db} (filed : Filed w p) (agrees : Agrees w p)
    (write : ApiWrite w.db db' p) (now : w.db.now ≤ db'.now) : Agrees { w with db := db' } p := by
  have dead : ∀ (t : Uuid) (a : Attempt), w.attempts.get t = some a → a.postId = p →
      (∀ job columns, db'.jobs.get (.publish p) = some job → job.state ≠ .running columns) →
      Alive db' a.lease → Fits db' a := by
    intro t a found own idle alive
    obtain ⟨-, -, key, -⟩ := filed.attempt t a found own
    obtain ⟨job, columns, present, running, -⟩ := alive_running alive
    rw [key] at present
    exact absurd running (idle job columns present)
  cases write with
  | created post new drawn row job =>
    refine ⟨?_, fun t a found own alive => ?_⟩
    · intro found present queued
      rw [row] at present
      cases present
      rcases job with ⟨draft, -⟩ | ⟨-, driven⟩
      · rw [draft] at queued
        cases queued
      · obtain ⟨job, after, state, command⟩ := driven.queued
        exact ⟨job, after, by rw [state]; rfl, command⟩
    · obtain ⟨-, -, -, drawn⟩ := filed.attempt t a found own
      rw [new] at drawn
      exact absurd drawn (Nat.lt_irrefl _)
  | edited old new before after editable revision job =>
    cases job with
    | drafted was becomes job =>
      have notQueued : new.state ≠ .queued := by
        rcases becomes with draft | cancelled <;> simp [*]
      refine ⟨?_, fun t a found own alive => ?_⟩
      · intro found present queued
        rw [after] at present
        cases present
        exact absurd queued notQueued
      · obtain ⟨-, -, key, -⟩ := filed.attempt t a found own
        have was' := alive_of_same (by rw [key, job]) now alive
        subst own
        exact fits_of_drafted before after was notQueued job (agrees.fits t a found rfl was')
    | queued becomes driven =>
      refine ⟨?_, fun t a found own => dead t a found own (driven_idle driven)⟩
      intro found present queued
      rw [after] at present
      cases present
      obtain ⟨job, here, state, command⟩ := driven.queued
      exact ⟨job, here, by rw [state]; rfl, command⟩
    | failed was becomes idle kept =>
      refine ⟨?_, fun t a found own => dead t a found own ?_⟩
      · intro found present queued
        rw [after] at present
        cases present
        rw [becomes] at queued
        cases queued
      · intro job columns present
        obtain ⟨job', here, state⟩ := kept
        rw [here] at present
        cases present
        simp [state]
    | cancelled becomes idle ended =>
      refine ⟨?_, fun t a found own => dead t a found own ?_⟩
      · intro found present queued
        rw [after] at present
        cases present
        rw [becomes] at queued
        cases queued
      · intro job columns present
        simp [ended job present]

/-- No lease of the post is alive once its job does not run. -/
theorem fits_of_idle {after : World} (filed : Filed w p) (attempts : AttemptsContinue w after p)
    (idle : ∀ job columns, after.db.jobs.get (.publish p) = some job →
      job.state ≠ .running columns)
    (t : Uuid) (a : Attempt) (found : after.attempts.get t = some a) (own : a.postId = p)
    (alive : Alive after.db a.lease) : Fits after.db a := by
  obtain ⟨old, before, same, lease, -⟩ := attempts t a found own
  obtain ⟨-, -, key, -⟩ := filed.attempt t old before same
  obtain ⟨job, columns, present, running, -⟩ := alive_running alive
  rw [lease, key] at present
  exact absurd running (idle job columns present)

theorem released_idle {db db' : Db} {job : Job} {terminal : Bool}
    (released : Released db db' p job terminal) (other : Job) (columns : LeaseColumns)
    (found : db'.jobs.get (.publish p) = some other) : other.state ≠ .running columns := by
  obtain ⟨job', present, -, state⟩ := released.after
  rw [present] at found
  cases found
  rw [state]
  split <;> simp

/-- A release never leaves a queued post without its job: a terminal one of the
    post's own revision fails the post, any other keeps the payload queued. -/
theorem drives_released {db db' : Db} {job : Job} {terminal : Bool} (drives : Drives db p)
    (released : Released db db' p job terminal) : Drives db' p := by
  intro post found queued
  obtain ⟨job', present, command, state⟩ := released.after
  cases released.post with
  | kept same settled =>
    rw [same] at found
    obtain ⟨driver, here, -, payload⟩ := drives post found queued
    rw [released.found] at here
    cases here
    cases terminal with
    | true => exact absurd payload ((settled rfl post found).2 queued)
    | false => exact ⟨job', present, by rw [state]; rfl, by rw [command, payload]⟩
  | failed old new write was ended becomes =>
    rw [write.after] at found
    cases found
    rw [becomes] at queued
    cases queued
  | unknown old new write was ended becomes =>
    rw [write.after] at found
    cases found
    rw [becomes] at queued
    cases queued

theorem agrees_released {db' : Db} {job : Job} {terminal : Bool} {after : World}
    (filed : Filed w p) (agrees : Agrees w p) (released : Released w.db db' p job terminal)
    (store : after.db = db') (attempts : AttemptsContinue w after p) : Agrees after p := by
  refine ⟨?_, fits_of_idle filed attempts ?_⟩
  · rw [store]
    exact drives_released agrees.drives released
  · rw [store]
    exact released_idle released

/-- A live attempt is dismissed before it claims, or because the post is
    published: its claim cannot have been taken over. -/
theorem dismissed_cases {db : Db} {attempt : Attempt} {post : Post} (fits : Fits db attempt)
    (found : db.posts.get attempt.postId = some post) (why : attempt.dismissal post) :
    (attempt.phase = .started ∧
        (post.state ≠ .queued ∨ (post.revision : Int) ≠ attempt.expectedRevision)) ∨
      post.state = .published := by
  have kept : ∀ claim, (∃ row, db.posts.get attempt.postId = some row ∧
      holdsClaim row (attempt.publishLease claim) = true) →
      holdsClaim post (attempt.publishLease claim) = false → False := by
    rintro claim ⟨row, present, holds⟩ displaced
    rw [found] at present
    cases present
    rw [holds] at displaced
    cases displaced
  unfold Fits at fits
  unfold Attempt.dismissal at why
  split at why
  · rename_i start
    exact Or.inl ⟨start, why⟩
  · rename_i start
    rw [start] at fits
    obtain ⟨row, present, sending⟩ := fits
    rw [found] at present
    cases present
    rw [why] at sending
    cases sending
  · rename_i claim messageId start
    rw [start] at fits
    rcases why with published | displaced
    · exact Or.inr published
    · exact absurd displaced (kept claim fits)
  · rename_i claim message start
    rw [start] at fits
    obtain ⟨row, present, holds | published⟩ := fits
    · exact absurd why (kept claim ⟨row, present, holds⟩)
    · rw [found] at present
      cases present
      exact Or.inr published
  · rename_i claim state errorClass message start
    rw [start] at fits
    exact absurd why (kept claim fits)
  · rename_i claim errorClass message start
    rw [start] at fits
    exact absurd why (kept claim fits)
  · exact absurd why id

/-- What a live attempt is told by a call that wrote nothing fits its post. -/
theorem fits_turned {db : Db} {attempt : Attempt} {next : Phase} (drives : Drives db attempt.postId)
    (alive : Alive db attempt.lease) (fits : Fits db attempt) (turn : Turn db attempt next) :
    Fits db { attempt with phase := next } := by
  cases turn with
  | interrupted start sending =>
    obtain ⟨post, token, startedAt, found, state⟩ := sending alive
    exact ⟨post, found, by rw [state]; rfl⟩
  | dismissed cause =>
    obtain ⟨post, found, why⟩ := cause alive
    intro other present queued
    have here : db.posts.get attempt.postId = some other := present
    rw [found] at here
    cases here
    rcases dismissed_cases fits found why with ⟨start, unclaimed⟩ | published
    · unfold Fits at fits
      rw [start] at fits
      obtain ⟨job, row, command⟩ := fits
      obtain ⟨driver, row', -, payload⟩ := drives post found queued
      rw [row] at row'
      cases row'
      rw [command] at payload
      simp only [Attempt.command, JobCommand.publishPost.injEq, true_and] at payload
      rcases unclaimed with notQueued | stale
      · exact notQueued queued
      · exact stale payload.symm
    · rw [published] at queued
      cases queued
  | prepared claim request start =>
    unfold Fits at fits
    rw [start] at fits
    exact fits
  | unprepared claim errorClass message start =>
    unfold Fits at fits
    rw [start] at fits
    exact fits
  | postponed claim errorClass message start =>
    unfold Fits at fits
    rw [start] at fits
    exact fits
  | uncommitted claim messageId message start =>
    unfold Fits at fits
    rw [start] at fits
    obtain ⟨post, found, holds⟩ := fits
    exact ⟨post, found, Or.inl holds⟩
  | gaveUp failure kind => trivial

/-- A call that wrote something was made under a live lease. -/
theorem callEffect_alive {db db' : Db} {attempt : Attempt} {next : Phase}
    (effect : CallEffect db attempt db' next) : db' = db ∨ Alive db attempt.lease := by
  cases effect with
  | turned same turn => exact Or.inl same
  | claimed old new startedAt write jobs start alive => exact Or.inr alive
  | reconciled old new write jobs start alive => exact Or.inr alive
  | completed old new claim messageId write jobs start alive => exact Or.inr alive
  | failed old new claim state write jobs start alive => exact Or.inr alive
  | retried old new claim terminal job job' write start current => exact Or.inr ⟨job, current⟩

/-- A call brings no lease of its post to life. -/
theorem alive_before_call {db db' : Db} {attempt : Attempt} {next : Phase} {lease : JobLease}
    (effect : CallEffect db attempt db' next)
    (home : attempt.lease.jobId.key = .publish attempt.postId)
    (key : lease.jobId.key = .publish attempt.postId) (alive : Alive db' lease) :
    Alive db lease := by
  have now := (callEffect_elsewhere effect).now
  cases effect with
  | turned same turn =>
    subst same
    exact alive
  | claimed old new startedAt write jobs => exact alive_of_same (by rw [jobs]) now alive
  | reconciled old new write jobs => exact alive_of_same (by rw [jobs]) now alive
  | completed old new claim messageId write jobs => exact alive_of_same (by rw [jobs]) now alive
  | failed old new claim state write jobs => exact alive_of_same (by rw [jobs]) now alive
  | retried old new claim terminal job job' write start current holds becomes after kept =>
    obtain ⟨found, -, -, held⟩ := lockRunningJob_eq_some.mp current
    obtain ⟨columns, running, -, -, unexpired⟩ := heldBy_eq_true.mp held
    rw [home] at found
    exact alive_of_sameLease (retried_sameLease current kept) (by rw [key, found]) running
      (unexpired.resolve_left (by simp)) (by rw [key, after]) alive

theorem drives_called {db db' : Db} {attempt : Attempt} {next : Phase}
    (drives : Drives db attempt.postId) (effect : CallEffect db attempt db' next) :
    Drives db' attempt.postId := by
  have unqueued : ∀ {new : Post}, db'.posts.get attempt.postId = some new →
      new.state ≠ .queued → Drives db' attempt.postId := by
    intro new after state post found queued
    rw [after] at found
    cases found
    exact absurd queued state
  cases effect with
  | turned same turn =>
    subst same
    exact drives
  | claimed old new startedAt write jobs start alive was becomes =>
    exact unqueued write.after (by simp [becomes])
  | reconciled old new write jobs start alive was becomes =>
    exact unqueued write.after (by simp [becomes])
  | completed old new claim messageId write jobs start alive holds becomes =>
    exact unqueued write.after (by simp [becomes])
  | failed old new claim state write jobs start alive holds outcome becomes =>
    exact unqueued write.after (by rcases outcome with rfl | rfl <;> simp [becomes])
  | retried old new claim terminal job job' write start current holds becomes after kept payload =>
    cases terminal with
    | true => exact unqueued write.after (by simp [becomes])
    | false =>
      intro post found queued
      rw [write.after] at found
      cases found
      obtain ⟨-, -, -, held⟩ := lockRunningJob_eq_some.mp current
      obtain ⟨columns, running, -⟩ := heldBy_eq_true.mp held
      exact ⟨job', after, by rw [kept.1, running]; rfl, payload⟩

theorem fits_called {db db' : Db} {attempt : Attempt} {next : Phase}
    (drives : Drives db attempt.postId) (alive : Alive db attempt.lease) (fits : Fits db attempt)
    (effect : CallEffect db attempt db' next) : Fits db' { attempt with phase := next } := by
  cases effect with
  | turned same turn =>
    subst same
    exact fits_turned drives alive fits turn
  | claimed old new startedAt write jobs start _ was becomes drawn turn =>
    rcases turn with ⟨claim, rfl, post, token, row⟩ | ⟨failure, rfl, -⟩
    · refine ⟨new, write.after, ?_⟩
      simp [holdsClaim, becomes, Attempt.publishLease, row, token]
    · trivial
  | reconciled old new write jobs start _ was becomes turn =>
    rcases turn with rfl | ⟨failure, rfl, -⟩
    · intro post found
      rw [show db'.posts.get attempt.postId = some new from write.after] at found
      cases found
      simp [becomes]
    · trivial
  | completed old new claim messageId write jobs start _ holds becomes turn =>
    rcases turn with rfl | ⟨message, rfl⟩
    · intro post found
      rw [show db'.posts.get attempt.postId = some new from write.after] at found
      cases found
      simp [becomes]
    · exact ⟨new, write.after, Or.inr becomes⟩
  | failed old new claim state write jobs start _ holds outcome becomes turn =>
    obtain ⟨failure, rfl, -⟩ := turn
    trivial
  | retried old new claim terminal job job' write start current holds becomes after kept payload
      now turn =>
    obtain ⟨failure, rfl, -⟩ := turn
    trivial

theorem agrees_called {t : Uuid} {attempt : Attempt} {db' : Db} {next : Phase}
    (filed : Filed w p) (agrees : Agrees w p) (found : w.attempts.get t = some attempt)
    (own : attempt.postId = p) (effect : CallEffect w.db attempt db' next) :
    Agrees (w.advance t attempt db' next) p := by
  obtain ⟨-, -, home, -⟩ := filed.attempt t attempt found own
  subst own
  refine ⟨drives_called agrees.drives effect, ?_⟩
  intro u a present same alive
  simp only [World.advance, Table.get_set] at present
  split at present
  · cases present
    have before := alive_before_call effect home home alive
    exact fits_called agrees.drives before (agrees.fits t attempt found rfl before) effect
  · rename_i ne
    obtain ⟨-, -, key, -⟩ := filed.attempt u a present same
    have before := alive_before_call effect home key alive
    rcases callEffect_alive effect with unchanged | acting
    · subst unchanged
      exact agrees.fits u a present same before
    · exact absurd (alive_unique filed present found same rfl before acting) ne

/-- Answers of Telegram keep the claim and, with it, what the attempt knows. -/
theorem fits_answered {db : Db} {attempt : Attempt} {f : Uuid} {answer : TelegramAnswer}
    {next : Phase}
    (turn : (∃ claim request, attempt.phase = .copying claim request f ∧
        next = afterCopy claim request answer) ∨
      ∃ claim, attempt.phase = .sendingFile claim f ∧ next = afterFile claim answer)
    (fits : Fits db attempt) : Fits db { attempt with phase := next } := by
  have transport : ∀ claim error, (∃ post, db.posts.get attempt.postId = some post ∧
      holdsClaim post (attempt.publishLease claim) = true) →
      Fits db { attempt with phase := afterTransportError claim error } := by
    intro claim error holds
    unfold afterTransportError
    repeat' split
    all_goals exact holds
  unfold Fits at fits
  rcases turn with ⟨claim, request, phase, rfl⟩ | ⟨claim, phase, rfl⟩
  · rw [phase] at fits
    cases answer with
    | sent messageId => exact fits
    | error error =>
      simp only [afterCopy]
      split
      · split <;> exact fits
      · exact transport claim error fits
  · rw [phase] at fits
    cases answer with
    | sent messageId => exact fits
    | error error => exact transport claim error fits

theorem agrees_move (filed : Filed w p) (agrees : Agrees w p) (move : Move w p act w') :
    Agrees w' p := by
  cases move with
  | api write elsewhere => exact agrees_api filed agrees write elsewhere.now
  | renewed job job' columns before running unexpired after same command posts clock =>
    refine ⟨?_, ?_⟩
    · intro post found queued
      simp only [posts] at found
      obtain ⟨driver, present, -, payload⟩ := agrees.drives post found queued
      rw [before] at present
      cases present
      obtain ⟨-, new, -, is, -⟩ := same.holder
      exact ⟨job', after, by rw [is]; rfl, by rw [command, payload]⟩
    · intro t a found own alive
      obtain ⟨-, -, key, -⟩ := filed.attempt t a found own
      have was := alive_of_sameLease same (by rw [key, before]) running unexpired
        (by rw [key, after]) alive
      have fits := agrees.fits t a found own was
      subst own
      refine fits_of_same (by simp only [posts]) ?_ fits
      intro other present
      rw [before] at present
      cases present
      exact ⟨job', after, command⟩
  | pruned job before ended after post posts clock =>
    refine ⟨?_, fits_of_idle filed attemptsContinue_refl ?_⟩
    · intro row found queued
      simp only [posts] at found
      exact absurd queued (post row found)
    · intro other columns found
      rw [after] at found
      cases found
  | recovered job lock released => exact agrees_released filed agrees released rfl attemptsContinue_refl
  | leased job job' lease revision columns before was after running token held payload same posts
      clock =>
    refine ⟨?_, ?_⟩
    · intro post found queued
      simp only [posts] at found
      obtain ⟨driver, present, -, driving⟩ := agrees.drives post found queued
      rw [before] at present
      cases present
      exact ⟨job', after, by rw [running]; rfl, by rw [payload, ← same, driving]⟩
    · intro t a found own alive
      simp only [Table.get_set] at found
      split at found
      · cases found
        exact ⟨job', after, payload⟩
      · rename_i ne
        obtain ⟨named, -, key, -⟩ := filed.attempt t a found own
        obtain ⟨other, columns', present, is, holder⟩ := alive_running alive
        rw [key, after] at present
        cases present
        rw [running] at is
        cases is
        exact absurd (named.symm.trans (holder.symm.trans token)) ne
  | called attempt found own effect => exact agrees_called filed agrees found own effect
  | answered attempt flight answer next found own sent answerable turn =>
    refine ⟨agrees.drives, ?_⟩
    intro u a present same alive
    simp only [World.advance, Table.get_set] at present
    split at present
    · cases present
      exact fits_answered turn (agrees.fits _ attempt found own alive)
    · exact agrees.fits u a present same alive
  | launched attempt claim next found own turn =>
    refine ⟨agrees.drives, ?_⟩
    intro u a present same alive
    simp only [World.launch, Table.get_set] at present
    split at present
    · cases present
      have fits := agrees.fits _ attempt found own alive
      unfold Fits at fits
      rcases turn with ⟨request, phase, rfl⟩ | ⟨request, phase, rfl⟩ <;>
      · rw [phase] at fits
        exact fits
    · exact agrees.fits u a present same alive
  | landed flight fate sent own pending => exact ⟨agrees.drives, agrees.fits⟩
  | dropped attempt found own =>
    refine ⟨agrees.drives, ?_⟩
    intro u a present same alive
    simp only [World.retire, Table.get_remove] at present
    split at present
    · cases present
    · exact agrees.fits u a present same alive
  | completed attempt job job' found own phase before held after done posts clock =>
    have fits := agrees.fits _ attempt found own (alive_of_heldBy filed found own before held)
    unfold Fits at fits
    rw [phase, own] at fits
    refine ⟨?_, fits_of_idle filed attemptsContinue_retire ?_⟩
    · intro post present queued
      simp only [World.retire, posts] at present
      exact absurd queued (fits post present)
    · intro other columns present
      rw [show (w.retire _ _).db.jobs.get (.publish p) = some job' from after] at present
      cases present
      simp [done]
  | settled attempt failure settlement job found own phase asks lock released =>
    exact agrees_released filed agrees released rfl attemptsContinue_retire
  | stopped attempt job found own applied lock released =>
    exact agrees_released filed agrees released rfl attemptsContinue_retire

end Moved

theorem agrees_initial (p : Uuid) : Agrees initial p := by
  refine ⟨?_, ?_⟩
  · intro post found
    cases found
  · intro t a found
    cases found

/-- Every run keeps every post and its job in agreement. -/
theorem run_agrees {calendar : Calendar} {allowed : World → Action → Prop} {acts : List Action}
    (run : Run (step calendar) allowed initial acts w) (p : Uuid) : Filed w p ∧ Agrees w p :=
  run_posts Agrees agrees_bystander (fun filed agrees _ move => agrees_move filed agrees move)
    filed_initial agrees_initial run p

end Sooqa.Publisher
