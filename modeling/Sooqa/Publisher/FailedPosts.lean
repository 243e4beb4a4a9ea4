import Sooqa.Publisher.Revision

/-!
Failed posts and their jobs. `fail_publish` commits the failed post while its
job still runs; the job is settled in a later transaction. A shutdown or a
recovery in between with attempts left puts the job back into the queue, the
next attempt finds nothing to claim, and the job ends succeeded under a failed
post. Every other way through the program leaves the job of a failed post
failed, where the API can pick it up again.
-/
namespace Sooqa.Publisher
open Foundation Queue Worker

variable {w w' : World} {p : Uuid} {act : Action}

/-- The step gives the running job of a failed post back to the queue. -/
def RequeuesFailed (w : World) : Action → Prop
  | .shutdown t outcome => outcome.applied = true ∧ ∃ attempt job post,
      w.attempts.get t = some attempt ∧
      lockRunningJob w.db.jobs w.db.now attempt.lease false = some job ∧
      job.attemptCount < job.maxAttempts ∧
      w.db.posts.get attempt.postId = some post ∧ post.state = .failed
  | .recover id _ => ∃ p job post, id.key = .publish p ∧
      lockExpiredJob w.db.jobs w.db.now id = some job ∧ job.attemptCount < job.maxAttempts ∧
      w.db.posts.get p = some post ∧ post.state = .failed
  | _ => False

/-- The steps that give a running job back to the queue. -/
def Action.givesBack : Action → Bool
  | .shutdown _ _ | .recover _ _ => true
  | _ => false

theorem not_requeuesFailed (plain : act.givesBack = false) : ¬ RequeuesFailed w act := by
  intro requeues
  cases act <;> first | exact requeues | cases plain

/-- Phases from which the runner completes or requeues the job. -/
def Phase.leavesJobOpen : Phase → Prop
  | .started | .returned (.ok _) => True
  | .returned (.error failure) => ¬ Ends failure
  | _ => False

/-- A failed post has a failed or running job, and no attempt whose lease holds
    is about to complete or requeue that job. -/
structure Reopenable (w : World) (p : Uuid) : Prop where
  job : ∀ post job, w.db.posts.get p = some post → post.state = .failed →
    w.db.jobs.get (.publish p) = some job →
    job.state = .failed ∨ ∃ columns, job.state = .running columns
  attempt : ∀ t a post, w.attempts.get t = some a → a.postId = p → Alive w.db a.lease →
    a.phase.leavesJobOpen → w.db.posts.get p = some post → post.state ≠ .failed

theorem reopenable_bystander {q : Uuid} (filed : Filed w q) (same : Bystander w w' q)
    (safe : Reopenable w q) : Reopenable w' q where
  job := by
    intro post job found failed present
    rw [same.post] at found
    rw [same.job] at present
    exact safe.job post job found failed present
  attempt := by
    intro t a post found own alive phase row
    have before := (same.attempts t a own).mp found
    obtain ⟨-, -, key, -⟩ := filed.attempt t a before own
    rw [same.post] at row
    exact safe.attempt t a post before own
      (alive_of_same (by rw [key, same.job]) same.now alive) phase row

section Moved

/-- A job that does not run is held by nobody. -/
theorem reopenable_of_idle {after : World} (filed : Filed w p)
    (attempts : AttemptsContinue w after p)
    (job : ∀ post job, after.db.posts.get p = some post → post.state = .failed →
      after.db.jobs.get (.publish p) = some job → job.state = .failed)
    (idle : ∀ job columns, after.db.jobs.get (.publish p) = some job →
      job.state ≠ .running columns) : Reopenable after p := by
  refine ⟨fun post row found failed present => Or.inl (job post row found failed present), ?_⟩
  intro t a post found own alive
  obtain ⟨old, before, same, lease, -⟩ := attempts t a found own
  obtain ⟨-, -, key, -⟩ := filed.attempt t old before same
  obtain ⟨row, columns, present, running, -⟩ := alive_running alive
  rw [lease, key] at present
  exact absurd running (idle row columns present)

theorem reopenable_of_unfailed {after : World} {post : Post}
    (found : after.db.posts.get p = some post) (state : post.state ≠ .failed) :
    Reopenable after p := by
  refine ⟨?_, ?_⟩
  · intro other job present failed
    rw [found] at present
    cases present
    exact absurd failed state
  · intro t a other _ _ _ _ present
    rw [found] at present
    cases present
    exact state

theorem reopenable_api {db' : Db} (filed : Filed w p) (write : ApiWrite w.db db' p) :
    Reopenable { w with db := db' } p := by
  cases write with
  | created post new drawn row job =>
    refine reopenable_of_unfailed row ?_
    rcases job with ⟨state, -⟩ | ⟨state, -⟩ <;> simp [state]
  | edited old new before after editable revision job =>
    cases job with
    | drafted was becomes job =>
      refine reopenable_of_unfailed after ?_
      rcases becomes with state | state <;> simp [state]
    | queued becomes driven => exact reopenable_of_unfailed after (by simp [becomes])
    | failed was becomes idle kept =>
      obtain ⟨job, present, state⟩ := kept
      refine reopenable_of_idle filed attemptsContinue_refl ?_ ?_
      · intro post row _ _ here
        rw [show db'.jobs.get (.publish p) = some row from here] at present
        cases present
        exact state
      · intro row columns here
        rw [show db'.jobs.get (.publish p) = some row from here] at present
        cases present
        simp [state]
    | cancelled becomes idle ended => exact reopenable_of_unfailed after (by simp [becomes])

/-- A release is harmless when it is terminal or its post has not failed. -/
theorem reopenable_released {db' : Db} {job : Job} {terminal : Bool} {after : World}
    (filed : Filed w p) (released : Released w.db db' p job terminal) (store : after.db = db')
    (attempts : AttemptsContinue w after p)
    (ends : ∀ post, w.db.posts.get p = some post → post.state = .failed → terminal = true) :
    Reopenable after p := by
  obtain ⟨job', present, -, state⟩ := released.after
  refine reopenable_of_idle filed attempts ?_ ?_
  · intro post row found failed here
    rw [store] at here found
    rw [present] at here
    cases here
    have terminated : terminal = true := by
      cases released.post with
      | kept same settled =>
        rw [same] at found
        exact ends post found failed
      | failed old new write was ended becomes => exact ended
      | unknown old new write was ended becomes => exact ended
    rw [state, terminated]
    rfl
  · rw [store]
    exact released_idle released

/-- What an open attempt finds when it writes nothing is not a failed post. -/
theorem unfailed_turned {db : Db} {attempt : Attempt} {next : Phase} {post : Post}
    (found : db.posts.get attempt.postId = some post) (alive : Alive db attempt.lease)
    (fits : Fits db attempt) (turn : Turn db attempt next) (phase : next.leavesJobOpen)
    (started : attempt.phase = .started → post.state ≠ .failed) : post.state ≠ .failed := by
  have interrupted : attempt.phase = .interrupted → post.state ≠ .failed := by
    intro start failed
    unfold Fits at fits
    rw [start] at fits
    obtain ⟨row, present, sending⟩ := fits
    rw [found] at present
    cases present
    rw [failed] at sending
    cases sending
  cases turn with
  | interrupted start sends => exact absurd phase id
  | dismissed cause =>
    obtain ⟨row, present, why⟩ := cause alive
    rw [found] at present
    cases present
    rcases dismissed_cases fits found why with ⟨start, -⟩ | published
    · exact started start
    · simp [published]
  | prepared claim request start => exact absurd phase id
  | unprepared claim errorClass message start => exact absurd phase id
  | postponed claim errorClass message start => exact absurd phase id
  | uncommitted claim messageId message start => exact absurd phase id
  | gaveUp failure kind =>
    rcases kind with ends | ⟨-, start | start⟩
    · exact absurd ends phase
    · exact started start
    · exact interrupted start

theorem reopenable_called {t : Uuid} {attempt : Attempt} {db' : Db} {next : Phase}
    (filed : Filed w p) (agrees : Agrees w p) (safe : Reopenable w p)
    (found : w.attempts.get t = some attempt) (own : attempt.postId = p)
    (effect : CallEffect w.db attempt db' next) : Reopenable (w.advance t attempt db' next) p := by
  obtain ⟨-, -, home, -⟩ := filed.attempt t attempt found own
  subst own
  -- the job of a post written by a live attempt keeps running under its lease
  have others : ∀ u a, w.attempts.get u = some a → a.postId = attempt.postId → u ≠ t →
      Alive db' a.lease → ¬ Alive w.db attempt.lease := by
    intro u a present same ne alive acting
    obtain ⟨-, -, key, -⟩ := filed.attempt u a present same
    exact ne (alive_unique filed present found same rfl
      (alive_before_call effect home key alive) acting)
  have ending : ∀ {new : Post} {failure : HandlerFailure},
      db'.posts.get attempt.postId = some new → Alive w.db attempt.lease →
      next = .returned (.error failure) → (Ends failure ∨ new.state ≠ .failed) →
      (∀ job, db'.jobs.get (.publish attempt.postId) = some job →
        ∃ columns, job.state = .running columns) →
      Reopenable (w.advance t attempt db' next) attempt.postId := by
    intro new failure after acting turn closes running
    refine ⟨fun post job _ _ present => Or.inr (running job present), ?_⟩
    intro u a post present same alive phase row
    simp only [World.advance, after, Option.some.injEq] at row
    subst row
    simp only [World.advance, Table.get_set] at present
    split at present
    · cases present
      rw [turn] at phase
      exact closes.resolve_left phase
    · rename_i ne
      exact absurd acting (others u a present same ne alive)
  have runs : Alive w.db attempt.lease → ∀ job,
      w.db.jobs.get (.publish attempt.postId) = some job → ∃ columns, job.state = .running columns := by
    intro alive job present
    obtain ⟨row, columns, here, running, -⟩ := alive_running alive
    rw [home, present] at here
    cases here
    exact ⟨columns, running⟩
  cases effect with
  | turned same turn =>
    subst same
    refine ⟨safe.job, ?_⟩
    intro u a post present same alive phase row
    simp only [World.advance, Table.get_set] at present
    split at present
    · cases present
      refine unfailed_turned row alive (agrees.fits t attempt found rfl alive) turn phase ?_
      intro start
      exact safe.attempt t attempt post found rfl alive (by rw [start]; trivial) row
    · exact safe.attempt u a post present same alive phase row
  | claimed old new startedAt write jobs start alive was becomes =>
    exact reopenable_of_unfailed write.after (by simp [becomes])
  | reconciled old new write jobs start alive was becomes =>
    exact reopenable_of_unfailed write.after (by simp [becomes])
  | completed old new claim messageId write jobs start alive holds becomes =>
    exact reopenable_of_unfailed write.after (by simp [becomes])
  | failed old new claim state write jobs start alive holds outcome becomes turn =>
    obtain ⟨failure, rfl, ends⟩ := turn
    exact ending write.after alive rfl (Or.inl ends) (by rw [jobs]; exact runs alive)
  | retried old new claim terminal job job' write start current holds becomes after kept payload
      now turn =>
    obtain ⟨failure, rfl, kind⟩ := turn
    refine ending write.after ⟨job, current⟩ rfl ?_ ?_
    · rcases kind with ends | ⟨-, requeued⟩
      · exact Or.inl ends
      · exact Or.inr (by simp [becomes, requeued])
    · intro row present
      rw [after] at present
      cases present
      rw [kept.1]
      exact runs ⟨job, current⟩ job (by rw [← home]; exact (lockRunningJob_eq_some.mp current).1)

/-- An attempt waiting for Telegram does not leave its job open by the answer. -/
theorem answered_closed {attempt : Attempt} {f : Uuid} {answer : TelegramAnswer} {next : Phase}
    (turn : (∃ claim request, attempt.phase = .copying claim request f ∧
        next = afterCopy claim request answer) ∨
      ∃ claim, attempt.phase = .sendingFile claim f ∧ next = afterFile claim answer) :
    ¬ next.leavesJobOpen := by
  have claimed : ∀ {phase : Phase} {claim : PublishClaim}, phase.claim? = some claim →
      ¬ phase.leavesJobOpen := by
    intro phase claim held opened
    cases phase <;> simp_all [Phase.claim?, Phase.leavesJobOpen]
  rcases turn with ⟨claim, request, -, rfl⟩ | ⟨claim, -, rfl⟩
  · exact claimed (afterCopy_claim claim request answer)
  · exact claimed (afterFile_claim claim answer)

theorem reopenable_move (filed : Filed w p) (agrees : Agrees w p) (safe : Reopenable w p)
    (allowed : ¬ RequeuesFailed w act) (move : Move w p act w') : Reopenable w' p := by
  cases move with
  | api write elsewhere => exact reopenable_api filed write
  | renewed job job' columns before running unexpired after same command posts clock =>
    obtain ⟨-, new, -, is, -⟩ := same.holder
    refine ⟨?_, ?_⟩
    · intro post row _ _ present
      rw [after] at present
      cases present
      exact Or.inr ⟨new, is⟩
    · intro t a post found own alive phase row
      obtain ⟨-, -, key, -⟩ := filed.attempt t a found own
      have was := alive_of_sameLease same (by rw [key, before]) running unexpired
        (by rw [key, after]) alive
      simp only [posts] at row
      exact safe.attempt t a post found own was phase row
  | pruned job before ended after post posts clock =>
    refine reopenable_of_idle filed attemptsContinue_refl ?_ ?_
    · intro row other _ _ present
      rw [after] at present
      cases present
    · intro other columns present
      rw [after] at present
      cases present
  | recovered job lock released =>
    refine reopenable_released filed released rfl attemptsContinue_refl ?_
    intro post found failed
    obtain ⟨-, named, -⟩ := lockExpiredJob_eq_some.mp lock
    have key := named ▸ Jobs.get_key w.db.jobs released.found
    rw [decide_eq_true_eq]
    exact Nat.le_of_not_lt (fun left => allowed ⟨p, job, post, key, lock, left, found, failed⟩)
  | leased job job' lease revision columns before was after running token held payload same posts
      clock =>
    have unfailed : ∀ post, w.db.posts.get p = some post → post.state ≠ .failed := by
      intro post found failed
      rcases safe.job post job found failed before with state | ⟨other, state⟩ <;>
      · rw [was] at state
        cases state
    refine ⟨?_, ?_⟩
    · intro post row _ _ present
      rw [after] at present
      cases present
      exact Or.inr ⟨columns, running⟩
    · intro t a post found own alive phase row
      simp only [posts] at row
      exact unfailed post row
  | called attempt found own effect => exact reopenable_called filed agrees safe found own effect
  | answered attempt flight answer next found own sent answerable turn =>
    refine ⟨safe.job, ?_⟩
    intro u a post present same alive phase row
    simp only [World.advance, Table.get_set] at present
    split at present
    · cases present
      exact absurd phase (answered_closed turn)
    · exact safe.attempt u a post present same alive phase row
  | launched attempt claim next found own turn =>
    refine ⟨safe.job, ?_⟩
    intro u a post present same alive phase row
    simp only [World.launch, Table.get_set] at present
    split at present
    · cases present
      rcases turn with ⟨request, -, rfl⟩ | ⟨request, -, rfl⟩ <;> exact absurd phase id
    · exact safe.attempt u a post present same alive phase row
  | landed flight fate sent own pending => exact ⟨safe.job, safe.attempt⟩
  | dropped attempt found own =>
    refine ⟨safe.job, ?_⟩
    intro u a post present same alive phase row
    simp only [World.retire, Table.get_remove] at present
    split at present
    · cases present
    · exact safe.attempt u a post present same alive phase row
  | completed attempt job job' found own phase before held after done posts clock =>
    have unfailed := fun post => safe.attempt _ attempt post found own
      (alive_of_heldBy filed found own before held) (by rw [phase]; trivial)
    refine reopenable_of_idle filed attemptsContinue_retire ?_ ?_
    · intro post other present failed _
      simp only [World.retire, posts] at present
      exact absurd failed (unfailed post present)
    · intro other columns present
      rw [show (w.retire _ _).db.jobs.get (.publish p) = some job' from after] at present
      cases present
      simp [done]
  | settled attempt failure settlement job found own phase asks lock released =>
    refine reopenable_released filed released rfl attemptsContinue_retire ?_
    intro post present failed
    rcases filed.failure _ attempt failure found own phase with
      ⟨errorClass, message, rfl⟩ | ⟨errorClass, message, rfl⟩
    · simp only [finishSettlement, HandlerFailure.permanent, Bool.false_eq_true, if_false,
        Option.some.injEq] at asks
      rw [← asks]
      rfl
    · simp only [finishSettlement, HandlerFailure.retryableFailure, Bool.false_eq_true, if_false,
        if_true, Option.some.injEq] at asks
      rw [← asks] at lock
      refine absurd failed (safe.attempt _ attempt post found own ⟨job, lock⟩ ?_ present)
      rw [phase]
      rintro ⟨errorClass, message, same⟩
      cases same
  | stopped attempt job found own applied lock released =>
    refine reopenable_released filed released rfl attemptsContinue_retire ?_
    intro post present failed
    rw [decide_eq_true_eq]
    exact Nat.le_of_not_lt (fun left =>
      allowed ⟨applied, attempt, job, post, found, lock, left, by rw [own]; exact present, failed⟩)

end Moved

theorem reopenable_initial (p : Uuid) : Reopenable initial p := by
  refine ⟨?_, ?_⟩
  · intro post job found
    cases found
  · intro t a post found
    cases found

/-- No queued or failed post has its job in a state the API refuses. -/
def JobsAgree (w : World) : Prop :=
  ∀ p post job, w.db.posts.get p = some post → (post.state = .queued ∨ post.state = .failed) →
    w.db.jobs.get (.publish p) = some job → job.state ≠ .succeeded ∧ job.state ≠ .cancelled

/-- A failed post whose job does not run can be rescheduled, edited and
    cancelled: none of the three job updates refuses. -/
def FailedPostsReopen (w : World) : Prop :=
  ∀ p post, w.db.posts.get p = some post → post.state = .failed →
    (∀ job columns, w.db.jobs.get (.publish p) = some job → job.state ≠ .running columns) →
    ∀ runAt revision, (∃ db', updatePublishJob w.db p runAt revision = .ok db') ∧
      (∃ db', updateFailedPublishJob w.db p runAt revision = .ok db') ∧
      ∃ db', cancelPublishJob w.db p = .ok db'

theorem jobUpdates_of_failed {db : Db}
    (state : ∀ job, db.jobs.get (.publish p) = some job → job.state = .failed)
    (runAt : Time) (revision : Nat) :
    (∃ db', updatePublishJob db p runAt revision = .ok db') ∧
      (∃ db', updateFailedPublishJob db p runAt revision = .ok db') ∧
      ∃ db', cancelPublishJob db p = .ok db' := by
  cases found : db.jobs.get (.publish p) with
  | none =>
    simp [updatePublishJob, updateFailedPublishJob, cancelPublishJob, insertPublishJobRow, found]
  | some job =>
    simp [updatePublishJob, updateFailedPublishJob, cancelPublishJob, found, state job found]

/-- As long as no shutdown and no recovery requeues the job of a failed post,
    posts and jobs agree and every failed post stays open to the API. -/
theorem jobs_agree_unless_failed_requeued {calendar : Calendar} {acts : List Action}
    (run : Run (step calendar) (fun w act => ¬ RequeuesFailed w act) initial acts w) :
    JobsAgree w ∧ FailedPostsReopen w := by
  have kept := run_posts (fun w p => Agrees w p ∧ Reopenable w p)
    (fun filed same both => ⟨agrees_bystander filed same both.1,
      reopenable_bystander filed same both.2⟩)
    (fun filed both allowed move => ⟨agrees_move filed both.1 move,
      reopenable_move filed both.1 both.2 allowed move⟩)
    filed_initial (fun p => ⟨agrees_initial p, reopenable_initial p⟩) run
  refine ⟨?_, ?_⟩
  · intro p post job found state present
    rcases state with queued | failed
    · obtain ⟨driver, here, live, -⟩ := (kept p).2.1.drives post found queued
      rw [present] at here
      cases here
      constructor <;> intro ended <;> rw [ended] at live <;> cases live
    · rcases (kept p).2.2.job post job found failed present with state | ⟨columns, state⟩ <;>
        simp [state]
  · intro p post found failed idle runAt revision
    refine jobUpdates_of_failed (fun job present => ?_) runAt revision
    rcases (kept p).2.2.job post job found failed present with state | ⟨columns, running⟩
    · exact state
    · exact absurd running (idle job columns present)

/-- Telegram rejects the copy; the post is recorded as failed. -/
def sampleRejection : List Action :=
  sampleIntent ++ [.claimJob "a" (30 * second) 0, .call 2 .answered, .call 2 .answered,
    .dispatch 2, .process 4 .refused, .answer 2 (.error ⟨false, false, false, false, "rejected"⟩),
    .call 2 .answered]

/-- The rejection settled by the worker that recorded it. -/
theorem jobs_agree_after_rejection :
    ∃ w, exec (step sampleCalendar) initial (sampleRejection ++ [.finish 2 .answered]) = some w ∧
      JobsAgree w ∧ FailedPostsReopen w := by
  obtain ⟨w, reached⟩ : ∃ w, exec (step sampleCalendar) initial
      (sampleRejection ++ [.finish 2 .answered]) = some w := ⟨_, rfl⟩
  refine ⟨w, reached, jobs_agree_unless_failed_requeued (run_of_exec_allowed ?_ reached)⟩
  have plain : ∀ a ∈ sampleRejection ++ [.finish 2 .answered], a.givesBack = false := by decide
  intro a member v
  exact not_requeuesFailed (plain a member)

/-- A worker that stops between the failure record and the settlement requeues
    the job; the next attempt completes it, and the failed post is stuck: it
    cannot be rescheduled, edited or cancelled any more. -/
theorem failed_post_keeps_succeeded_job :
    ∃ w, exec (step sampleCalendar) initial (sampleRejection ++ [.shutdown 2 .answered,
        .claimJob "b" (30 * second) 0, .call 5 .answered, .finish 5 .answered]) = some w ∧
      ¬ JobsAgree w ∧ ¬ FailedPostsReopen w := by
  obtain ⟨w, reached⟩ : ∃ w, exec (step sampleCalendar) initial (sampleRejection ++
      [.shutdown 2 .answered, .claimJob "b" (30 * second) 0, .call 5 .answered,
        .finish 5 .answered]) = some w := ⟨_, rfl⟩
  obtain ⟨post, job, found, failed, present, done⟩ : ∃ post job, w.db.posts.get 0 = some post ∧
      post.state = .failed ∧ w.db.jobs.get (.publish 0) = some job ∧ job.state = .succeeded := by
    cases reached
    exact ⟨_, _, rfl, rfl, rfl, rfl⟩
  refine ⟨w, reached, fun agree => ?_, fun reopen => ?_⟩
  · exact (agree 0 post job found (Or.inr failed) present).1 done
  · have idle : ∀ row columns, w.db.jobs.get (.publish 0) = some row →
        row.state ≠ .running columns := by
      intro row columns here
      rw [present] at here
      cases here
      simp [done]
    obtain ⟨⟨db', updated⟩, -⟩ := reopen 0 post found failed idle 0 0
    simp only [updatePublishJob, present, done] at updated
    cases updated

end Sooqa.Publisher
