import Sooqa.Publisher.Effects

/-!
What a database call of a publish attempt can do. A call that writes moves the
post of its attempt and needs the job lease; a call that writes nothing only
turns the attempt, and a lease that still holds says why it was turned.
-/
namespace Sooqa.Publisher
open Foundation Queue Worker

/-- The lease is the current attempt of its job and has not expired. -/
def Alive (db : Db) (lease : JobLease) : Prop :=
  ∃ job, lockCurrentJobAttempt db.jobs db.now lease = some job

structure PostWrite (db db' : Db) (p : Uuid) (old new : Post) : Prop where
  elsewhere : Elsewhere db db' p
  before : db.posts.get p = some old
  after : db'.posts.get p = some new
  revision : new.revision = old.revision + 1

def Delays (failure : HandlerFailure) : Prop :=
  ∃ errorClass message, failure = .retryableFailure errorClass message

def Ends (failure : HandlerFailure) : Prop :=
  ∃ errorClass message, failure = .permanent errorClass message

theorem mapPublisherError_cases (error : Error) :
    Delays (mapPublisherError error) ∨ Ends (mapPublisherError error) := by
  unfold mapPublisherError
  split
  case h_5 => exact Or.inr ⟨_, _, rfl⟩
  all_goals exact Or.inl ⟨_, _, rfl⟩

/-- What an attempt found that made it end without a failure. -/
def Attempt.dismissal (attempt : Attempt) (post : Post) : Prop :=
  match attempt.phase with
  | .started => post.state ≠ .queued ∨ (post.revision : Int) ≠ attempt.expectedRevision
  | .interrupted => post.state.sendToken = none
  | .sent claim _ => post.state = .published ∨ holdsClaim post (attempt.publishLease claim) = false
  | .commitFailed claim _ | .failing claim _ _ _ | .retrying claim _ _ =>
    holdsClaim post (attempt.publishLease claim) = false
  | _ => False

/-- Where a call that wrote nothing can take its attempt. -/
inductive Turn (db : Db) (attempt : Attempt) : Phase → Prop where
  | interrupted (start : attempt.phase = .started)
      (sending : Alive db attempt.lease → ∃ post token startedAt,
        db.posts.get attempt.postId = some post ∧ post.state = .sending token startedAt) :
      Turn db attempt .interrupted
  | dismissed (cause : Alive db attempt.lease →
      ∃ post, db.posts.get attempt.postId = some post ∧ attempt.dismissal post) :
      Turn db attempt (.returned (.ok ()))
  | prepared (claim : PublishClaim) (request : TelegramPublicationRequest)
      (start : attempt.phase = .claimed claim) : Turn db attempt (.prepared claim request)
  | unprepared (claim : PublishClaim) (errorClass message : String)
      (start : attempt.phase = .claimed claim) :
      Turn db attempt (.failing claim .failed errorClass message)
  | postponed (claim : PublishClaim) (errorClass message : String)
      (start : attempt.phase = .claimed claim) :
      Turn db attempt (.retrying claim errorClass message)
  | uncommitted (claim : PublishClaim) (messageId : Int) (message : String)
      (start : attempt.phase = .sent claim messageId) : Turn db attempt (.commitFailed claim message)
  | gaveUp (failure : HandlerFailure)
      (kind : Ends failure ∨
        (Delays failure ∧ (attempt.phase = .started ∨ attempt.phase = .interrupted))) :
      Turn db attempt (.returned (.error failure))

/-- What a database call does to the store and to its attempt. -/
inductive CallEffect (db : Db) (attempt : Attempt) (db' : Db) (next : Phase) : Prop where
  | turned (same : db' = db) (turn : Turn db attempt next)
  | claimed (old new : Post) (startedAt : Time) (write : PostWrite db db' attempt.postId old new)
      (jobs : db'.jobs = db.jobs) (start : attempt.phase = .started)
      (alive : Alive db attempt.lease) (was : old.state = .queued)
      (becomes : new.state = .sending db.fresh startedAt)
      (drawn : db'.fresh = db.fresh + 1)
      (turn : (∃ claim, next = .claimed claim ∧ claim.postId = attempt.postId ∧
          claim.token = db.fresh ∧ claim.post = new) ∨
        ∃ failure, next = .returned (.error failure) ∧ Delays failure)
  | reconciled (old new : Post) (write : PostWrite db db' attempt.postId old new)
      (jobs : db'.jobs = db.jobs) (start : attempt.phase = .interrupted)
      (alive : Alive db attempt.lease) (was : old.state.sendToken.isSome)
      (becomes : new.state = .unknown)
      (turn : next = .returned (.ok ()) ∨
        ∃ failure, next = .returned (.error failure) ∧ Delays failure)
  | completed (old new : Post) (claim : PublishClaim) (messageId : Int)
      (write : PostWrite db db' attempt.postId old new)
      (jobs : db'.jobs = db.jobs) (start : attempt.phase = .sent claim messageId)
      (alive : Alive db attempt.lease)
      (holds : holdsClaim old (attempt.publishLease claim) = true)
      (becomes : new.state = .published)
      (turn : next = .returned (.ok ()) ∨ ∃ message, next = .commitFailed claim message)
  | failed (old new : Post) (claim : PublishClaim) (state : PostState)
      (write : PostWrite db db' attempt.postId old new)
      (jobs : db'.jobs = db.jobs)
      (start : (∃ errorClass message, attempt.phase = .failing claim state errorClass message) ∨
        (state = .unknown ∧ ∃ message, attempt.phase = .commitFailed claim message))
      (alive : Alive db attempt.lease)
      (holds : holdsClaim old (attempt.publishLease claim) = true)
      (outcome : state = .failed ∨ state = .unknown) (becomes : new.state = state)
      (turn : ∃ failure, next = .returned (.error failure) ∧ Ends failure)
  | retried (old new : Post) (claim : PublishClaim) (terminal : Bool) (job job' : Job)
      (write : PostWrite db db' attempt.postId old new)
      (start : ∃ errorClass message, attempt.phase = .retrying claim errorClass message)
      (current : lockCurrentJobAttempt db.jobs db.now attempt.lease = some job)
      (holds : holdsClaim old (attempt.publishLease claim) = true)
      (becomes : new.state = if terminal then .failed else .queued)
      (after : db'.jobs.get (.publish attempt.postId) = some job')
      (kept : job'.state = job.state ∧ job'.id = job.id ∧ job'.attemptCount = job.attemptCount ∧
        job'.maxAttempts = job.maxAttempts)
      (payload : if terminal then job' = job
        else job'.command = .publishPost attempt.postId new.revision)
      (now : db'.now = db.now)
      (turn : ∃ failure, next = .returned (.error failure) ∧
        (Ends failure ∨ (Delays failure ∧ terminal = false)))

section Fence
variable {db : Db} {id : Uuid} {lease : JobLease} {job : Job}

theorem lockPublishAttempt_ok (h : lockPublishAttempt db id lease = .ok job) :
    lockCurrentJobAttempt db.jobs db.now lease = some job ∧
      ∃ revision, job.command = .publishPost id revision := by
  unfold lockPublishAttempt at h
  split at h
  · rename_i found current
    split at h
    · rename_i postId revision command
      split at h
      · rename_i same
        cases h
        exact ⟨current, revision, by rw [command, same]⟩
      · cases h
    · cases h
  · cases h

/-- A lease filed under its post's job is refused only when it is not alive. -/
theorem lockPublishAttempt_error {e : Error} (key : lease.jobId.key = .publish id)
    (h : lockPublishAttempt db id lease = .error e) :
    e = .publishLeaseLost id ∧ ¬ Alive db lease := by
  unfold lockPublishAttempt at h
  split at h
  · rename_i found current
    have row := (lockRunningJob_eq_some.mp current).1
    have owner := Jobs.get_key db.jobs row
    obtain ⟨revision, command⟩ := JobKey.owns_publish (p := id)
      (by rw [← key, ← owner]; exact found.owned)
    rw [command] at h
    simp at h
  · rename_i none
    cases h
    refine ⟨rfl, ?_⟩
    rintro ⟨found, current⟩
    rw [none] at current
    cases current

theorem lockChannelAndPost_error {e : Error} (h : lockChannelAndPost db id = .error e) :
    e = .postMissing id ∨ ∃ channelId, e = .channelMissing channelId := by
  simp only [lockChannelAndPost, bind_error, lockPost, lockChannel] at h
  rcases h with missing | ⟨post, -, missing | ⟨channel, -, done⟩⟩
  · unfold expect at missing
    split at missing
    · cases missing
    · cases missing
      exact Or.inl rfl
  · unfold expect at missing
    split at missing
    · cases missing
    · cases missing
      exact Or.inr ⟨_, rfl⟩
  · cases done

theorem ensureChannelEnabled_error {channel : Channel} {e : Error}
    (h : ensureChannelEnabled id channel = .error e) : e = .channelDisabled id := by
  unfold ensureChannelEnabled at h
  split at h
  · cases h
  · cases h
    rfl

theorem ensureMediaReady_error {e : Error} (h : ensureMediaReady db id = .error e) :
    e = .mediaMissing id ∨ ∃ state, e = .mediaNotReady id state := by
  unfold ensureMediaReady at h
  split at h
  · cases h
    exact Or.inl rfl
  · split at h
    · cases h
    · cases h
      exact Or.inr ⟨_, rfl⟩

theorem nextRevision_error {current : Nat} {e : Error} (h : nextRevision current = .error e) :
    e = .revisionOverflow := by
  unfold nextRevision at h
  split at h
  · cases h
  · cases h
    rfl

theorem databaseIncrement_error {limit current : Nat} {e : Error}
    (h : databaseIncrement limit current = .error e) : e = .database := by
  unfold databaseIncrement at h
  split at h
  · cases h
  · cases h
    rfl

theorem bumpRevision_error {current : Nat} {e : Error} (h : bumpRevision current = .error e) :
    e = .database := databaseIncrement_error h

end Fence

/-- A database call either committed its transaction or changed nothing. -/
theorem callStep_cases {α : Type} {db db' : Db} {outcome : CallOutcome}
    {result : Except Error (Db × α)} {after : Except Error α → Phase} {next : Phase}
    (h : callStep db outcome result after = (db', next)) :
    (∃ x, result = .ok (db', x) ∧ (next = after (.ok x) ∨ next = after (.error .database))) ∨
      (db' = db ∧
        (next = after (.error .database) ∨ ∃ e, result = .error e ∧ next = after (.error e))) := by
  cases outcome with
  | notApplied =>
    simp only [callStep, Prod.mk.injEq] at h
    exact Or.inr ⟨h.1.symm, Or.inl h.2.symm⟩
  | answered =>
    simp only [callStep, Prod.mk.injEq] at h
    obtain ⟨store, phase⟩ := h
    cases result with
    | error e => exact Or.inr ⟨store.symm, Or.inr ⟨e, rfl, phase.symm⟩⟩
    | ok pair =>
      obtain ⟨written, x⟩ := pair
      have same : written = db' := store
      exact Or.inl ⟨x, by rw [same], Or.inl phase.symm⟩
  | answerLost =>
    simp only [callStep, Prod.mk.injEq] at h
    obtain ⟨store, phase⟩ := h
    cases result with
    | error e => exact Or.inr ⟨store.symm, Or.inl phase.symm⟩
    | ok pair =>
      obtain ⟨written, x⟩ := pair
      have same : written = db' := store
      exact Or.inl ⟨x, by rw [same], Or.inr phase.symm⟩

section Operations
variable {db db' : Db} {attempt : Attempt} {outcome : CallOutcome} {next : Phase}

theorem postWrite_setPost {p : Uuid} {old : Post} (new : Post) (before : db.posts.get p = some old)
    (revision : new.revision = old.revision + 1) : PostWrite db (setPost db p new) p old new :=
  ⟨elsewhere_setPost new, before, Table.get_set_self _ _ _, revision⟩

theorem gaveUp_mapped (start : attempt.phase = .started ∨ attempt.phase = .interrupted)
    (error : Error) : Turn db attempt (.returned (.error (mapPublisherError error))) := by
  rcases mapPublisherError_cases error with delays | ends
  · exact .gaveUp _ (Or.inr ⟨delays, start⟩)
  · exact .gaveUp _ (Or.inl ends)

theorem claimPublish_ok {id : Uuid} {expectedRevision : Int} {lease : JobLease}
    {claim : PublishClaim}
    (h : claimPublish db id expectedRevision lease = .ok (db', claim)) :
    ∃ old new startedAt, PostWrite db db' id old new ∧ db'.jobs = db.jobs ∧ Alive db lease ∧
      old.state = .queued ∧ new.state = .sending db.fresh startedAt ∧
      db'.fresh = db.fresh + 1 ∧ claim.postId = id ∧ claim.token = db.fresh ∧
      claim.post = new := by
  simp only [claimPublish, bind_ok, require_ok, pure_ok, Prod.mk.injEq] at h
  obtain ⟨⟨channel, current⟩, locked, job, fence, _, queued, _, -, _, -, _, -, revision, next,
    generation, -, written, answer⟩ := h
  have before := lockChannelAndPost_ok locked
  have write := postWrite_setPost { current with
    state := .sending db.fresh db.now
    sendGeneration := generation
    revision := revision
    updatedAt := db.now } before (nextRevision_ok next)
  subst written
  subst answer
  refine ⟨current, _, db.now, ⟨⟨write.elsewhere.posts, write.elsewhere.jobs, write.elsewhere.now,
    Nat.le_succ _⟩, before, write.after, write.revision⟩, rfl,
    ⟨job, (lockPublishAttempt_ok fence).1⟩, queued, rfl, rfl, rfl, rfl, rfl⟩

theorem claimPublish_error {e : Error} (key : attempt.lease.jobId.key = .publish attempt.postId)
    (start : attempt.phase = .started)
    (h : claimPublish db attempt.postId attempt.expectedRevision attempt.lease = .error e) :
    Turn db attempt (afterClaim (.error e)) := by
  have mapped : ∀ error, afterClaim (.error error) = .returned (.error (mapPublisherError error)) →
      Turn db attempt (afterClaim (.error error)) := by
    intro error same
    rw [same]
    exact gaveUp_mapped (Or.inl start) error
  simp only [claimPublish, bind_error, require_error, require_ok] at h
  rcases h with missing | ⟨⟨channel, current⟩, locked, h⟩
  · rcases lockChannelAndPost_error missing with rfl | ⟨channelId, rfl⟩ <;> exact mapped _ rfl
  have before := lockChannelAndPost_ok locked
  rcases h with lost | ⟨job, fence, h⟩
  · obtain ⟨rfl, dead⟩ := lockPublishAttempt_error key lost
    exact .dismissed (fun alive => absurd alive dead)
  rcases h with ⟨notQueued, rfl⟩ | ⟨_, queued, h⟩
  · simp only at notQueued
    have dismissed : Turn db attempt (.returned (.ok ())) := by
      refine .dismissed (fun _ => ⟨current, before, ?_⟩)
      simp only [Attempt.dismissal, start]
      exact Or.inl notQueued
    cases state : current.state with
    | sending token startedAt =>
      exact .interrupted start (fun _ => ⟨current, token, startedAt, before, state⟩)
    | draft => exact dismissed
    | queued => exact dismissed
    | published => exact dismissed
    | unknown => exact dismissed
    | failed => exact dismissed
    | cancelled => exact dismissed
  rcases h with ⟨stale, rfl⟩ | ⟨_, fresh, h⟩
  · refine .dismissed (fun _ => ⟨current, before, ?_⟩)
    simp only [Attempt.dismissal, start]
    exact Or.inr stale
  rcases h with disabled | ⟨_, enabled, h⟩
  · rw [ensureChannelEnabled_error disabled]
    exact mapped _ rfl
  rcases h with notReady | ⟨_, ready, h⟩
  · rcases ensureMediaReady_error notReady with rfl | ⟨state, rfl⟩ <;> exact mapped _ rfl
  rcases h with overflow | ⟨revision, -, h⟩
  · rw [nextRevision_error overflow]
    exact mapped _ rfl
  rcases h with overflow | ⟨generation, -, done⟩
  · rw [databaseIncrement_error overflow]
    exact mapped _ rfl
  · cases done

theorem claim_effect (key : attempt.lease.jobId.key = .publish attempt.postId)
    (start : attempt.phase = .started)
    (h : callStep db outcome
      (claimPublish db attempt.postId attempt.expectedRevision attempt.lease) afterClaim =
        (db', next)) : CallEffect db attempt db' next := by
  rcases callStep_cases h with ⟨claim, ok, turn⟩ | ⟨same, turn⟩
  · obtain ⟨old, new, startedAt, write, jobs, alive, was, becomes, drawn, post, token, row⟩ :=
      claimPublish_ok ok
    refine .claimed old new startedAt write jobs start alive was becomes drawn ?_
    rcases turn with rfl | rfl
    · exact Or.inl ⟨claim, rfl, post, token, row⟩
    · exact Or.inr ⟨_, rfl, _, _, rfl⟩
  · refine .turned same ?_
    rcases turn with rfl | ⟨e, failed, rfl⟩
    · exact gaveUp_mapped (Or.inl start) .database
    · exact claimPublish_error key start failed

theorem reconcileInterruptedPublish_ok {id : Uuid} {lease : JobLease} {found : Bool}
    (h : reconcileInterruptedPublish db id lease = .ok (db', found)) :
    Alive db lease ∧ ∃ old, db.posts.get id = some old ∧
      ((db' = db ∧ old.state.sendToken = none) ∨
        ∃ new, PostWrite db db' id old new ∧ db'.jobs = db.jobs ∧
          old.state.sendToken.isSome ∧ new.state = .unknown) := by
  simp only [reconcileInterruptedPublish, bind_ok] at h
  obtain ⟨⟨channel, current⟩, locked, job, fence, h⟩ := h
  have before := lockChannelAndPost_ok locked
  refine ⟨⟨job, (lockPublishAttempt_ok fence).1⟩, current, before, ?_⟩
  split at h
  · rename_i token startedAt state
    simp only [bind_ok, pure_ok, Prod.mk.injEq] at h
    obtain ⟨revision, next, rfl, -⟩ := h
    refine Or.inr ⟨_, postWrite_setPost _ before (bumpRevision_ok next), rfl, ?_, rfl⟩
    simp only at state
    rw [state]
    rfl
  · rename_i notSending
    simp only [pure_ok, Prod.mk.injEq] at h
    obtain ⟨rfl, -⟩ := h
    refine Or.inl ⟨rfl, ?_⟩
    unfold PostState.sendToken
    split
    · rename_i token startedAt state
      exact absurd state (notSending token startedAt)
    · rfl

theorem reconcileInterruptedPublish_error {e : Error}
    (key : attempt.lease.jobId.key = .publish attempt.postId)
    (start : attempt.phase = .interrupted)
    (h : reconcileInterruptedPublish db attempt.postId attempt.lease = .error e) :
    Turn db attempt (afterReconcile (.error e)) := by
  have mapped : ∀ error,
      afterReconcile (.error error) = .returned (.error (mapPublisherError error)) →
      Turn db attempt (afterReconcile (.error error)) := by
    intro error same
    rw [same]
    exact gaveUp_mapped (Or.inr start) error
  simp only [reconcileInterruptedPublish, bind_error] at h
  rcases h with missing | ⟨⟨channel, current⟩, locked, lost | ⟨job, fence, h⟩⟩
  · rcases lockChannelAndPost_error missing with rfl | ⟨channelId, rfl⟩ <;> exact mapped _ rfl
  · obtain ⟨rfl, dead⟩ := lockPublishAttempt_error key lost
    exact .dismissed (fun alive => absurd alive dead)
  · split at h
    · simp only [bind_error] at h
      rcases h with overflow | ⟨revision, -, done⟩
      · rw [bumpRevision_error overflow]
        exact mapped _ rfl
      · cases done
    · cases h

theorem reconcile_effect (key : attempt.lease.jobId.key = .publish attempt.postId)
    (start : attempt.phase = .interrupted)
    (h : callStep db outcome
      (reconcileInterruptedPublish db attempt.postId attempt.lease) afterReconcile =
        (db', next)) : CallEffect db attempt db' next := by
  rcases callStep_cases h with ⟨found, ok, turn⟩ | ⟨same, turn⟩
  · obtain ⟨alive, old, before, ⟨same, idle⟩ | ⟨new, write, jobs, was, becomes⟩⟩ :=
      reconcileInterruptedPublish_ok ok
    · refine .turned same ?_
      rcases turn with rfl | rfl
      · refine .dismissed (fun _ => ⟨old, before, ?_⟩)
        simp only [Attempt.dismissal, start]
        exact idle
      · exact gaveUp_mapped (Or.inr start) .database
    · refine .reconciled old new write jobs start alive was becomes ?_
      rcases turn with rfl | rfl
      · exact Or.inl rfl
      · exact Or.inr ⟨_, rfl, _, _, rfl⟩
  · refine .turned same ?_
    rcases turn with rfl | ⟨e, failed, rfl⟩
    · exact gaveUp_mapped (Or.inr start) .database
    · exact reconcileInterruptedPublish_error key start failed

theorem receipt_turn {claim : PublishClaim} (start : attempt.phase = .claimed claim)
    (result : Except ReceiptError (Option StorageReceipt)) :
    Turn db attempt (afterReceipt claim result) := by
  unfold afterReceipt
  split
  · exact .prepared claim _ start
  · exact .unprepared claim _ _ start
  · exact .postponed claim _ _ start
  · exact .unprepared claim _ _ start

theorem completePublish_ok {id : Uuid} {lease : PublishLease} {messageId : Int} {post : Post}
    (h : completePublish db id lease messageId = .ok (db', post)) :
    Alive db lease.attempt ∧ ∃ old, db.posts.get id = some old ∧
      ((db' = db ∧ old.state = .published) ∨
        ∃ new, PostWrite db db' id old new ∧ db'.jobs = db.jobs ∧ holdsClaim old lease = true ∧
          new.state = .published) := by
  simp only [completePublish, bind_ok] at h
  obtain ⟨_, -, ⟨channel, current⟩, locked, job, fence, h⟩ := h
  have before := lockChannelAndPost_ok locked
  refine ⟨⟨job, (lockPublishAttempt_ok fence).1⟩, current, before, ?_⟩
  split at h
  · rename_i published
    simp only [bind_ok, pure_ok, Prod.mk.injEq] at h
    obtain ⟨_, -, rfl, -⟩ := h
    exact Or.inl ⟨rfl, published⟩
  · simp only [bind_ok, require_ok, pure_ok, Prod.mk.injEq] at h
    obtain ⟨_, holds, revision, next, rfl, -⟩ := h
    exact Or.inr ⟨_, postWrite_setPost _ before (bumpRevision_ok next), rfl, holds, rfl⟩

theorem completePublish_error {e : Error} {claim : PublishClaim} {messageId : Int}
    (key : attempt.lease.jobId.key = .publish attempt.postId)
    (start : attempt.phase = .sent claim messageId)
    (h : completePublish db attempt.postId (attempt.publishLease claim) messageId = .error e) :
    Turn db attempt (afterComplete claim (.error e)) := by
  simp only [completePublish, bind_error, require_error] at h
  rcases h with ⟨-, rfl⟩ | ⟨_, -, missing | ⟨⟨channel, current⟩, locked, lost | ⟨job, fence, h⟩⟩⟩
  · exact .uncommitted claim messageId _ start
  · rcases lockChannelAndPost_error missing with rfl | ⟨channelId, rfl⟩ <;>
      exact .uncommitted claim messageId _ start
  · obtain ⟨rfl, dead⟩ := lockPublishAttempt_error key lost
    exact .dismissed (fun alive => absurd alive dead)
  have before := lockChannelAndPost_ok locked
  split at h
  · rename_i published
    simp only [bind_error, require_error] at h
    rcases h with ⟨-, rfl⟩ | ⟨_, -, done⟩
    · refine .dismissed (fun _ => ⟨current, before, ?_⟩)
      simp only [Attempt.dismissal, start]
      exact Or.inl published
    · cases done
  · simp only [bind_error, require_error] at h
    rcases h with ⟨displaced, rfl⟩ | ⟨_, -, overflow | ⟨revision, -, done⟩⟩
    · refine .dismissed (fun _ => ⟨current, before, ?_⟩)
      simp only [Attempt.dismissal, start]
      exact Or.inr (Bool.not_eq_true _ ▸ displaced)
    · rw [bumpRevision_error overflow]
      exact .uncommitted claim messageId _ start
    · cases done

theorem complete_effect {claim : PublishClaim} {messageId : Int}
    (key : attempt.lease.jobId.key = .publish attempt.postId)
    (start : attempt.phase = .sent claim messageId)
    (h : callStep db outcome
      (completePublish db attempt.postId (attempt.publishLease claim) messageId)
      (afterComplete claim) = (db', next)) : CallEffect db attempt db' next := by
  rcases callStep_cases h with ⟨post, ok, turn⟩ | ⟨same, turn⟩
  · obtain ⟨alive, old, before, ⟨same, published⟩ | ⟨new, write, jobs, holds, becomes⟩⟩ :=
      completePublish_ok ok
    · refine .turned same ?_
      rcases turn with rfl | rfl
      · refine .dismissed (fun _ => ⟨old, before, ?_⟩)
        simp only [Attempt.dismissal, start]
        exact Or.inl published
      · exact .uncommitted claim messageId _ start
    · refine .completed old new claim messageId write jobs start alive holds becomes ?_
      rcases turn with rfl | rfl
      · exact Or.inl rfl
      · exact Or.inr ⟨_, rfl⟩
  · refine .turned same ?_
    rcases turn with rfl | ⟨e, failed, rfl⟩
    · exact .uncommitted claim messageId _ start
    · exact completePublish_error key start failed

theorem failPublish_ok {id : Uuid} {lease : PublishLease} {state : PostState}
    {errorClass errorMessage : String} {post : Post}
    (h : failPublish db id lease state errorClass errorMessage = .ok (db', post)) :
    Alive db lease.attempt ∧ (state = .failed ∨ state = .unknown) ∧
      ∃ old new, PostWrite db db' id old new ∧ db'.jobs = db.jobs ∧
        holdsClaim old lease = true ∧ new.state = state := by
  simp only [failPublish, bind_ok, require_ok, pure_ok, Prod.mk.injEq] at h
  obtain ⟨_, outcome, ⟨channel, current⟩, locked, job, fence, _, holds, revision, next, rfl, -⟩ := h
  have before := lockChannelAndPost_ok locked
  exact ⟨⟨job, (lockPublishAttempt_ok fence).1⟩, outcome, current, _,
    postWrite_setPost _ before (bumpRevision_ok next), rfl, holds, rfl⟩

/-- A refused failure record lost its claim or its lease, or ends the attempt. -/
theorem failPublish_error {e : Error} {claim : PublishClaim} {state : PostState}
    {errorClass errorMessage : String}
    (key : attempt.lease.jobId.key = .publish attempt.postId)
    (h : failPublish db attempt.postId (attempt.publishLease claim) state errorClass errorMessage =
      .error e) :
    (∀ id, e ≠ .publishLeaseLost id) ∨
      (e = .publishLeaseLost attempt.postId ∧ (Alive db attempt.lease →
        ∃ post, db.posts.get attempt.postId = some post ∧
          holdsClaim post (attempt.publishLease claim) = false)) := by
  simp only [failPublish, bind_error, require_error] at h
  rcases h with ⟨-, rfl⟩ | ⟨_, -, missing | ⟨⟨channel, current⟩, locked, lost | ⟨job, fence, h⟩⟩⟩
  · exact Or.inl (by simp)
  · rcases lockChannelAndPost_error missing with rfl | ⟨channelId, rfl⟩ <;> exact Or.inl (by simp)
  · obtain ⟨rfl, dead⟩ := lockPublishAttempt_error key lost
    exact Or.inr ⟨rfl, fun alive => absurd alive dead⟩
  rcases h with ⟨displaced, rfl⟩ | ⟨_, -, overflow | ⟨revision, -, done⟩⟩
  · exact Or.inr ⟨rfl, fun _ =>
      ⟨current, lockChannelAndPost_ok locked, Bool.not_eq_true _ ▸ displaced⟩⟩
  · rw [bumpRevision_error overflow]
    exact Or.inl (by simp)
  · cases done

theorem afterFail_error (errorClass message : String) {e : Error}
    (other : ∀ id, e ≠ .publishLeaseLost id) :
    ∃ failure, afterFail errorClass message (.error e) = .returned (.error failure) ∧
      Ends failure := by
  unfold afterFail
  split
  · rename_i ok
    cases ok
  · rename_i id same
    cases same
    exact absurd rfl (other id)
  · exact ⟨_, rfl, _, _, rfl⟩

theorem afterFence_error (message : String) {e : Error}
    (other : ∀ id, e ≠ .publishLeaseLost id) :
    ∃ failure, afterFence message (.error e) = .returned (.error failure) ∧ Ends failure := by
  unfold afterFence
  split
  · rename_i ok
    cases ok
  · rename_i id same
    cases same
    exact absurd rfl (other id)
  · exact ⟨_, rfl, _, _, rfl⟩

theorem afterRetry_error (errorClass message : String) {e : Error}
    (other : ∀ id, e ≠ .publishLeaseLost id) :
    ∃ failure, afterRetry errorClass message (.error e) = .returned (.error failure) ∧
      Ends failure := by
  unfold afterRetry
  split
  · rename_i ok
    cases ok
  · rename_i id same
    cases same
    exact absurd rfl (other id)
  · exact ⟨_, rfl, _, _, rfl⟩

theorem fail_effect {claim : PublishClaim} {state : PostState} {errorClass message : String}
    (key : attempt.lease.jobId.key = .publish attempt.postId)
    (start : attempt.phase = .failing claim state errorClass message)
    (h : callStep db outcome
      (failPublish db attempt.postId (attempt.publishLease claim) state errorClass message)
      (afterFail errorClass message) = (db', next)) : CallEffect db attempt db' next := by
  have lostAnswer := afterFail_error errorClass message (e := .database) (by simp)
  rcases callStep_cases h with ⟨post, ok, turn⟩ | ⟨same, turn⟩
  · obtain ⟨alive, outcome, old, new, write, jobs, holds, becomes⟩ := failPublish_ok ok
    refine .failed old new claim state write jobs (Or.inl ⟨_, _, start⟩) alive holds outcome
      becomes ?_
    rcases turn with rfl | rfl
    · exact ⟨_, rfl, _, _, rfl⟩
    · exact lostAnswer
  · refine .turned same ?_
    rcases turn with rfl | ⟨e, failed, rfl⟩
    · obtain ⟨failure, same, ends⟩ := lostAnswer
      rw [same]
      exact .gaveUp failure (Or.inl ends)
    · rcases failPublish_error key failed with other | ⟨rfl, displaced⟩
      · obtain ⟨failure, same, ends⟩ := afterFail_error errorClass message other
        rw [same]
        exact .gaveUp failure (Or.inl ends)
      · refine .dismissed (fun alive => ?_)
        simp only [Attempt.dismissal, start]
        exact displaced alive

theorem fence_effect {claim : PublishClaim} {message : String}
    (key : attempt.lease.jobId.key = .publish attempt.postId)
    (start : attempt.phase = .commitFailed claim message)
    (h : callStep db outcome
      (failPublish db attempt.postId (attempt.publishLease claim) .unknown "publication_commit"
        message)
      (afterFence message) = (db', next)) : CallEffect db attempt db' next := by
  have lostAnswer := afterFence_error message (e := .database) (by simp)
  rcases callStep_cases h with ⟨post, ok, turn⟩ | ⟨same, turn⟩
  · obtain ⟨alive, outcome, old, new, write, jobs, holds, becomes⟩ := failPublish_ok ok
    refine .failed old new claim .unknown write jobs (Or.inr ⟨rfl, _, start⟩) alive holds outcome
      becomes ?_
    rcases turn with rfl | rfl
    · exact ⟨_, rfl, _, _, rfl⟩
    · exact lostAnswer
  · refine .turned same ?_
    rcases turn with rfl | ⟨e, failed, rfl⟩
    · obtain ⟨failure, same, ends⟩ := lostAnswer
      rw [same]
      exact .gaveUp failure (Or.inl ends)
    · rcases failPublish_error key failed with other | ⟨rfl, displaced⟩
      · obtain ⟨failure, same, ends⟩ := afterFence_error message other
        rw [same]
        exact .gaveUp failure (Or.inl ends)
      · refine .dismissed (fun alive => ?_)
        simp only [Attempt.dismissal, start]
        exact displaced alive

theorem retryPublish_ok {claim : PublishClaim} {errorClass errorMessage : String}
    {result : PublishRetry} (key : attempt.lease.jobId.key = .publish attempt.postId)
    (h : retryPublish db attempt.postId (attempt.publishLease claim) errorClass errorMessage =
      .ok (db', result)) :
    ∃ old new job job', PostWrite db db' attempt.postId old new ∧
      lockCurrentJobAttempt db.jobs db.now attempt.lease = some job ∧
      holdsClaim old (attempt.publishLease claim) = true ∧
      new.state = (if result.terminal then .failed else .queued) ∧
      db'.jobs.get (.publish attempt.postId) = some job' ∧
      (job'.state = job.state ∧ job'.id = job.id ∧ job'.attemptCount = job.attemptCount ∧
        job'.maxAttempts = job.maxAttempts) ∧
      (if result.terminal then job' = job
        else job'.command = .publishPost attempt.postId new.revision) ∧
      db'.now = db.now := by
  simp only [retryPublish, bind_ok, require_ok] at h
  obtain ⟨⟨channel, current⟩, locked, job, fence, _, holds, revision, next, h⟩ := h
  have before := lockChannelAndPost_ok locked
  obtain ⟨lock, old, command⟩ := lockPublishAttempt_ok fence
  have found := (lockRunningJob_eq_some.mp lock).1
  have owner : job.id.key = .publish attempt.postId := by
    rw [Jobs.get_key db.jobs found]
    exact key
  have write (state : PostState) := postWrite_setPost { current with
    state := state
    errorClass := some errorClass
    errorMessage := some errorMessage
    revision := revision
    updatedAt := db.now } before (nextRevision_ok next)
  split at h
  · rename_i terminal
    simp only [pure_ok, Prod.mk.injEq] at h
    obtain ⟨rfl, rfl⟩ := h
    refine ⟨current, _, job, job, write _, lock, holds, rfl, ?_, ⟨rfl, rfl, rfl, rfl⟩, rfl, rfl⟩
    rw [← key]
    exact found
  · rename_i remaining
    simp only [pure_ok, Prod.mk.injEq] at h
    obtain ⟨rfl, rfl⟩ := h
    refine ⟨current, _, job, editedPublishJob db.now job revision,
      ⟨⟨(write _).elsewhere.posts, ?_, Nat.le_refl _, Nat.le_refl _⟩, before, (write _).after,
        (write .queued).revision⟩, lock, holds, rfl, ?_, ⟨rfl, rfl, rfl, rfl⟩, ?_, rfl⟩
    · intro q ne
      apply Jobs.get_put_ne
      show JobKey.publish q ≠ job.id.key
      rw [owner]
      exact publish_ne ne
    · rw [← owner]
      exact Jobs.get_put_self _ _
    · simp only [Bool.false_eq_true, if_false, editedPublishJob, Job.withRevision, command,
        JobCommand.withRevision]

/-- A refused requeue lost its claim or its lease, or ends the attempt. -/
theorem retryPublish_error {e : Error} {claim : PublishClaim} {errorClass errorMessage : String}
    (key : attempt.lease.jobId.key = .publish attempt.postId)
    (h : retryPublish db attempt.postId (attempt.publishLease claim) errorClass errorMessage =
      .error e) :
    (∀ id, e ≠ .publishLeaseLost id) ∨
      (e = .publishLeaseLost attempt.postId ∧ (Alive db attempt.lease →
        ∃ post, db.posts.get attempt.postId = some post ∧
          holdsClaim post (attempt.publishLease claim) = false)) := by
  simp only [retryPublish, bind_error, require_error] at h
  rcases h with missing | ⟨⟨channel, current⟩, locked, lost | ⟨job, fence, h⟩⟩
  · rcases lockChannelAndPost_error missing with rfl | ⟨channelId, rfl⟩ <;> exact Or.inl (by simp)
  · obtain ⟨rfl, dead⟩ := lockPublishAttempt_error key lost
    exact Or.inr ⟨rfl, fun alive => absurd alive dead⟩
  rcases h with ⟨displaced, rfl⟩ | ⟨_, -, overflow | ⟨revision, -, done⟩⟩
  · exact Or.inr ⟨rfl, fun _ =>
      ⟨current, lockChannelAndPost_ok locked, Bool.not_eq_true _ ▸ displaced⟩⟩
  · rw [nextRevision_error overflow]
    exact Or.inl (by simp)
  · split at done <;> cases done

theorem retry_effect {claim : PublishClaim} {errorClass message : String}
    (key : attempt.lease.jobId.key = .publish attempt.postId)
    (start : attempt.phase = .retrying claim errorClass message)
    (h : callStep db outcome
      (retryPublish db attempt.postId (attempt.publishLease claim) errorClass message)
      (afterRetry errorClass message) = (db', next)) : CallEffect db attempt db' next := by
  have lostAnswer := afterRetry_error errorClass message (e := .database) (by simp)
  rcases callStep_cases h with ⟨result, ok, turn⟩ | ⟨same, turn⟩
  · obtain ⟨old, new, job, job', write, lock, holds, becomes, after, kept, payload, now⟩ :=
      retryPublish_ok key ok
    refine .retried old new claim result.terminal job job' write ⟨_, _, start⟩ lock holds becomes
      after kept payload now ?_
    rcases turn with rfl | rfl
    · unfold afterRetry
      cases terminal : result.terminal with
      | true => exact ⟨_, by simp [terminal]; rfl, Or.inl ⟨_, _, rfl⟩⟩
      | false => exact ⟨_, by simp [terminal]; rfl, Or.inr ⟨⟨_, _, rfl⟩, rfl⟩⟩
    · obtain ⟨failure, same, ends⟩ := lostAnswer
      exact ⟨failure, same, Or.inl ends⟩
  · refine .turned same ?_
    rcases turn with rfl | ⟨e, failed, rfl⟩
    · obtain ⟨failure, same, ends⟩ := lostAnswer
      rw [same]
      exact .gaveUp failure (Or.inl ends)
    · rcases retryPublish_error key failed with other | ⟨rfl, displaced⟩
      · obtain ⟨failure, same, ends⟩ := afterRetry_error errorClass message other
        rw [same]
        exact .gaveUp failure (Or.inl ends)
      · refine .dismissed (fun alive => ?_)
        simp only [Attempt.dismissal, start]
        exact displaced alive

/-- The effect of any call of an attempt whose lease and claim name its post. -/
theorem Attempt.call_effect (key : attempt.lease.jobId.key = .publish attempt.postId)
    (claims : ∀ claim, attempt.phase.claim? = some claim → claim.postId = attempt.postId)
    (h : attempt.call db outcome = some (db', next)) : CallEffect db attempt db' next := by
  unfold Attempt.call at h
  split at h
  · rename_i start
    simp only [Option.some.injEq] at h
    exact claim_effect key start h
  · rename_i start
    simp only [Option.some.injEq] at h
    exact reconcile_effect key start h
  · rename_i claim start
    split at h
    all_goals
      simp only [Option.some.injEq, Prod.mk.injEq] at h
      obtain ⟨rfl, rfl⟩ := h
      exact .turned rfl (receipt_turn start _)
  · rename_i claim messageId start
    have own := claims claim (by rw [start]; rfl)
    simp only [Option.some.injEq, own] at h
    exact complete_effect key start h
  · rename_i claim message start
    have own := claims claim (by rw [start]; rfl)
    simp only [Option.some.injEq, own] at h
    exact fence_effect key start h
  · rename_i claim errorClass message start
    have own := claims claim (by rw [start]; rfl)
    simp only [Option.some.injEq, own] at h
    exact retry_effect key start h
  · rename_i claim state errorClass message start
    have own := claims claim (by rw [start]; rfl)
    simp only [Option.some.injEq, own] at h
    exact fail_effect key start h
  · cases h

end Operations

end Sooqa.Publisher
