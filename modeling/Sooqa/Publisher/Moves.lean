import Sooqa.Publisher.Calls

/-!
The steps of the publisher as moves of one post. A step touches the row, the
job, the attempts and the requests of at most one post; every other post is a
bystander. An invariant is therefore proved for one post: bystanders keep it
because they did not change, and the moved post keeps it move by move.
-/
namespace Sooqa.Publisher
open Foundation Queue Worker

/-- How a terminal settlement leaves the post of its job. -/
inductive SettledPost (db db' : Db) (p : Uuid) (command : JobCommand) (terminal : Bool) : Prop where
  | kept (same : db'.posts.get p = db.posts.get p)
      (settled : terminal = true → ∀ post, db.posts.get p = some post →
        post.state.sendToken = none ∧
          (post.state = .queued → command ≠ .publishPost p post.revision))
  | failed (old new : Post) (write : PostWrite db db' p old new) (was : old.state = .queued)
      (ended : terminal = true) (becomes : new.state = .failed)
  | unknown (old new : Post) (write : PostWrite db db' p old new)
      (was : old.state.sendToken.isSome) (ended : terminal = true) (becomes : new.state = .unknown)

/-- A running job given back to the queue, or failed with its post. -/
structure Released (db db' : Db) (p : Uuid) (job : Job) (terminal : Bool) : Prop where
  elsewhere : Elsewhere db db' p
  found : db.jobs.get (.publish p) = some job
  running : ∃ columns, job.state = .running columns
  after : ∃ job', db'.jobs.get (.publish p) = some job' ∧ job'.command = job.command ∧
    job'.state = if terminal then .failed else .queued
  post : SettledPost db db' p job.command terminal

section Settlement
variable {db db' : Db} {p : Uuid}

theorem settleTerminalPublicationPost_ok {revision : Int} {errorClass errorMessage : String}
    (h : settleTerminalPublicationPost db p revision errorClass errorMessage = .ok db') :
    db'.jobs = db.jobs ∧ db'.now = db.now ∧ Elsewhere db db' p ∧
      SettledPost db db' p (.publishPost p revision) true := by
  have unchanged : db' = db → (∀ post, db.posts.get p = some post → post.state.sendToken = none ∧
      (post.state = .queued → revision ≠ post.revision)) →
      db'.jobs = db.jobs ∧ db'.now = db.now ∧ Elsewhere db db' p ∧
        SettledPost db db' p (.publishPost p revision) true := by
    rintro rfl other
    refine ⟨rfl, rfl, ⟨fun _ _ => rfl, fun _ _ => rfl, Nat.le_refl _, Nat.le_refl _⟩, .kept rfl ?_⟩
    intro _ post found
    obtain ⟨idle, stale⟩ := other post found
    refine ⟨idle, fun queued same => stale queued ?_⟩
    simpa using same
  unfold settleTerminalPublicationPost at h
  split at h
  · rename_i missing
    simp only [Except.ok.injEq] at h
    refine unchanged h.symm (fun post found => ?_)
    rw [missing] at found
    cases found
  · rename_i post found
    simp only at h
    split at h
    · rename_i queued
      split at h
      · simp only [bind_ok, pure_ok] at h
        obtain ⟨next, bumped, rfl⟩ := h
        have write := postWrite_setPost { post with
          state := .failed
          errorClass := some errorClass
          errorMessage := some errorMessage
          revision := next
          updatedAt := db.now } found (bumpRevision_ok bumped)
        exact ⟨rfl, rfl, write.elsewhere, .failed post _ write queued rfl rfl⟩
      · rename_i stale
        simp only [Except.ok.injEq] at h
        refine unchanged h.symm (fun other present => ?_)
        rw [found] at present
        cases present
        exact ⟨by rw [queued]; rfl, fun _ => stale⟩
    · rename_i token startedAt sending
      simp only [bind_ok, pure_ok] at h
      obtain ⟨next, bumped, rfl⟩ := h
      have write := postWrite_setPost { post with
        state := .unknown
        errorClass := some errorClass
        errorMessage := some errorMessage
        revision := next
        updatedAt := db.now } found (bumpRevision_ok bumped)
      exact ⟨rfl, rfl, write.elsewhere, .unknown post _ write (by rw [sending]; rfl) rfl rfl⟩
    · rename_i notQueued notSending
      simp only [Except.ok.injEq] at h
      refine unchanged h.symm (fun other present => ?_)
      rw [found] at present
      cases present
      refine ⟨?_, fun queued => absurd queued notQueued⟩
      unfold PostState.sendToken
      split
      · rename_i token startedAt sending
        exact absurd sending (notSending token startedAt)
      · rfl

/-- Settling the post, then writing the settled job, releases the job. -/
theorem released_of_settled {middle : Db} {job : Job} (update : QueueUpdate)
    (found : db.jobs.get (.publish p) = some job) (running : ∃ columns, job.state = .running columns)
    (jobs : middle.jobs = db.jobs) (elsewhere : Elsewhere db middle p)
    (post : SettledPost db middle p job.command update.terminal)
    (state : update.state = if update.terminal then .failed else .queued) :
    Released db { middle with jobs := updateLockedJob middle.jobs middle.now job update } p job
      update.terminal := by
  have key := Jobs.get_key db.jobs found
  have others : ∀ q, q ≠ p → (updateLockedJob middle.jobs middle.now job update).get (.publish q) =
      db.jobs.get (.publish q) := by
    intro q ne
    rw [← jobs]
    apply Jobs.get_put_ne
    show JobKey.publish q ≠ job.id.key
    rw [key]
    exact publish_ne ne
  have moved : Elsewhere db { middle with
      jobs := updateLockedJob middle.jobs middle.now job update } p :=
    ⟨elsewhere.posts, others, elsewhere.now, elsewhere.fresh⟩
  refine ⟨moved, found, running, ⟨job.settled middle.now update, ?_, rfl, state⟩, ?_⟩
  · rw [← key]
    exact Jobs.get_put_self middle.jobs (job.settled middle.now update)
  · cases post with
    | kept same settled => exact .kept same settled
    | failed old new write was ended becomes =>
      exact .failed old new ⟨moved, write.before, write.after, write.revision⟩ was ended becomes
    | unknown old new write was ended becomes =>
      exact .unknown old new ⟨moved, write.before, write.after, write.revision⟩ was ended becomes

theorem settledPost_kept (command : JobCommand) : SettledPost db db p command false :=
  .kept rfl (fun h => by cases h)

theorem elsewhere_refl : Elsewhere db db p :=
  ⟨fun _ _ => rfl, fun _ _ => rfl, Nat.le_refl _, Nat.le_refl _⟩

theorem settlePublishJob_ok {lease : JobLease} {expected : JobCommand}
    {settlement : JobSettlement} {done : Job} (key : lease.jobId.key = .publish p)
    (h : settlePublishJob db lease expected settlement = .ok (db', done)) :
    ∃ job, lockRunningJob db.jobs db.now lease settlement.allowsExpiredLease = some job ∧
      Released db db' p job (queueParameters job settlement).terminal := by
  unfold settlePublishJob at h
  split at h
  · split at h
    · cases h
    · rename_i job locked
      refine ⟨job, locked, ?_⟩
      obtain ⟨found, -, -, held⟩ := lockRunningJob_eq_some.mp locked
      obtain ⟨columns, running, -⟩ := heldBy_eq_true.mp held
      rw [key] at found
      have state := queueParameters_state job settlement
      split at h
      · rename_i postId revision validated
        obtain ⟨command, -⟩ := validateLockedCommand_ok validated
        have owner := JobKey.owns_publishPost (command ▸ job.owned)
        rw [Jobs.get_key db.jobs found] at owner
        cases owner
        simp only at h
        cases terminal : (queueParameters job settlement).terminal with
        | true =>
          simp only [terminal, if_true] at h
          split at h
          · cases h
          · rename_i middle settled
            simp only [Except.ok.injEq, Prod.mk.injEq] at h
            obtain ⟨rfl, -⟩ := h
            obtain ⟨jobs, -, elsewhere, post⟩ := settleTerminalPublicationPost_ok settled
            have released := released_of_settled (queueParameters job settlement) found
              ⟨columns, running⟩ jobs elsewhere (by rw [terminal, ← command]; exact post) state
            rw [terminal] at released
            exact released
        | false =>
          simp only [terminal, Bool.false_eq_true, if_false, Except.ok.injEq, Prod.mk.injEq] at h
          obtain ⟨rfl, -⟩ := h
          have released := released_of_settled (queueParameters job settlement) found
            ⟨columns, running⟩ rfl elsewhere_refl
            (by rw [terminal]; exact settledPost_kept _) state
          rw [terminal] at released
          exact released
      · cases h
  · cases h

theorem recoverPublishJob_ok {id : JobId} {expected : JobCommand} {recovered : Bool}
    (h : recoverPublishJob db id expected = .ok (db', recovered)) :
    db' = db ∨ ∃ p job, lockExpiredJob db.jobs db.now id = some job ∧ id.key = .publish p ∧
      Released db db' p job (decide (job.maxAttempts ≤ job.attemptCount)) := by
  unfold recoverPublishJob at h
  split at h
  · split at h
    · simp only [Except.ok.injEq, Prod.mk.injEq] at h
      exact Or.inl h.1.symm
    · rename_i job locked
      obtain ⟨found, same, columns, running, -⟩ := lockExpiredJob_eq_some.mp locked
      have state := expiredUpdate_state db.now job
      split at h
      · rename_i postId revision validated
        obtain ⟨command, -⟩ := validateLockedCommand_ok validated
        have owner := JobKey.owns_publishPost (command ▸ job.owned)
        rw [same] at owner
        refine Or.inr ⟨postId, job, locked, owner, ?_⟩
        rw [owner] at found
        simp only at h
        have expired : (expiredUpdate db.now job).terminal =
            decide (job.maxAttempts ≤ job.attemptCount) := rfl
        rw [← expired]
        split at h
        · cases h
        · rename_i middle settled
          simp only [Except.ok.injEq, Prod.mk.injEq] at h
          obtain ⟨rfl, -⟩ := h
          split at settled
          · rename_i post terminal present
            obtain ⟨jobs, -, elsewhere, post⟩ := settleTerminalPublicationPost_ok settled
            exact released_of_settled _ found ⟨columns, running⟩ jobs elsewhere
              (by rw [terminal, ← command]; exact post) state
          · rename_i other
            simp only [Except.ok.injEq] at settled
            subst settled
            refine released_of_settled _ found ⟨columns, running⟩ rfl elsewhere_refl ?_ state
            refine .kept rfl (fun terminal post present => ?_)
            exact absurd present (other post terminal)
      · cases h
  · cases h

end Settlement

/-- The columns of a running row that its holder keeps through a rewrite. -/
structure SameLease (job job' : Job) : Prop where
  id : job'.id = job.id
  attemptCount : job'.attemptCount = job.attemptCount
  maxAttempts : job'.maxAttempts = job.maxAttempts
  holder : ∃ columns columns', job.state = .running columns ∧ job'.state = .running columns' ∧
    columns'.token = columns.token ∧ columns'.owner = columns.owner

/-- A step did not concern this post. -/
structure Bystander (w w' : World) (q : Uuid) : Prop where
  post : w'.db.posts.get q = w.db.posts.get q
  job : w'.db.jobs.get (.publish q) = w.db.jobs.get (.publish q)
  attempts : ∀ t a, a.postId = q → (w'.attempts.get t = some a ↔ w.attempts.get t = some a)
  flights : ∀ f flight, flight.postId = q →
    (w'.flights.get f = some flight ↔ w.flights.get f = some flight)
  now : w.db.now ≤ w'.db.now
  fresh : w.db.fresh ≤ w'.db.fresh

/-- Identifiers of one post are filed where they belong and were drawn before. -/
structure Filed (w : World) (p : Uuid) : Prop where
  attempt : ∀ t a, w.attempts.get t = some a → a.postId = p →
    a.lease.leaseToken = t ∧ t < w.db.fresh ∧ a.lease.jobId.key = .publish p ∧ p < w.db.fresh
  claim : ∀ t a c, w.attempts.get t = some a → a.postId = p → a.phase.claim? = some c →
    c.postId = p ∧ c.token < w.db.fresh
  failure : ∀ t a f, w.attempts.get t = some a → a.postId = p →
    a.phase = .returned (.error f) → Ends f ∨ Delays f
  job : ∀ job, w.db.jobs.get (.publish p) = some job → p < w.db.fresh
  lease : ∀ job columns, w.db.jobs.get (.publish p) = some job → job.state = .running columns →
    columns.token < w.db.fresh ∧
      ∀ a, w.attempts.get columns.token = some a → a.postId = p → job.lease = some a.lease
  post : ∀ post, w.db.posts.get p = some post →
    p < w.db.fresh ∧ ∀ token ∈ post.state.sendToken, token < w.db.fresh
  flight : ∀ f flight, w.flights.get f = some flight → flight.postId = p →
    f < w.db.fresh ∧ p < w.db.fresh ∧ flight.token < w.db.fresh

/-- What a step does to the one post it concerns. -/
inductive Move (w : World) (p : Uuid) : Action → World → Prop where
  | api {act : Action} {db' : Db} (write : ApiWrite w.db db' p)
      (elsewhere : Elsewhere w.db db' p) : Move w p act { w with db := db' }
  | renewed {act : Action} {db' : Db} (job job' : Job) (columns : LeaseColumns)
      (before : w.db.jobs.get (.publish p) = some job)
      (running : job.state = .running columns) (unexpired : w.db.now < columns.expiresAt)
      (after : db'.jobs.get (.publish p) = some job') (same : SameLease job job')
      (command : job'.command = job.command) (posts : db'.posts = w.db.posts)
      (clock : db'.now = w.db.now ∧ db'.fresh = w.db.fresh) : Move w p act { w with db := db' }
  | pruned {act : Action} {db' : Db} (job : Job) (before : w.db.jobs.get (.publish p) = some job)
      (ended : job.state.live = false) (after : db'.jobs.get (.publish p) = none)
      (post : ∀ row, w.db.posts.get p = some row → row.state ≠ .queued)
      (posts : db'.posts = w.db.posts)
      (clock : db'.now = w.db.now ∧ db'.fresh = w.db.fresh) : Move w p act { w with db := db' }
  | recovered {id : JobId} {expected : JobCommand} {db' : Db} (job : Job)
      (lock : lockExpiredJob w.db.jobs w.db.now id = some job)
      (released : Released w.db db' p job (decide (job.maxAttempts ≤ job.attemptCount))) :
      Move w p (.recover id expected) { w with db := db' }
  | leased {act : Action} {db' : Db} (job job' : Job) (lease : JobLease) (revision : Int)
      (columns : LeaseColumns) (before : w.db.jobs.get (.publish p) = some job)
      (was : job.state = .queued) (after : db'.jobs.get (.publish p) = some job')
      (running : job'.state = .running columns) (token : columns.token = w.db.fresh)
      (held : job'.lease = some lease) (payload : job'.command = .publishPost p revision)
      (same : job.command = .publishPost p revision) (posts : db'.posts = w.db.posts)
      (clock : db'.now = w.db.now ∧ db'.fresh = w.db.fresh + 1) :
      Move w p act { w with
        db := db', attempts := w.attempts.set w.db.fresh ⟨lease, p, revision, .started⟩ }
  | called {act : Action} {t : Uuid} {db' : Db} {next : Phase} (attempt : Attempt)
      (found : w.attempts.get t = some attempt) (own : attempt.postId = p)
      (effect : CallEffect w.db attempt db' next) : Move w p act (w.advance t attempt db' next)
  | answered {act : Action} {t f : Uuid} (attempt : Attempt) (flight : Flight)
      (answer : TelegramAnswer) (next : Phase) (found : w.attempts.get t = some attempt)
      (own : attempt.postId = p) (sent : w.flights.get f = some flight)
      (answerable : answerable flight answer = true)
      (turn : (∃ claim request, attempt.phase = .copying claim request f ∧
          next = afterCopy claim request answer) ∨
        ∃ claim, attempt.phase = .sendingFile claim f ∧ next = afterFile claim answer) :
      Move w p act (w.advance t attempt w.db next)
  | launched {act : Action} {t : Uuid} (attempt : Attempt) (claim : PublishClaim)
      (next : Uuid → Phase) (found : w.attempts.get t = some attempt) (own : attempt.postId = p)
      (turn : (∃ request, attempt.phase = .prepared claim request ∧
          next = .copying claim request) ∨
        ∃ request, attempt.phase = .fallingBack claim request ∧ next = .sendingFile claim) :
      Move w p act (w.launch t attempt claim next)
  | landed {act : Action} {f : Uuid} (flight : Flight) (fate : Fate)
      (sent : w.flights.get f = some flight) (own : flight.postId = p)
      (pending : flight.fate = none) :
      Move w p act { w with flights := w.flights.set f { flight with fate := some fate } }
  | dropped {act : Action} {t : Uuid} (attempt : Attempt) (found : w.attempts.get t = some attempt)
      (own : attempt.postId = p) : Move w p act (w.retire t w.db)
  | completed {act : Action} {t : Uuid} {db' : Db} (attempt : Attempt) (job job' : Job)
      (found : w.attempts.get t = some attempt) (own : attempt.postId = p)
      (phase : attempt.phase = .returned (.ok ()))
      (before : w.db.jobs.get (.publish p) = some job)
      (held : job.heldBy w.db.now attempt.lease false = true)
      (after : db'.jobs.get (.publish p) = some job') (done : job'.state = .succeeded)
      (posts : db'.posts = w.db.posts)
      (clock : db'.now = w.db.now ∧ db'.fresh = w.db.fresh) : Move w p act (w.retire t db')
  | settled {act : Action} {t : Uuid} {db' : Db} (attempt : Attempt) (failure : HandlerFailure)
      (settlement : JobSettlement) (job : Job) (found : w.attempts.get t = some attempt)
      (own : attempt.postId = p) (phase : attempt.phase = .returned (.error failure))
      (asks : finishSettlement w.db.now failure = some settlement)
      (lock : lockRunningJob w.db.jobs w.db.now attempt.lease settlement.allowsExpiredLease =
        some job)
      (released : Released w.db db' p job (queueParameters job settlement).terminal) :
      Move w p act (w.retire t db')
  | stopped {t : Uuid} {outcome : CallOutcome} {db' : Db} (attempt : Attempt) (job : Job)
      (found : w.attempts.get t = some attempt) (own : attempt.postId = p)
      (applied : outcome.applied = true)
      (lock : lockRunningJob w.db.jobs w.db.now attempt.lease false = some job)
      (released : Released w.db db' p job (decide (job.maxAttempts ≤ job.attemptCount))) :
      Move w p (.shutdown t outcome) (w.retire t db')

section Bystanders
variable {w : World} {p : Uuid} {db' : Db}

theorem bystander_of_quiet (quiet : Quiet w.db db') (q : Uuid) :
    Bystander w { w with db := db' } q :=
  ⟨quiet.posts q, quiet.jobs q, fun _ _ _ => Iff.rfl, fun _ _ _ => Iff.rfl, quiet.now, quiet.fresh⟩

theorem bystander_of_elsewhere (elsewhere : Elsewhere w.db db' p) {q : Uuid} (ne : q ≠ p) :
    Bystander w { w with db := db' } q :=
  ⟨elsewhere.posts q ne, elsewhere.jobs q ne, fun _ _ _ => Iff.rfl, fun _ _ _ => Iff.rfl,
    elsewhere.now, elsewhere.fresh⟩

/-- Refiling an attempt of one post does not concern the others. -/
theorem refiled_iff {attempts : Table Uuid Attempt} {t : Uuid} {old : Attempt} (new : Attempt)
    (found : attempts.get t = some old) (own : old.postId = p) (kept : new.postId = p)
    {q : Uuid} (ne : q ≠ p) (u : Uuid) (a : Attempt) (owner : a.postId = q) :
    (attempts.set t new).get u = some a ↔ attempts.get u = some a := by
  rw [Table.get_set]
  split
  · rename_i same
    subst same
    rw [found]
    constructor
    · intro h
      cases h
      exact absurd (owner.symm.trans kept) ne
    · intro h
      cases h
      exact absurd (owner.symm.trans own) ne
  · exact Iff.rfl

theorem removed_iff {attempts : Table Uuid Attempt} {t : Uuid} {old : Attempt}
    (found : attempts.get t = some old) (own : old.postId = p) {q : Uuid} (ne : q ≠ p)
    (u : Uuid) (a : Attempt) (owner : a.postId = q) :
    (attempts.remove t).get u = some a ↔ attempts.get u = some a := by
  rw [Table.get_remove]
  split
  · rename_i same
    subst same
    rw [found]
    constructor
    · intro h
      cases h
    · intro h
      cases h
      exact absurd (owner.symm.trans own) ne
  · exact Iff.rfl

theorem bystander_advance {t : Uuid} {attempt : Attempt} (next : Phase)
    (found : w.attempts.get t = some attempt) (own : attempt.postId = p)
    (elsewhere : Elsewhere w.db db' p) {q : Uuid} (ne : q ≠ p) :
    Bystander w (w.advance t attempt db' next) q :=
  ⟨elsewhere.posts q ne, elsewhere.jobs q ne,
    refiled_iff { attempt with phase := next } found own own ne, fun _ _ _ => Iff.rfl,
    elsewhere.now, elsewhere.fresh⟩

theorem bystander_retire {t : Uuid} {attempt : Attempt}
    (found : w.attempts.get t = some attempt) (own : attempt.postId = p)
    (elsewhere : Elsewhere w.db db' p) {q : Uuid} (ne : q ≠ p) :
    Bystander w (w.retire t db') q :=
  ⟨elsewhere.posts q ne, elsewhere.jobs q ne, removed_iff found own ne, fun _ _ _ => Iff.rfl,
    elsewhere.now, elsewhere.fresh⟩

end Bystanders

/-- A step concerns no post, or moves one and leaves the others alone. -/
def Moves (w : World) (act : Action) (w' : World) : Prop :=
  (∀ q, Bystander w w' q) ∨ ∃ p, (∀ q, q ≠ p → Bystander w w' q) ∧ Move w p act w'

section Steps
variable {w w' : World} {act : Action}

theorem moves_of_quiet {db' : Db} (quiet : Quiet w.db db') : Moves w act { w with db := db' } :=
  Or.inl (bystander_of_quiet quiet)

theorem moves_refl : Moves w act w := moves_of_quiet (Quiet.refl w.db)

theorem moves_of_api {α : Type} {result : Except Error (Db × α)}
    (effect : ∀ {db' x}, result = .ok (db', x) → ApiEffect w.db db') :
    Moves w act { w with db := committed w.db result } := by
  rcases committed_cases w.db result with same | ⟨x, ok⟩
  · rw [same]
    exact moves_refl
  · cases effect ok with
    | quiet same => exact moves_of_quiet same
    | write p elsewhere write =>
      exact Or.inr ⟨p, fun q ne => bystander_of_elsewhere elsewhere ne, .api write elsewhere⟩

theorem callEffect_elsewhere {db db' : Db} {attempt : Attempt} {next : Phase}
    (effect : CallEffect db attempt db' next) : Elsewhere db db' attempt.postId := by
  cases effect with
  | turned same _ =>
    rw [same]
    exact elsewhere_refl
  | claimed old new startedAt write => exact write.elsewhere
  | reconciled old new write => exact write.elsewhere
  | completed old new claim messageId write => exact write.elsewhere
  | failed old new claim state write => exact write.elsewhere
  | retried old new claim terminal job job' write => exact write.elsewhere

variable (filed : ∀ p, Filed w p)
include filed

theorem attempts_fresh : w.attempts.get w.db.fresh = none := by
  cases found : w.attempts.get w.db.fresh with
  | none => rfl
  | some a => exact absurd ((filed a.postId).attempt _ a found rfl).2.1 (Nat.lt_irrefl _)

theorem flights_fresh : w.flights.get w.db.fresh = none := by
  cases found : w.flights.get w.db.fresh with
  | none => rfl
  | some flight => exact absurd ((filed flight.postId).flight _ flight found rfl).1 (Nat.lt_irrefl _)

theorem claimJob_moves {worker : String} {leaseDuration : Time} {p : Uuid}
    (h : claimJob w worker leaseDuration p = some w') : Moves w act w' := by
  unfold claimJob at h
  split at h
  · rename_i jobs claimed taken
    obtain ⟨job, found, queued, -, -, shape, written⟩ := claimNext_ok taken
    split at h
    · rename_i lease postId revision held payload
      have key := Jobs.get_key w.db.jobs found
      have same : claimed.id = job.id := by rw [shape]
      have owner := JobKey.owns_publishPost (payload ▸ claimed.owned)
      rw [same, key] at owner
      cases owner
      have token : lease.leaseToken = w.db.fresh := by
        simp only [shape, Job.lease, Option.some.injEq] at held
        rw [← held]
      have after : jobs.get (.publish p) = some claimed := by
        rw [written, ← key, ← same]
        exact Jobs.get_put_self _ _
      simp only [Option.some.injEq] at h
      subst h
      refine Or.inr ⟨p, ?_, ?_⟩
      · intro q ne
        refine ⟨rfl, ?_, ?_, fun _ _ _ => Iff.rfl, Nat.le_refl _, Nat.le_succ _⟩
        · show jobs.get (.publish q) = w.db.jobs.get (.publish q)
          rw [written]
          apply Jobs.get_put_ne
          rw [same, key]
          exact publish_ne ne
        · intro t a owner
          show (w.attempts.set lease.leaseToken _).get t = some a ↔ _
          rw [token, Table.get_set]
          split
          · rename_i here
            rw [here, attempts_fresh filed]
            constructor
            · intro h
              cases h
              exact absurd owner.symm ne
            · intro h
              cases h
          · exact Iff.rfl
      · rw [token]
        exact .leased job claimed lease revision _ found queued after (by rw [shape]) rfl held
          payload (by rw [← payload, shape]) rfl ⟨rfl, rfl⟩
    · cases h
  · cases h

theorem heartbeat_moves {t : Uuid} {leaseDuration : Time}
    (h : step calendar w (.heartbeat t leaseDuration) = some w') : Moves w act w' := by
  simp only [step, Option.bind_eq_bind, Option.bind_eq_some_iff] at h
  obtain ⟨attempt, found, h⟩ := h
  obtain ⟨-, -, key, -⟩ := (filed attempt.postId).attempt t attempt found rfl
  split at h
  · rename_i jobs renewed beat
    simp only [Option.some.injEq] at h
    subst h
    obtain ⟨job, present, id, held, shape, written⟩ := heartbeatLease_ok beat
    obtain ⟨columns, running, owner, token, unexpired⟩ := heldBy_eq_true.mp held
    rw [key] at present
    have same : renewed.id = job.id := by rw [shape]
    have home : renewed.id.key = .publish attempt.postId := by
      rw [same]
      exact Jobs.get_key w.db.jobs present
    refine Or.inr ⟨attempt.postId, ?_, ?_⟩
    · intro q ne
      refine ⟨rfl, ?_, fun _ _ _ => Iff.rfl, fun _ _ _ => Iff.rfl, Nat.le_refl _, Nat.le_refl _⟩
      show jobs.get (.publish q) = w.db.jobs.get (.publish q)
      rw [written]
      apply Jobs.get_put_ne
      rw [home]
      exact publish_ne ne
    · refine .renewed job renewed columns present running (unexpired.resolve_left (by simp)) ?_
        ⟨by rw [shape], by rw [shape], by rw [shape], columns, _, running, by rw [shape],
          token.symm, owner.symm⟩ (by rw [shape]) rfl ⟨rfl, rfl⟩
      show jobs.get (.publish attempt.postId) = some renewed
      rw [written, ← home]
      exact Jobs.get_put_self _ _
  · cases h
    exact moves_refl

theorem call_moves {t : Uuid} {outcome : CallOutcome}
    (h : step calendar w (.call t outcome) = some w') : Moves w act w' := by
  simp only [step, Option.bind_eq_bind, Option.bind_eq_some_iff] at h
  obtain ⟨attempt, found, ⟨db', next⟩, called, h⟩ := h
  obtain ⟨-, -, key, -⟩ := (filed attempt.postId).attempt t attempt found rfl
  have claims := fun claim held => ((filed attempt.postId).claim t attempt claim found rfl held).1
  have effect := Attempt.call_effect key claims called
  cases h
  exact Or.inr ⟨attempt.postId, fun q ne =>
    bystander_advance next found rfl (callEffect_elsewhere effect) ne, .called attempt found rfl effect⟩

theorem dispatch_moves {t : Uuid} (h : step calendar w (.dispatch t) = some w') :
    Moves w act w' := by
  simp only [step, Option.bind_eq_bind, Option.bind_eq_some_iff] at h
  obtain ⟨attempt, found, h⟩ := h
  have launched : ∀ claim next, attempt.phase.claim? = some claim →
      ((∃ request, attempt.phase = .prepared claim request ∧ next = .copying claim request) ∨
        ∃ request, attempt.phase = .fallingBack claim request ∧ next = .sendingFile claim) →
      Moves w act (w.launch t attempt claim next) := by
    intro claim next held turn
    obtain ⟨home, -⟩ := (filed attempt.postId).claim t attempt claim found rfl held
    refine Or.inr ⟨attempt.postId, fun q ne => ?_, .launched attempt claim next found rfl turn⟩
    refine ⟨rfl, rfl, refiled_iff { attempt with phase := next w.db.fresh } found rfl rfl
      ne, ?_, Nat.le_refl _, Nat.le_succ _⟩
    intro f flight owner
    show (w.flights.set w.db.fresh _).get f = some flight ↔ _
    rw [Table.get_set]
    split
    · rename_i here
      rw [here, flights_fresh filed]
      constructor
      · intro h
        cases h
        exact absurd (owner.symm.trans home) ne
      · intro h
        cases h
    · exact Iff.rfl
  split at h
  · rename_i claim request phase
    simp only [Option.some.injEq] at h
    subst h
    exact launched claim _ (by rw [phase]; rfl) (Or.inl ⟨request, phase, rfl⟩)
  · rename_i claim request phase
    simp only [Option.some.injEq] at h
    subst h
    exact launched claim _ (by rw [phase]; rfl) (Or.inr ⟨request, phase, rfl⟩)
  · cases h

omit filed in
theorem process_moves {f : Uuid} {fate : Fate} (h : step calendar w (.process f fate) = some w') :
    Moves w act w' := by
  simp only [step, Option.bind_eq_bind, Option.bind_eq_some_iff] at h
  obtain ⟨flight, sent, h⟩ := h
  split at h
  · rename_i pending
    simp only [Option.some.injEq] at h
    subst h
    refine Or.inr ⟨flight.postId, fun q ne => ⟨rfl, rfl, fun _ _ _ => Iff.rfl, ?_, Nat.le_refl _,
      Nat.le_refl _⟩, .landed flight fate sent rfl (Option.isNone_iff_eq_none.mp pending)⟩
    intro g other owner
    rw [Table.get_set]
    split
    · rename_i here
      rw [here, sent]
      constructor
      · intro h
        cases h
        exact absurd owner.symm ne
      · intro h
        cases h
        exact absurd owner.symm ne
    · exact Iff.rfl
  · cases h

omit filed in
theorem answer_moves {t : Uuid} {answer : TelegramAnswer}
    (h : step calendar w (.answer t answer) = some w') : Moves w act w' := by
  simp only [step, Option.bind_eq_bind, Option.bind_eq_some_iff] at h
  obtain ⟨attempt, found, next, answered, h⟩ := h
  cases h
  have bystanders := fun q (ne : q ≠ attempt.postId) =>
    bystander_advance next found rfl elsewhere_refl ne
  unfold Attempt.answered at answered
  split at answered
  · rename_i claim request f phase
    simp only [Option.bind_eq_bind, Option.bind_eq_some_iff] at answered
    obtain ⟨flight, sent, answered⟩ := answered
    split at answered
    · rename_i possible
      cases answered
      exact Or.inr ⟨attempt.postId, bystanders, .answered attempt flight answer _ found rfl sent
        possible (Or.inl ⟨claim, request, phase, rfl⟩)⟩
    · cases answered
  · rename_i claim f phase
    simp only [Option.bind_eq_bind, Option.bind_eq_some_iff] at answered
    obtain ⟨flight, sent, answered⟩ := answered
    split at answered
    · rename_i possible
      cases answered
      exact Or.inr ⟨attempt.postId, bystanders, .answered attempt flight answer _ found rfl sent
        possible (Or.inr ⟨claim, phase, rfl⟩)⟩
    · cases answered
  · cases answered

omit filed in
theorem dropped_moves {t : Uuid} {attempt : Attempt} (found : w.attempts.get t = some attempt) :
    Moves w act (w.retire t w.db) :=
  Or.inr ⟨attempt.postId, fun _ ne => bystander_retire found rfl elsewhere_refl ne,
    .dropped attempt found rfl⟩

theorem finish_moves {t : Uuid} {outcome : CallOutcome}
    (h : step calendar w (.finish t outcome) = some w') : Moves w act w' := by
  simp only [step, Option.bind_eq_bind, Option.bind_eq_some_iff] at h
  obtain ⟨attempt, found, db', finished, h⟩ := h
  obtain ⟨-, -, key, -⟩ := (filed attempt.postId).attempt t attempt found rfl
  cases h
  cases applied : outcome.applied with
  | false => exact dropped_moves found
  | true =>
    simp only [if_true]
    unfold Attempt.finish at finished
    split at finished
    · rename_i phase
      split at finished
      · rename_i jobs done completed
        cases finished
        rcases completeLease_ok completed with same | ⟨job, present, id, held, written⟩
        · rw [same]
          exact dropped_moves found
        · rw [key] at present
          have home : job.id.key = .publish attempt.postId := Jobs.get_key w.db.jobs present
          refine Or.inr ⟨attempt.postId, fun q ne => ?_, .completed attempt job
            (job.succeeded w.db.now) found rfl phase present held ?_ rfl rfl ⟨rfl, rfl⟩⟩
          · refine ⟨rfl, ?_, removed_iff found rfl ne, fun _ _ _ => Iff.rfl, Nat.le_refl _,
              Nat.le_refl _⟩
            show jobs.get (.publish q) = w.db.jobs.get (.publish q)
            rw [written]
            apply Jobs.get_put_ne
            show JobKey.publish q ≠ job.id.key
            rw [home]
            exact publish_ne ne
          · show jobs.get (.publish attempt.postId) = some (job.succeeded w.db.now)
            rw [written, ← home]
            exact Jobs.get_put_self w.db.jobs (job.succeeded w.db.now)
      · cases finished
        exact dropped_moves found
    · rename_i failure phase
      split at finished
      · rename_i settlement asks
        simp only [Option.some.injEq, Attempt.settle] at finished
        subst finished
        rcases committed_cases w.db (settlePublishJob w.db attempt.lease attempt.command
          settlement) with same | ⟨done, ok⟩
        · rw [same]
          exact dropped_moves found
        · obtain ⟨job, lock, released⟩ := settlePublishJob_ok key ok
          exact Or.inr ⟨attempt.postId, fun q ne => bystander_retire found rfl released.elsewhere ne,
            .settled attempt failure settlement job found rfl phase asks lock released⟩
      · cases finished
        exact dropped_moves found
    · cases finished

theorem shutdown_moves {t : Uuid} {outcome : CallOutcome}
    (h : step calendar w (.shutdown t outcome) = some w') :
    Moves w (.shutdown t outcome) w' := by
  simp only [step, Option.bind_eq_bind, Option.bind_eq_some_iff] at h
  obtain ⟨attempt, found, h⟩ := h
  obtain ⟨-, -, key, -⟩ := (filed attempt.postId).attempt t attempt found rfl
  cases h
  cases applied : outcome.applied with
  | false => exact dropped_moves found
  | true =>
    simp only [if_true]
    rcases committed_cases w.db (settlePublishJob w.db attempt.lease attempt.command
      (shutdownSettlement w.db.now)) with same | ⟨done, ok⟩
    · unfold Attempt.settle
      rw [same]
      exact dropped_moves found
    · obtain ⟨job, lock, released⟩ := settlePublishJob_ok key ok
      have plain : (queueParameters job (shutdownSettlement w.db.now)).terminal =
          decide (job.maxAttempts ≤ job.attemptCount) := rfl
      rw [plain] at released
      exact Or.inr ⟨attempt.postId, fun q ne => bystander_retire found rfl released.elsewhere ne,
        .stopped attempt job found rfl applied lock released⟩

omit filed in
theorem recover_moves {id : JobId} {expected : JobCommand}
    (h : step calendar w (.recover id expected) = some w') :
    Moves w (.recover id expected) w' := by
  simp only [step, Option.some.injEq] at h
  subst h
  rcases committed_cases w.db (recoverPublishJob w.db id expected) with
    same | ⟨done, ok⟩
  · rw [same]
    exact moves_refl
  · rcases recoverPublishJob_ok ok with same | ⟨p, job, lock, -, released⟩
    · rw [same]
      exact moves_refl
    · exact Or.inr ⟨p, fun q ne => bystander_of_elsewhere released.elsewhere ne,
        .recovered job lock released⟩

omit filed in
theorem prune_moves {p : Uuid} {cutoff : Time} (h : step calendar w (.prune p cutoff) = some w') :
    Moves w act w' := by
  simp only [step, Option.bind_eq_bind, Option.bind_eq_some_iff] at h
  obtain ⟨db', pruned, h⟩ := h
  cases h
  unfold prune at pruned
  split at pruned
  · cases pruned
  · rename_i job present
    split at pruned
    · cases pruned
    · rename_i completedAt completed
      split at pruned
      · rename_i eligible
        simp only [Bool.and_eq_true, Bool.not_eq_true', decide_eq_true_eq] at eligible
        cases pruned
        refine Or.inr ⟨p, fun q ne => ⟨rfl, ?_, fun _ _ _ => Iff.rfl, fun _ _ _ => Iff.rfl,
          Nat.le_refl _, Nat.le_refl _⟩, .pruned job present eligible.1.1 ?_ ?_ rfl ⟨rfl, rfl⟩⟩
        · show (w.db.jobs.delete (.publish p)).get (.publish q) = w.db.jobs.get (.publish q)
          rw [Jobs.get_delete, if_neg (publish_ne ne)]
        · show (w.db.jobs.delete (.publish p)).get (.publish p) = none
          rw [Jobs.get_delete, if_pos rfl]
        · intro row found queued
          have retained := eligible.2
          simp [publishJobRetentionEligible, found, queued] at retained
      · cases pruned

omit filed in
theorem foreign_quiet {db' : Db} (posts : db'.posts = w.db.posts)
    (jobs : ∀ q, db'.jobs.get (.publish q) = w.db.jobs.get (.publish q))
    (now : w.db.now ≤ db'.now) (fresh : w.db.fresh ≤ db'.fresh) : Quiet w.db db' :=
  ⟨fun _ => by rw [posts], jobs, now, fresh⟩

/-- Every step of the publisher is a move of one post or of none. -/
theorem step_moves (h : step calendar w act = some w') : Moves w act w' := by
  cases act with
  | createPost post key hash =>
    simp only [step, Option.some.injEq] at h
    subst h
    exact moves_of_api createPostIdempotent_effect
  | createIntent mediaId intent key =>
    simp only [step, Option.some.injEq] at h
    subst h
    exact moves_of_api createPublicationIntent_effect
  | materialize ingestId =>
    simp only [step, Option.some.injEq] at h
    subst h
    exact moves_of_api materializeIngest_effect
  | updatePost id update =>
    simp only [step, Option.some.injEq] at h
    subst h
    exact moves_of_api updatePost_effect
  | schedulePost schedule =>
    simp only [step, Option.some.injEq] at h
    subst h
    exact moves_of_api schedulePost_effect
  | schedulePostExact schedule =>
    simp only [step, Option.some.injEq] at h
    subst h
    exact moves_of_api schedulePostExact_effect
  | decidePost id decision key expectedRevision =>
    simp only [step, Option.some.injEq] at h
    subst h
    exact moves_of_api decidePost_effect
  | publishNow id key expectedRevision =>
    simp only [step, Option.some.injEq] at h
    subst h
    exact moves_of_api publishNow_effect
  | cancelPost id expectedRevision =>
    simp only [step, Option.some.injEq] at h
    subst h
    exact moves_of_api cancelPost_effect
  | claimJob worker leaseDuration postId => exact claimJob_moves filed h
  | heartbeat token leaseDuration => exact heartbeat_moves filed h
  | call token outcome => exact call_moves filed h
  | dispatch token => exact dispatch_moves filed h
  | process flight fate => exact process_moves h
  | answer token answer => exact answer_moves h
  | finish token outcome => exact finish_moves filed h
  | shutdown token outcome => exact shutdown_moves filed h
  | crash token =>
    simp only [step, Option.bind_eq_bind, Option.bind_eq_some_iff] at h
    obtain ⟨attempt, found, h⟩ := h
    cases h
    exact dropped_moves found
  | recover id expected => exact recover_moves h
  | prune postId cutoff => exact prune_moves h
  | tick elapsed =>
    cases h
    exact moves_of_quiet (foreign_quiet rfl (fun _ => rfl) (Nat.le_add_right _ _) (Nat.le_refl _))
  | setChannel id channel =>
    cases h
    exact moves_of_quiet (foreign_quiet rfl (fun _ => rfl) (Nat.le_refl _) (Nat.le_refl _))
  | setMedia id media =>
    cases h
    exact moves_of_quiet (foreign_quiet rfl (fun _ => rfl) (Nat.le_refl _) (Nat.le_refl _))
  | setIngest id ingest =>
    cases h
    exact moves_of_quiet (foreign_quiet rfl (fun _ => rfl) (Nat.le_refl _) (Nat.le_refl _))
  | putForeignJob job =>
    simp only [step] at h
    split at h
    · cases h
    · rename_i foreign
      cases h
      refine moves_of_quiet (foreign_quiet rfl (fun q => ?_) (Nat.le_refl _) (Nat.le_refl _))
      apply Jobs.get_put_ne
      intro same
      rw [← same] at foreign
      exact foreign rfl
  | deleteForeignJob key =>
    simp only [step] at h
    split at h
    · cases h
    · rename_i foreign
      cases h
      refine moves_of_quiet (foreign_quiet rfl (fun q => ?_) (Nat.le_refl _) (Nat.le_refl _))
      show (w.db.jobs.delete key).get (.publish q) = w.db.jobs.get (.publish q)
      rw [Jobs.get_delete, if_neg]
      intro same
      rw [← same] at foreign
      exact foreign rfl
  | drawUuid =>
    cases h
    exact moves_of_quiet (foreign_quiet rfl (fun _ => rfl) (Nat.le_refl _) (Nat.le_succ _))

end Steps

end Sooqa.Publisher
