import Sooqa.Jobs.Acknowledgements
import Sooqa.Jobs.Operations

/-!
Superseded leases. A lease whose row does not show it any more stays so for
good, since its token is never drawn again, and no operation that is presented
with it changes anything.
-/
namespace Sooqa.Jobs
open Foundation Queue

section Effects
variable {db db' : Db} {lease : JobLease}

theorem written_some {ε α : Type} {result : Except ε (Db × α)} :
    written result = some db' ↔ ∃ a, result = .ok (db', a) := by
  unfold written
  split
  · rename_i row a
    constructor
    · intro same
      cases same
      exact ⟨a, rfl⟩
    · rintro ⟨b, same⟩
      cases same
      rfl
  · simp

/-- A current lease, and rows that keep theirs. -/
theorem Presented.of_current (current : Inbox.isCurrent db lease = true)
    (inherits : Inherits db.jobs db'.jobs) (fresh : db.fresh ≤ db'.fresh) : Presented db db' lease :=
  ⟨fresh, inherits, Or.inr (held_of_current current)⟩

theorem Presented.of_jobs (current : Inbox.isCurrent db lease = true) (jobs : db'.jobs = db.jobs)
    (fresh : db.fresh ≤ db'.fresh) : Presented db db' lease :=
  .of_current current (by rw [jobs]; exact .refl _) fresh

theorem beat_presented {duration : Time} {job : Job}
    (h : beat db lease duration = .ok (db', job)) : Presented db db' lease := by
  simp only [beat, bind_ok, pure_ok, Prod.mk.injEq] at h
  obtain ⟨⟨jobs, renewed⟩, renews, rfl, -⟩ := h
  obtain ⟨old, found, id, held, -, -⟩ := heartbeatLease_ok renews
  obtain ⟨columns, running, owner, token, -⟩ := heldBy_eq_true.mp held
  refine ⟨le_rfl, inherits_of_fenced (heartbeatLease_fenced renews), Or.inr ?_⟩
  exact ⟨old, _, found, Job.lease_eq_some.mpr ⟨columns, running, rfl⟩, token⟩

theorem complete_presented {job : Job} (h : complete db lease = .ok (db', job)) :
    Presented db db' lease := by
  rcases complete_ends (w := ⟨db, []⟩) h with ⟨rfl, -⟩ | ⟨shown, old, named, token, ends, -⟩
  · exact .same db' lease
  · exact .of_ends ends named token

theorem settleLease_presented {job done : Job} {settlement : JobSettlement}
    (h : settleLease db job lease settlement = .ok (db', done)) : Presented db db' lease := by
  rcases settleLease_ends (w := ⟨db, []⟩) h with
    ⟨rfl, -⟩ | ⟨old, new, ends⟩
  · exact .same db' lease
  · exact .of_ends ends rfl rfl

theorem beginStage_presented {id : Uuid} {skip : Ingest → Bool}
    {resume : IngestStatus → Option (List IngestStatus)} {start : Inbox.StageStart}
    (h : Inbox.beginStage db id lease skip resume = .ok (db', start)) : Presented db db' lease := by
  obtain ⟨request, -, outcome⟩ := Inbox.beginStage_ok h
  rcases outcome with ⟨rfl, -⟩ | ⟨-, current, path, begun, -, -, -, -, -, -, write, jobs⟩
  · exact .same db' lease
  · exact .of_jobs current jobs write.fresh

theorem beginVideoIdentity_presented {id : Uuid} {ingest : Library.MediaIngest}
    {fingerprint : Option Library.VideoFingerprintInput}
    {answer : Inbox.StageStart × Option Uuid}
    (h : Inbox.beginVideoIdentity db id lease ingest fingerprint = .ok (db', answer)) :
    Presented db db' lease := by
  simp only [Inbox.beginVideoIdentity, bind_ok] at h
  obtain ⟨request, -, h⟩ := h
  split at h
  · cases h
    exact .same db lease
  · simp only [bind_ok, pure_ok, Prod.mk.injEq] at h
    obtain ⟨preparation, -, rfl, -⟩ := h
    exact .same db lease

theorem failed_presented {id : Uuid} {stage : Stage}
    (h : db' = db ∨ ∃ request failed, Inbox.Failed db db' id stage lease request failed) :
    Presented db db' lease := by
  rcases h with rfl | ⟨request, failed, recorded⟩
  · exact .same db' lease
  · exact .of_current recorded.current (inherits_of_fenced (recorded.jobs.fenced db.now))
      recorded.write.fresh

theorem completed_presented {id : Uuid} {stage : Stage}
    (h : Inbox.Stopped db db' id stage lease ∨ ∃ request request' job jobs,
      Inbox.HandedOver db db' id stage lease request request' job jobs) :
    Presented db db' lease := by
  rcases h with stopped | ⟨request, request', job, jobs, handed⟩
  · rw [stopped.unchanged]
    exact .same db lease
  · obtain ⟨kind, added⟩ := handed.outcome.added
    refine .of_current (Inbox.isCurrent_eq_true.mpr ⟨job, handed.current⟩) ?_ handed.write.fresh
    rw [handed.jobs]
    exact (inherits_of_fenced (added.fenced db.now)).put_idle (job.succeeded_idle db.now)

theorem beginWorkspaceCleanup_presented {ingestId workspaceId : Uuid}
    {start : Inbox.WorkspaceCleanupStart}
    (h : Inbox.beginWorkspaceCleanup db lease ingestId workspaceId = .ok (db', start)) :
    Presented db db' lease := by
  by_cases current : Inbox.isCurrent db lease = true
  · obtain ⟨-, jobs, -, -, fresh⟩ := Inbox.beginWorkspaceCleanup_ok h
    exact .of_jobs current jobs (le_of_eq fresh.symm)
  · rw [Bool.not_eq_true] at current
    simp only [Inbox.beginWorkspaceCleanup, current, Bool.not_false, if_true, Except.ok.injEq,
      Prod.mk.injEq] at h
    rw [← h.1]
    exact .same db lease

theorem current_of_alive (alive : Publisher.Alive db lease) : Inbox.isCurrent db lease = true := by
  obtain ⟨job, locked⟩ := alive
  exact Inbox.isCurrent_eq_true.mpr ⟨job, locked⟩

theorem claimPublish_presented {id : Uuid} {expectedRevision : Int} {claim : Publisher.PublishClaim}
    (h : Publisher.claimPublish db id expectedRevision lease = .ok (db', claim)) :
    Presented db db' lease := by
  obtain ⟨old, new, startedAt, write, jobs, alive, -, -, fresh, -⟩ := Publisher.claimPublish_ok h
  exact .of_jobs (current_of_alive alive) jobs (by rw [fresh]; exact Nat.le_succ _)

theorem completePublish_presented {id : Uuid} {generation : Nat} {token : Uuid} {messageId : Int}
    {post : Post}
    (h : Publisher.completePublish db id ⟨generation, token, lease⟩ messageId = .ok (db', post)) :
    Presented db db' lease := by
  obtain ⟨alive, old, -, ⟨rfl, -⟩ | ⟨new, write, jobs, -⟩⟩ := Publisher.completePublish_ok h
  · exact .same db' lease
  · exact .of_jobs (current_of_alive alive) jobs write.elsewhere.fresh

theorem failPublish_presented {id : Uuid} {publish : Publisher.PublishLease} {state : PostState}
    {errorClass errorMessage : String} {post : Post}
    (h : Publisher.failPublish db id publish state errorClass errorMessage = .ok (db', post)) :
    Presented db db' publish.attempt := by
  simp only [Publisher.failPublish, bind_ok, pure_ok, Prod.mk.injEq] at h
  obtain ⟨_, -, _, -, job, fence, _, -, revision, -, rfl, -⟩ := h
  have current := Inbox.isCurrent_eq_true.mpr ⟨job, (Publisher.lockPublishAttempt_ok fence).1⟩
  exact .of_jobs current rfl le_rfl

theorem retryPublish_presented {id : Uuid} {publish : Publisher.PublishLease}
    {errorClass errorMessage : String} {retry : Publisher.PublishRetry}
    (h : Publisher.retryPublish db id publish errorClass errorMessage = .ok (db', retry)) :
    Presented db db' publish.attempt := by
  simp only [Publisher.retryPublish, bind_ok] at h
  obtain ⟨_, -, job, fence, _, -, revision, -, h⟩ := h
  have locked := (Publisher.lockPublishAttempt_ok fence).1
  have current := Inbox.isCurrent_eq_true.mpr ⟨job, locked⟩
  split at h
  · cases h
    exact .of_jobs current rfl le_rfl
  · cases h
    refine .of_current current ?_ le_rfl
    obtain ⟨found, -, -⟩ := lockCurrentJobAttempt_eq_some.mp locked
    intro key job' shown present shows
    rw [Jobs.get_put] at present
    split at present
    · rename_i here
      cases present
      have same := db.jobs.get_key found
      refine ⟨job, ?_, (editedPublishJob_edit db.now job revision).2.lease_of shows⟩
      rw [here]
      exact same ▸ found
    · exact ⟨job', present, shows⟩

theorem reconcileInterruptedPublish_presented {id : Uuid} {found : Bool}
    (h : Publisher.reconcileInterruptedPublish db id lease = .ok (db', found)) :
    Presented db db' lease := by
  obtain ⟨alive, old, -, ⟨rfl, -⟩ | ⟨new, write, jobs, -⟩⟩ :=
    Publisher.reconcileInterruptedPublish_ok h
  · exact .same db' lease
  · exact .of_jobs (current_of_alive alive) jobs write.elsewhere.fresh

theorem perform_presented {operation : Operation} (h : operation.perform db lease = some db') :
    Presented db db' lease := by
  cases operation with
  | heartbeatLease duration =>
    obtain ⟨job, ok⟩ := written_some.mp h
    exact beat_presented ok
  | completeLease =>
    obtain ⟨job, ok⟩ := written_some.mp h
    exact complete_presented ok
  | settleLease job settlement =>
    obtain ⟨done, ok⟩ := written_some.mp h
    exact settleLease_presented ok
  | beginSourceInspection id =>
    obtain ⟨start, ok⟩ := written_some.mp h
    exact beginStage_presented ok
  | beginSourceDownload id =>
    obtain ⟨start, ok⟩ := written_some.mp h
    exact beginStage_presented ok
  | beginAssetProbe id =>
    obtain ⟨start, ok⟩ := written_some.mp h
    exact beginStage_presented ok
  | beginAssetNormalization id =>
    obtain ⟨start, ok⟩ := written_some.mp h
    exact beginStage_presented ok
  | beginIngestFingerprinting id =>
    obtain ⟨start, ok⟩ := written_some.mp h
    exact beginStage_presented ok
  | beginIngestFinalization id =>
    obtain ⟨start, ok⟩ := written_some.mp h
    exact beginStage_presented ok
  | beginVideoIdentity id ingest fingerprint =>
    obtain ⟨answer, ok⟩ := written_some.mp h
    exact beginVideoIdentity_presented ok
  | completeSourceInspection id inspection =>
    obtain ⟨answer, ok⟩ := written_some.mp h
    exact completed_presented (Inbox.completeSourceInspection_ok ok)
  | completeSourceDownload id download =>
    obtain ⟨answer, ok⟩ := written_some.mp h
    exact completed_presented (Inbox.completeSourceDownload_ok ok)
  | completeAssetProbe id probe =>
    obtain ⟨answer, ok⟩ := written_some.mp h
    exact completed_presented (Inbox.completeAssetProbe_ok ok)
  | completeAssetNormalization id normalization =>
    obtain ⟨answer, ok⟩ := written_some.mp h
    exact completed_presented (Inbox.completeAssetNormalization_ok ok)
  | completeIngestFinalization id mediaId =>
    obtain ⟨answer, ok⟩ := written_some.mp h
    exact completed_presented (Inbox.completeIngestFinalization_ok ok)
  | completeVideoIdentity id ingest fingerprint decision =>
    obtain ⟨answer, ok⟩ := written_some.mp h
    exact completed_presented (Inbox.completeVideoIdentity_ok ok)
  | failSourceInspection id status errorCode errorMessage =>
    obtain ⟨answer, ok⟩ := written_some.mp h
    exact failed_presented (@Inbox.failIngestStep_ok db db' id lease .inspectSource _ _ _ _ ok)
  | failSourceDownload id status errorCode errorMessage =>
    obtain ⟨answer, ok⟩ := written_some.mp h
    exact failed_presented (@Inbox.failIngestStep_ok db db' id lease .downloadSource _ _ _ _ ok)
  | failAssetProbe id status errorCode errorMessage =>
    obtain ⟨answer, ok⟩ := written_some.mp h
    exact failed_presented (@Inbox.failIngestStep_ok db db' id lease .probeAsset _ _ _ _ ok)
  | failAssetNormalization id status errorCode errorMessage =>
    obtain ⟨answer, ok⟩ := written_some.mp h
    exact failed_presented (@Inbox.failIngestStep_ok db db' id lease .normalizeAsset _ _ _ _ ok)
  | failIngestFingerprint id status errorCode errorMessage =>
    obtain ⟨answer, ok⟩ := written_some.mp h
    exact failed_presented (@Inbox.failIngestStep_ok db db' id lease .computeFingerprint _ _ _ _ ok)
  | failIngestFinalization id status errorCode errorMessage =>
    obtain ⟨answer, ok⟩ := written_some.mp h
    exact failed_presented (@Inbox.failIngestStep_ok db db' id lease .finalizeIngest _ _ _ _ ok)
  | beginWorkspaceCleanup ingestId workspaceId =>
    obtain ⟨start, ok⟩ := written_some.mp h
    exact beginWorkspaceCleanup_presented ok
  | claimPublish id expectedRevision =>
    obtain ⟨claim, ok⟩ := written_some.mp h
    exact claimPublish_presented ok
  | completePublish id generation token telegramMessageId =>
    obtain ⟨post, ok⟩ := written_some.mp h
    exact completePublish_presented ok
  | failPublish id generation token state errorClass errorMessage =>
    obtain ⟨post, ok⟩ := written_some.mp h
    exact failPublish_presented ok
  | retryPublish id generation token errorClass errorMessage =>
    obtain ⟨retry, ok⟩ := written_some.mp h
    exact retryPublish_presented ok
  | reconcileInterruptedPublish id =>
    obtain ⟨found, ok⟩ := written_some.mp h
    exact reconcileInterruptedPublish_presented ok

end Effects

section Moves
variable {w w' : World} {lease : JobLease} {event : Event}

/-- A step brings no lease, or the one that a claim grants. -/
inductive Moved (w w' : World) : Prop where
  | kept (fresh : w.db.fresh ≤ w'.db.fresh) (inherits : Inherits w.db.jobs w'.db.jobs)
      (log : ∀ lease, w'.granted lease ↔ w.granted lease)
  | granted (lease : JobLease) (old new : Job) (grant : Granted w w' lease old new)

theorem granted_ending {before after : Queue.Jobs} {presented : JobLease} {cause : Cause}
    {log : List Entry} :
    Entry.granted lease ∈ ending before after presented cause ++ log ↔ .granted lease ∈ log := by
  unfold ending
  split
  · exact granted_outcome
  · rw [List.nil_append]

theorem Stepped.moved (stepped : Stepped w w') : Moved w w' := by
  cases stepped with
  | quiet write log =>
    refine .kept write.grown write.inherits (fun lease => ?_)
    simp only [World.granted, log]
  | granted lease old new grant => exact .granted lease old new grant
  | ended presented lease cause old new ended =>
    refine .kept ended.ends.fresh ended.ends.inherits (fun lease => ?_)
    simp only [World.granted, ended.log, granted_outcome]

theorem advance_moved (h : w.advance event = some w') : Moved w w' := by
  cases event with
  | queue action =>
    simp only [World.advance, Option.ite_none_right_eq_some] at h
    exact (step_stepped h.2).moved
  | present lease operation =>
    simp only [World.advance, Option.ite_none_right_eq_some, Option.some.injEq] at h
    obtain ⟨granted, rfl⟩ := h
    cases performed : operation.perform w.db lease with
    | none => exact .kept le_rfl (.refl _) (fun _ => Iff.rfl)
    | some db =>
      have presented := perform_presented performed
      exact .kept presented.fresh presented.inherits (fun other => granted_ending)

/-- Tokens are drawn once: no two granted leases have the same, none has the
    next one, and rows show granted leases only. -/
structure Distinct (w : World) : Prop where
  drawn : ∀ lease, w.granted lease → lease.leaseToken < w.db.fresh
  unique : ∀ a b, w.granted a → w.granted b → a.leaseToken = b.leaseToken → a = b
  shown : ∀ key job lease, w.db.jobs.get key = some job → job.lease = some lease → w.granted lease

theorem distinct_initial : Distinct World.initial where
  drawn := fun lease granted => by cases granted
  unique := fun a b granted => by cases granted
  shown := fun key job lease found => by cases found

theorem granted_after {old new : Job} {newest : JobLease} (grant : Granted w w' newest old new) :
    w'.granted lease ↔ lease = newest ∨ w.granted lease := by
  simp only [World.granted, grant.log, List.mem_cons, Entry.granted.injEq]

theorem Moved.distinct (moved : Moved w w') (distinct : Distinct w) : Distinct w' := by
  cases moved with
  | kept fresh inherits log =>
    refine ⟨fun lease granted => ?_, fun a b first second => ?_, fun key job lease found shows => ?_⟩
    · exact lt_of_lt_of_le (distinct.drawn lease ((log lease).mp granted)) fresh
    · exact distinct.unique a b ((log a).mp first) ((log b).mp second)
    · obtain ⟨old, present, showed⟩ := inherits key job lease found shows
      exact (log lease).mpr (distinct.shown key old lease present showed)
  | granted newest old new grant =>
    have older : ∀ lease, w.granted lease → lease.leaseToken ≠ newest.leaseToken := by
      intro lease granted
      rw [grant.drawn]
      exact Nat.ne_of_lt (distinct.drawn lease granted)
    refine ⟨fun lease granted => ?_, fun a b first second token => ?_,
      fun key job lease found shows => granted_after grant |>.mpr ?_⟩
    · rw [grant.fresh]
      rcases (granted_after grant).mp granted with rfl | before
      · rw [grant.drawn]
        exact Nat.lt_succ_self _
      · exact Nat.lt_succ_of_lt (distinct.drawn lease before)
    · rcases (granted_after grant).mp first with rfl | before
      · rcases (granted_after grant).mp second with rfl | other
        · rfl
        · exact absurd token.symm (older b other)
      · rcases (granted_after grant).mp second with rfl | other
        · exact absurd token (older a before)
        · exact distinct.unique a b before other token
    · rw [grant.jobs, Jobs.get_put] at found
      split at found
      · cases found
        rw [grant.shows] at shows
        cases shows
        exact Or.inl rfl
      · exact Or.inr (distinct.shown key job lease found shows)

theorem distinct_run {events : List Event} {start : World} (distinct : Distinct start)
    (run : Run World.advance Unrestricted start events w) : Distinct w := by
  induction run with
  | nil => exact distinct
  | cons _ first _ ih => exact ih ((advance_moved first).distinct distinct)

end Moves

section Superseded
variable {w w' : World} {lease : JobLease} {event : Event}

/-- The lease was granted once, and its job does not show it any more. -/
structure Superseded (w : World) (lease : JobLease) : Prop where
  granted : w.granted lease
  gone : ∀ job, w.db.jobs.get lease.jobId.key = some job → job.lease ≠ some lease

theorem Moved.superseded (moved : Moved w w') (distinct : Distinct w)
    (superseded : Superseded w lease) : Superseded w' lease := by
  cases moved with
  | kept fresh inherits log =>
    refine ⟨(log lease).mpr superseded.granted, fun job found shows => ?_⟩
    obtain ⟨old, present, showed⟩ := inherits _ job lease found shows
    exact superseded.gone old present showed
  | granted newest old new grant =>
    refine ⟨(granted_after grant).mpr (Or.inr superseded.granted), fun job found shows => ?_⟩
    rw [grant.jobs, Jobs.get_put] at found
    split at found
    · cases found
      rw [grant.shows] at shows
      cases shows
      have drawn := distinct.drawn lease superseded.granted
      rw [grant.drawn] at drawn
      exact Nat.lt_irrefl _ drawn
    · exact superseded.gone job found shows

theorem superseded_run {events : List Event} (distinct : Distinct w)
    (superseded : Superseded w lease) (run : Run World.advance Unrestricted w events w') :
    Superseded w' lease := by
  induction run with
  | nil => exact superseded
  | cons _ first _ ih =>
    have moved := advance_moved first
    exact ih (moved.distinct distinct) (moved.superseded distinct superseded)

/-- The row of a superseded lease shows no lease with its token. -/
theorem Superseded.not_held (superseded : Superseded w lease) (distinct : Distinct w) :
    ¬ Held w.db lease := by
  rintro ⟨job, shown, found, shows, token⟩
  have same := distinct.unique shown lease (distinct.shown _ job shown found shows)
    superseded.granted token
  exact superseded.gone job found (same ▸ shows)

theorem superseded_changes_nothing {operation : Operation} {db : Db} (distinct : Distinct w)
    (superseded : Superseded w lease) (performed : operation.perform w.db lease = some db) :
    db = w.db :=
  (perform_presented performed).held.resolve_right (superseded.not_held distinct)

end Superseded

section Main
variable {w w' : World} {lease : JobLease} {event : Event}

/-- The ways a lease is superseded: its job was settled under it, completed by
    the last write of its stage, recovered, or claimed again. -/
inductive Supersedes (w : World) (lease : JobLease) (w' : World) : Event → Prop where
  | completed (db : Db) (done : Operation.completeLease.perform w.db lease = some db) :
      Supersedes w lease w' (.present lease .completeLease)
  | settled (job : Job) (settlement : JobSettlement) (db : Db)
      (done : (Operation.settleLease job settlement).perform w.db lease = some db) :
      Supersedes w lease w' (.present lease (.settleLease job settlement))
  | handedOver (operation : Operation) (db : Db) (ingest : Uuid) (stage : Stage)
      (request request' : Ingest) (job : Job) (jobs : Queue.Jobs)
      (done : operation.perform w.db lease = some db)
      (handed : Inbox.HandedOver w.db db ingest stage lease request request' job jobs) :
      Supersedes w lease w' (.present lease operation)
  | recovered (id : JobId) (expected : JobCommand) (named : lease.jobId = id)
      (changed : w'.db ≠ w.db) : Supersedes w lease w' (.queue (.recover id expected))
  | recoveredUntyped (id : JobId) (named : lease.jobId = id) (changed : w'.db ≠ w.db) :
      Supersedes w lease w' (.queue (.recoverUntyped id))
  | reclaimed (worker : String) (duration : Time) (capabilities : List JobType)
      (candidate : JobKey) (newer : JobLease) (named : newer.jobId = lease.jobId)
      (granted : w'.granted newer) (new : ¬ w.granted newer) :
      Supersedes w lease w' (.queue (.claim worker duration capabilities candidate))

/-- The row whose lease was ended shows none. -/
theorem Ends.gone {db db' : Db} {old new job : Job} (ends : Ends db db' lease old new)
    (found : db'.jobs.get lease.jobId.key = some job) : job.lease = none := by
  have after := (Jobs.find_eq_some _).mp (ends_find ends).2
  rw [after.1] at found
  cases found
  exact ends.ending.idle

theorem granted_present {result : Option Db} {other : JobLease} :
    (w.present lease result).granted other ↔ w.granted other := by
  cases result with
  | none => exact Iff.rfl
  | some db => exact granted_ending

/-- A presented operation after which the row shows no lease. -/
theorem superseded_present {operation : Operation} {db : Db} (granted : w.granted lease)
    (done : operation.perform w.db lease = some db)
    (gone : ∀ job, db.jobs.get lease.jobId.key = some job → job.lease = none) :
    Superseded (w.present lease (operation.perform w.db lease)) lease := by
  refine ⟨granted_present.mpr granted, fun job found => ?_⟩
  rw [done] at found
  rw [gone job found]
  nofun

theorem complete_gone {db : Db} {done job : Job} (distinct : Distinct w) (granted : w.granted lease)
    (h : complete w.db lease = .ok (db, done)) (found : db.jobs.get lease.jobId.key = some job) :
    job.lease = none := by
  rcases complete_ends h with ⟨rfl, finished, state, -⟩ | ⟨shown, old, named, token, ends, -⟩
  · rw [((Jobs.find_eq_some _).mp finished).1] at found
    cases found
    exact Job.lease_eq_none (by simp [state])
  · have same := distinct.unique lease shown granted
      (distinct.shown _ old shown ends.found ends.shows) token
    subst same
    exact ends.gone found

theorem loadAlreadyRequeued_queued {jobs : Queue.Jobs} {settlement : JobSettlement}
    {expected : JobCommand} {job : Job}
    (h : loadAlreadyRequeued jobs lease settlement expected = .ok job) :
    jobs.find lease.jobId = some job ∧ job.state = .queued := by
  unfold loadAlreadyRequeued at h
  split at h
  · cases h
  · rename_i row found
    rw [Option.filter_eq_some_iff, Bool.and_eq_true, beq_iff_eq] at found
    split at h
    · cases h
      exact ⟨found.1, found.2.1⟩
    · cases h

theorem settle_gone {db : Db} {settled done job : Job} {settlement : JobSettlement}
    (h : settleLease w.db settled lease settlement = .ok (db, done))
    (found : db.jobs.get lease.jobId.key = some job) : job.lease = none := by
  rcases settleLease_ends h with ⟨rfl, -, requeued⟩ | ⟨old, new, ends⟩
  · obtain ⟨row, state⟩ := loadAlreadyRequeued_queued requeued
    rw [((Jobs.find_eq_some _).mp row).1] at found
    cases found
    exact Job.lease_eq_none (by simp [state])
  · exact ends.gone found

theorem handedOver_gone {db : Db} {ingest : Uuid} {stage : Stage} {request request' : Ingest}
    {job row : Job} {jobs : Queue.Jobs}
    (handed : Inbox.HandedOver w.db db ingest stage lease request request' job jobs)
    (found : db.jobs.get lease.jobId.key = some row) : row.lease = none := by
  have key := w.db.jobs.get_key (lockCurrentJobAttempt_eq_some.mp handed.current).1
  have here : (jobs.put (job.succeeded w.db.now)).get lease.jobId.key =
      some (job.succeeded w.db.now) := by
    rw [← key]
    exact Jobs.get_put_self _ _
  rw [handed.jobs, here] at found
  cases found
  exact job.succeeded_idle w.db.now

theorem superseded_recovering {id : JobId} {db : Db} (granted : w.granted lease)
    (recovers : Recovers w.db db id) (named : lease.jobId = id) (changed : db ≠ w.db) :
    Superseded (w.recovering id db) lease := by
  obtain ⟨shown, old, new, names, ends⟩ := recovers.resolve_left changed
  have log : ∀ other, w.granted other → (w.recovering id db).granted other := by
    intro other before
    unfold World.recovering
    split
    · exact List.mem_append_right _ before
    · exact before
  have rows : (w.recovering id db).db = db := by
    unfold World.recovering
    split <;> rfl
  refine ⟨log lease granted, fun job found shows => ?_⟩
  rw [rows, named, ← names] at found
  rw [ends.gone found] at shows
  cases shows

theorem superseded_of_event (distinct : Distinct w) (granted : w.granted lease)
    (h : w.advance event = some w') (supersedes : Supersedes w lease w' event) :
    Superseded w' lease := by
  cases supersedes with
  | completed db done =>
    simp only [World.advance, if_pos granted, Option.some.injEq] at h
    subst h
    refine superseded_present granted done (fun job found => ?_)
    obtain ⟨answer, ok⟩ := written_some.mp done
    exact complete_gone distinct granted ok found
  | settled job settlement db done =>
    simp only [World.advance, if_pos granted, Option.some.injEq] at h
    subst h
    refine superseded_present granted done (fun row found => ?_)
    obtain ⟨answer, ok⟩ := written_some.mp done
    exact settle_gone ok found
  | handedOver operation db ingest stage request request' job jobs done handed =>
    simp only [World.advance, if_pos granted, Option.some.injEq] at h
    subst h
    exact superseded_present granted done (fun row found => handedOver_gone handed found)
  | recovered id expected named changed =>
    simp only [World.advance, Action.lease, if_true, World.step, Option.some.injEq] at h
    subst h
    refine superseded_recovering granted (recoverOne_recovers w.db id expected) named ?_
    intro same
    refine changed ?_
    unfold World.recovering
    split <;> exact same
  | recoveredUntyped id named changed =>
    simp only [World.advance, Action.lease, if_true, World.step, Option.some.injEq] at h
    subst h
    refine superseded_recovering granted (recoverQueueOnlyUntyped_recovers w.db id) named ?_
    intro same
    refine changed ?_
    unfold World.recovering
    split <;> exact same
  | reclaimed worker duration capabilities candidate newer named newest new =>
    cases advance_moved h with
    | kept fresh inherits log => exact absurd ((log newer).mp newest) new
    | granted drawn old row grant =>
      have same := ((granted_after grant).mp newest).resolve_right new
      subst same
      refine ⟨(granted_after grant).mpr (Or.inr granted), fun job found shows => ?_⟩
      have key : row.id.key = newer.jobId.key := by
        obtain ⟨columns, -, parts⟩ := Job.lease_eq_some.mp grant.shows
        rw [parts]
      rw [grant.jobs, ← named, ← key, Jobs.get_put_self] at found
      cases found
      rw [grant.shows] at shows
      cases shows
      exact new granted

/-- At most one lease of a job is current. -/
theorem current_lease_unique {db : Db} {other : JobLease}
    (current : Inbox.isCurrent db lease = true) (second : Inbox.isCurrent db other = true)
    (same : lease.jobId = other.jobId) : lease = other := by
  obtain ⟨job, first⟩ := Inbox.isCurrent_eq_true.mp current
  obtain ⟨row, later⟩ := Inbox.isCurrent_eq_true.mp second
  obtain ⟨found, shows, -⟩ := lockCurrentJobAttempt_eq_some.mp first
  obtain ⟨there, showed, -⟩ := lockCurrentJobAttempt_eq_some.mp later
  rw [same, there] at found
  cases found
  rw [showed] at shows
  cases shows
  rfl

theorem old_leases_change_nothing {events : List Event}
    (run : Run World.advance Unrestricted .initial events w) :
    (∀ lease other, Inbox.isCurrent w.db lease = true → Inbox.isCurrent w.db other = true →
      lease.jobId = other.jobId → lease = other) ∧
    (∀ lease event w', w.granted lease → w.advance event = some w' →
      Supersedes w lease w' event → Superseded w' lease) ∧
    (∀ lease, Superseded w lease → ∀ more w', Run World.advance Unrestricted w more w' →
      Superseded w' lease ∧
        ∀ operation db, Operation.perform w'.db lease operation = some db → db = w'.db) := by
  have distinct := distinct_run distinct_initial run
  refine ⟨fun lease other => current_lease_unique, fun lease event w' granted h supersedes =>
    superseded_of_event distinct granted h supersedes, fun lease superseded more w' later => ?_⟩
  have still := superseded_run distinct superseded later
  exact ⟨still, fun operation db =>
    superseded_changes_nothing (distinct_run distinct later) still⟩

/-- The lease of a worker that vanished. -/
def sampleOldLease : JobLease := ⟨⟨.uploadStorage 1 1, 0⟩, 1, "first", 1⟩

/-- An upload job that is recovered from one worker and claimed by another. -/
def sampleReclaim : List Event :=
  sampleRefund.map .queue ++
    [.queue (.claim "second" 60 [.uploadStorageAsset] (.uploadStorage 1 1))]

theorem vanished_worker_changes_nothing :
    ∃ w, Run World.advance Unrestricted .initial sampleReclaim w ∧ Superseded w sampleOldLease ∧
      ∀ operation db, Operation.perform w.db sampleOldLease operation = some db → db = w.db := by
  obtain ⟨w, reached, granted, row, found, shows⟩ : ∃ w,
      exec World.advance .initial sampleReclaim = some w ∧ w.granted sampleOldLease ∧
      ∃ row, w.db.jobs.get (.uploadStorage 1 1) = some row ∧
        row.lease = some ⟨⟨.uploadStorage 1 1, 0⟩, 1, "second", 2⟩ :=
    ⟨_, rfl, .tail _ (.tail _ (.head _)), _, rfl, rfl⟩
  have run := run_of_exec reached
  have superseded : Superseded w sampleOldLease := by
    refine ⟨granted, fun job there old => ?_⟩
    rw [show sampleOldLease.jobId.key = .uploadStorage 1 1 from rfl, found] at there
    cases there
    rw [shows] at old
    exact absurd (Option.some.inj old) (by decide)
  exact ⟨w, run, superseded, ((old_leases_change_nothing run).2.2 _ superseded [] w (.nil w)).2⟩

end Main

end Sooqa.Jobs
