import Sooqa.Publisher.AtMostOnce
import Sooqa.Retention.Resumption
import Sooqa.Retention.Stages
import Sooqa.Storage.Dispatch

/-!
Retention as a whole: what a pruned row can and cannot change, over the runs of
the three sides that finished jobs fence.
-/
namespace Sooqa.Retention
open Foundation Queue

/-- A prune deletes one row that neither waits nor runs and nothing else, as
    the step of its family does. In every run with any number of prunes at most
    one request of a post is not refused, at most one upload of a media
    generation was sent, and an ingest has at most one post. After a stage job
    was pruned no stage of its ingest is begun, and after an upload job was
    pruned its generation is not reserved. Every operation on a post, the retry
    of a caption and the reset of an upload that succeeds beside a finished row
    succeeds without it, with the same answer and no less work. -/
theorem retention_is_safe (calendar : Publisher.Calendar) :
    (∀ db policy now job db', pruneCandidate db policy now job = some db' →
      Pruned db db' job.id.key ∧ (∀ other row, db.jobs.get other = some row →
        row.state.live = true → db'.jobs.get other = some row) ∧
      (policy.validate = .ok () → now ≤ db.now →
        ∃ cutoff, prune db job.id.key cutoff = some db')) ∧
    (∀ acts w, Run (Publisher.step calendar) Unrestricted Publisher.initial acts w →
      ∀ f g x y, w.flights.get f = some x → w.flights.get g = some y → x.postId = y.postId →
        x.fate ≠ some .refused → y.fate ≠ some .refused → f = g) ∧
    (∀ acts w, Run Storage.step Unrestricted Storage.initial acts w →
      (∀ one other r s, w.reservations.get one = some r → w.reservations.get other = some s →
        r.mediaId = s.mediaId → r.generation = s.generation → r.state = .sent → s.state = .sent →
        one = other) ∧
      ∀ m generation cutoff v later w', Storage.step w (.prune (.uploadStorage m generation) cutoff) =
        some v → Run Storage.step Unrestricted v later w' →
        ∀ db ownerToken metadata, Library.reserveStorageUpload w'.db m generation ≠
          .ok (db, .reserved ownerToken metadata)) ∧
    (∀ acts w, Run (Inbox.step calendar) Unrestricted Inbox.initial acts w →
      (∀ ingestId one other post post', w.db.posts.get one = some post →
        w.db.posts.get other = some post' → post.originIngestId = some ingestId →
        post'.originIngestId = some ingestId → one = other) ∧
      ∀ stage id forceSave cutoff v later w' act w'',
        Inbox.step calendar w (.prune (.stage stage id forceSave) cutoff) = some v →
        Run (Inbox.step calendar) Unrestricted v later w' →
        Inbox.step calendar w' act = some w'' → ¬ Executes w' w'' id) ∧
    (∀ schedule, StillPossible (fun db => Publisher.schedulePost calendar db schedule)) ∧
    (∀ schedule, StillPossible (fun db => Publisher.schedulePostExact db schedule)) ∧
    (∀ id key revision, StillPossible (fun db => Publisher.publishNow db id key revision)) ∧
    (∀ id update, StillPossible (fun db => Publisher.updatePost db id update)) ∧
    (∀ id revision, StillPossible (fun db => Publisher.cancelPost db id revision)) ∧
    (∀ id decision key revision,
      StillPossible (fun db => Publisher.decidePost calendar db id decision key revision)) ∧
    (∀ id, StillPossible (fun db => Captions.retryCaptionSync db id)) ∧
    (∀ id, StillPossible (fun db => Library.resetStorageUpload db id)) := by
  refine ⟨?_, ?_, ?_, ?_, schedulePost_possible calendar, schedulePostExact_possible,
    publishNow_possible, updatePost_possible, cancelPost_possible, decidePost_possible calendar,
    retryCaptionSync_possible, resetStorageUpload_possible⟩
  · intro db policy now job db' h
    have pruned := pruneCandidate_pruned h
    exact ⟨pruned, fun other row found live => pruned.keeps found live,
      fun valid reached => pruneCandidate_prune valid reached h⟩
  · intro acts w run f g x y first second same liveX liveY
    obtain ⟨-, once⟩ := Publisher.run_once run y.postId
    obtain ⟨token, bound⟩ := Publisher.bound_boundTo once.bound
    exact once.ledger.single f g x y first second same rfl
      ((bound.flights f x first same liveX).trans (bound.flights g y second rfl liveY).symm)
      liveX liveY
  · intro acts w run
    have inv := Storage.guarded_run run
    refine ⟨?_, ?_⟩
    · intro one other r s first second media generation sent again
      exact inv.reserved.single one other r s first second (Or.inr sent) (Or.inr again) media
        generation
    · intro m generation cutoff v later w' pruned tail db ownerToken metadata reserved
      have retired : Storage.Retired w.db m generation := by
        simp only [Storage.step, Option.bind_eq_bind, Option.bind_eq_some_iff] at pruned
        obtain ⟨gone, deleted, -⟩ := pruned
        exact inv.retires deleted
      have closed := (retired.step inv pruned).run (inv.step pruned) tail
      exact closed.refused reserved ownerToken metadata rfl
  · intro acts w run
    refine ⟨(Inbox.Origins.run run Inbox.origins_initial).unique, ?_⟩
    intro stage id forceSave cutoff v later w' act w'' pruned tail next
    exact pruned_stage_never_executes (Inbox.Pipeline.run run) pruned tail next

/-- Post 0 is published and its job pruned a month later. -/
def samplePublished : List Publisher.Action :=
  Publisher.sampleIntent ++ [.claimJob "a" (30 * second) 0, .call 2 .answered, .call 2 .answered,
    .dispatch 2, .process 4 (.delivered 9), .answer 2 (.sent 9), .call 2 .answered,
    .finish 2 .answered, .tick (31 * day), .prune 0 (30 * day)]

/-- The pruned post keeps the one request that published it. -/
theorem pruned_post_was_sent_once :
    ∃ w, exec (Publisher.step Publisher.sampleCalendar) Publisher.initial samplePublished = some w ∧
      w.db.jobs.get (.publish 0) = none ∧ (w.db.posts.get 0).map (·.state) = some .published ∧
      ∀ f g x y, w.flights.get f = some x → w.flights.get g = some y → x.postId = y.postId →
        x.fate ≠ some .refused → y.fate ≠ some .refused → f = g := by
  obtain ⟨w, reached, gone, published⟩ : ∃ w,
      exec (Publisher.step Publisher.sampleCalendar) Publisher.initial samplePublished = some w ∧
        w.db.jobs.get (.publish 0) = none ∧ (w.db.posts.get 0).map (·.state) = some .published :=
    ⟨_, rfl, rfl, rfl⟩
  exact ⟨w, reached, gone, published,
    (retention_is_safe Publisher.sampleCalendar).2.1 samplePublished w (run_of_exec reached)⟩

end Sooqa.Retention
