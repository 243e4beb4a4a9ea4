import Sooqa.Publisher.Transactions

/-!
What each call writes in its post, said once for all calls: which lock covers
a post that is waiting or being sent, how it came to be so, where a
publication date comes from, and who may resolve repeat evidence.
-/
namespace Sooqa
open Foundation Queue

/-- Waiting to be sent or being sent: the states that occupy a cadence slot
    and the repeat window. -/
def Post.busy (post : Post) : Bool :=
  match post.state with
  | .queued | .sending _ _ => true
  | _ => false

namespace Publisher

/-- The call is a decision on this post. -/
def Call.decides (id : Uuid) : Call → Bool
  | .decidePost post _ _ _ => post == id
  | _ => false

def ChannelEnabled (db : Db) (id : Uuid) : Prop :=
  ∃ channel, db.channels.get id = some channel ∧ channel.isEnabled = true

/-- A post is waiting because it was before, under the same slot, or because
    the call queues it in an enabled channel at a slot no other post holds. -/
inductive Occupies (db : Db) (p : Uuid) (row : Post) : Prop where
  | kept (old : Post) (found : db.posts.get p = some old) (was : old.busy = true)
      (slot : row.cadenceSlotAt = old.cadenceSlotAt)
  | queued (enabled : ChannelEnabled db row.channelId)
      (free : ∀ slot, row.cadenceSlotAt = some slot → slot ∉ occupiedSlots db row.channelId p)

structure RowWrite (call : Call) (db : Db) (p : Uuid) (row : Post) : Prop where
  held : .post p ∈ call.locks db
  locked : row.busy = true → .channel row.channelId ∈ call.locks db
  same : ∀ old, db.posts.get p = some old →
    row.channelId = old.channelId ∧ row.mediaId = old.mediaId ∧ old.state.isFinal = false
  busy : row.busy = true → Occupies db p row
  dates : row.publishedAt = (db.posts.get p).bind (·.publishedAt) ∨
    (row.state = .published ∧ ∃ old, db.posts.get p = some old ∧ old.busy = true)
  evidence : ∀ old, db.posts.get p = some old → old.state = .draft → old.repeatEvidence.isSome →
    (row.state = .draft ∧ row.repeatEvidence = old.repeatEvidence) ∨ row.state = .cancelled ∨
      call.decides p = true

/-- The call leaves its post alone or writes it, and touches no other. -/
structure WritesPost (call : Call) (db result : Db) (p : Uuid) : Prop where
  others : ∀ q, q ≠ p → result.posts.get q = db.posts.get q
  row : result.posts.get p = db.posts.get p ∨
    ∃ row, result.posts.get p = some row ∧ RowWrite call db p row

section Rows
variable {calendar : Calendar} {isTimeZone : String → Bool} {call : Call} {db db' : Db} {p : Uuid}
  {old row : Post}

theorem WritesPost.unchanged : WritesPost call db db p := ⟨fun _ _ => rfl, Or.inl rfl⟩

theorem WritesPost.of_posts (posts : db'.posts = db.posts.set p row)
    (write : RowWrite call db p row) : WritesPost call db db' p where
  others := fun _ ne => by rw [posts, Table.get_set_ne _ _ ne]
  row := Or.inr ⟨row, by rw [posts, Table.get_set_self], write⟩

theorem WritesPost.of_job (job : JobWrite (setPost db p row) db' p)
    (write : RowWrite call db p row) : WritesPost call db db' p := .of_posts job.posts write

theorem busy_of_queued (h : row.state = .queued) : row.busy = true := by
  simp [Post.busy, h]

theorem busy_of_sending {token : Uuid} {startedAt : Time} (h : row.state = .sending token startedAt) :
    row.busy = true := by
  simp [Post.busy, h]

theorem idle_of_failed (h : row.state = .failed) : row.busy = false := by
  simp [Post.busy, h]

theorem idle_of_draft (h : row.state = .draft) : row.busy = false := by
  simp [Post.busy, h]

theorem state_of_busy (h : row.busy = true) :
    row.state = .queued ∨ ∃ token startedAt, row.state = .sending token startedAt := by
  unfold Post.busy at h
  split at h
  · exact Or.inl ‹_›
  · exact Or.inr ⟨_, _, ‹_›⟩
  · cases h

theorem not_draft_of_busy (h : row.busy = true) : row.state ≠ .draft := by
  intro draft
  simp [Post.busy, draft] at h

theorem not_final_of_mutable (h : row.state.isQueueMutable = true) : row.state.isFinal = false := by
  revert h
  cases row.state <;> simp [PostState.isQueueMutable, PostState.isFinal]

theorem not_final_of_busy (h : row.busy = true) : row.state.isFinal = false := by
  rcases state_of_busy h with queued | ⟨token, startedAt, sending⟩
  · rw [queued]
    rfl
  · rw [sending]
    rfl

theorem mem_postLocks (found : db.posts.get p = some old) :
    .channel old.channelId ∈ Call.postLocks db p ∧ .post p ∈ Call.postLocks db p := by
  simp [Call.postLocks, found]

/-- A post that leaves the queue, or never entered it. -/
theorem RowWrite.idle (found : db.posts.get p = some old) (open' : old.state.isFinal = false)
    (locks : call.locks db = Call.postLocks db p) (channel : row.channelId = old.channelId) (media : row.mediaId = old.mediaId)
    (idle : row.busy = false)
    (dates : row.publishedAt = old.publishedAt ∨ (row.state = .published ∧ old.busy = true))
    (evidence : old.state = .draft → old.repeatEvidence.isSome →
      (row.state = .draft ∧ row.repeatEvidence = old.repeatEvidence) ∨ row.state = .cancelled ∨
        call.decides p = true) : RowWrite call db p row where
  held := by rw [locks]; exact (mem_postLocks found).2
  locked := fun busy => by rw [idle] at busy; cases busy
  same := by
    intro other present
    obtain rfl := Option.some.inj (found.symm.trans present)
    exact ⟨channel, media, open'⟩
  busy := fun busy => by rw [idle] at busy; cases busy
  dates := by
    rcases dates with kept | ⟨published, was⟩
    · exact Or.inl (by rw [found]; exact kept)
    · exact Or.inr ⟨published, old, found, was⟩
  evidence := by
    intro other present draft some
    obtain rfl := Option.some.inj (found.symm.trans present)
    exact evidence draft some

/-- A post that waits on, keeps its slot and its date. -/
theorem RowWrite.waiting (found : db.posts.get p = some old) (was : old.busy = true)
    (locks : call.locks db = Call.postLocks db p) (channel : row.channelId = old.channelId)
    (media : row.mediaId = old.mediaId) (slot : row.cadenceSlotAt = old.cadenceSlotAt)
    (date : row.publishedAt = old.publishedAt) : RowWrite call db p row where
  held := by rw [locks]; exact (mem_postLocks found).2
  locked := fun _ => by rw [locks, channel]; exact (mem_postLocks found).1
  same := by
    intro other present
    obtain rfl := Option.some.inj (found.symm.trans present)
    exact ⟨channel, media, not_final_of_busy was⟩
  busy := fun _ => .kept old found was slot
  dates := Or.inl (by rw [found]; exact date)
  evidence := by
    intro other present draft
    obtain rfl := Option.some.inj (found.symm.trans present)
    exact absurd draft (not_draft_of_busy was)

/-- A post that an operation queues. -/
theorem RowWrite.queued (found : db.posts.get p = some old) (open' : old.state.isFinal = false)
    (locks : call.locks db = Call.postLocks db p) (channel : row.channelId = old.channelId)
    (media : row.mediaId = old.mediaId) (enabled : ChannelEnabled db old.channelId)
    (free : ∀ slot, row.cadenceSlotAt = some slot → slot ∉ occupiedSlots db old.channelId p)
    (date : row.publishedAt = old.publishedAt)
    (resolved : old.repeatEvidence.isSome → call.decides p = true) : RowWrite call db p row where
  held := by rw [locks]; exact (mem_postLocks found).2
  locked := fun _ => by rw [locks, channel]; exact (mem_postLocks found).1
  same := by
    intro other present
    obtain rfl := Option.some.inj (found.symm.trans present)
    exact ⟨channel, media, open'⟩
  busy := fun _ => .queued (channel ▸ enabled) (channel ▸ free)
  dates := Or.inl (by rw [found]; exact date)
  evidence := by
    intro other present _ some
    obtain rfl := Option.some.inj (found.symm.trans present)
    exact Or.inr (Or.inr (resolved some))

theorem searchFreeSlot_ok {channel : Channel} {occupied : List Time} {fuel : Nat}
    {candidate slot : Time}
    (h : searchFreeSlot calendar channel occupied fuel candidate = .ok slot) : slot ∉ occupied := by
  induction fuel generalizing candidate with
  | zero => cases h
  | succ fuel ih =>
    unfold searchFreeSlot at h
    split at h
    · rename_i free
      cases h
      exact free
    · simp only [bind_ok] at h
      obtain ⟨next, -, h⟩ := h
      exact ih h

theorem nextFreeSlot_ok {channelId : Uuid} {channel : Channel} {requestedAt slot : Time}
    (h : nextFreeSlot calendar db channelId channel p requestedAt = .ok slot) :
    slot ∉ occupiedSlots db channelId p := by
  simp only [nextFreeSlot, bind_ok] at h
  obtain ⟨candidate, -, h⟩ := h
  exact searchFreeSlot_ok h

theorem lockChannelAndPost_both {channel : Channel} {post : Post}
    (h : lockChannelAndPost db p = .ok (channel, post)) :
    db.posts.get p = some post ∧ db.channels.get post.channelId = some channel := by
  simp only [lockChannelAndPost, bind_ok, pure_ok, Prod.mk.injEq] at h
  obtain ⟨found, locked, other, there, rfl, rfl⟩ := h
  exact ⟨lockPost_ok locked, expect_ok.mp there⟩

theorem ensureChannelEnabled_ok {id : Uuid} {channel : Channel} {u : Unit}
    (h : ensureChannelEnabled id channel = .ok u) : channel.isEnabled = true := by
  unfold ensureChannelEnabled at h
  split at h
  · assumption
  · cases h

theorem ensureSchedulable_all {channel : Channel} {expected : Int} {u : Unit}
    (h : ensureSchedulable db p channel old expected = .ok u) :
    old.state.isQueueMutable = true ∧ old.repeatEvidence.isSome = false ∧
      channel.isEnabled = true := by
  simp only [ensureSchedulable, bind_ok, require_ok] at h
  obtain ⟨_, editable, _, -, _, resolved, _, enabled, -⟩ := h
  refine ⟨editable, ?_, ensureChannelEnabled_ok enabled⟩
  unfold ensureRepeatDecisionResolved at resolved
  split at resolved
  · cases resolved
  · rename_i none
    simpa using none

theorem commitQueued_job {current post : Post} {runAt : Time}
    (h : commitQueued db p current row runAt = .ok (db', post)) :
    JobWrite (setPost db p row) db' p := by
  unfold commitQueued at h
  split at h
  · simp only [bind_ok, pure_ok, Prod.mk.injEq] at h
    obtain ⟨written, job, rfl, -⟩ := h
    exact (insertPublishJob_ok job).1
  · simp only [bind_ok, pure_ok, Prod.mk.injEq] at h
    obtain ⟨written, job, rfl, -⟩ := h
    exact (updatePublishJob_ok job).1

end Rows

section Operations
variable {calendar : Calendar} {db db' : Db} {p : Uuid}

theorem updatePost_row {update : PostUpdate} {post : Post}
    (h : updatePost db p update = .ok (db', post)) :
    WritesPost (.updatePost p update) db db' p := by
  simp only [updatePost, bind_ok, require_ok, pure_ok, Prod.mk.injEq] at h
  obtain ⟨_, -, _, -, ⟨channel, current⟩, locked, _, editable, _, -, _, -, revision, next,
    written, job, rfl, rfl⟩ := h
  have found := lockChannelAndPost_ok locked
  unfold editPublishJob at job
  split at job
  · rename_i state
    exact .of_job (updatePublishJob_ok job).1
      (.waiting found (busy_of_queued state) rfl rfl rfl rfl rfl)
  · rename_i state
    refine .of_job (updateFailedPublishJob_ok job).1
      (.idle found (not_final_of_mutable editable) rfl rfl rfl (idle_of_failed state) (Or.inl rfl) ?_)
    intro draft
    rw [state] at draft
    cases draft
  · rename_i notQueued notFailed
    cases job
    have draft : current.state = .draft := by
      revert editable
      cases state : current.state <;> simp_all [PostState.isQueueMutable]
    refine .of_posts rfl
      (.idle found (not_final_of_mutable editable) rfl rfl rfl (idle_of_draft draft) (Or.inl rfl) ?_)
    intro _ _
    exact Or.inl ⟨draft, rfl⟩

theorem schedulePost_row {schedule : PostSchedule} {post : Post}
    (h : schedulePost calendar db schedule = .ok (db', post)) :
    WritesPost (.schedulePost schedule) db db' schedule.postId := by
  simp only [schedulePost, bind_ok] at h
  obtain ⟨⟨channel, current⟩, locked, h⟩ := h
  obtain ⟨found, there⟩ := lockChannelAndPost_both locked
  split at h
  · rw [replayed_effect h]
    exact .unchanged
  · simp only [bind_ok] at h
    obtain ⟨_, checked, slot, free, revision, next, h⟩ := h
    obtain ⟨editable, resolved, enabled⟩ := ensureSchedulable_all checked
    refine .of_job (commitQueued_job h)
      (.queued found (not_final_of_mutable editable) rfl rfl rfl ⟨channel, there, enabled⟩ ?_ rfl ?_)
    · intro taken same
      cases same
      exact nextFreeSlot_ok free
    · intro some
      rw [resolved] at some
      cases some

theorem schedulePostExact_row {schedule : PostSchedule} {post : Post}
    (h : schedulePostExact db schedule = .ok (db', post)) :
    WritesPost (.schedulePostExact schedule) db db' schedule.postId := by
  simp only [schedulePostExact, bind_ok] at h
  obtain ⟨⟨channel, current⟩, locked, h⟩ := h
  obtain ⟨found, there⟩ := lockChannelAndPost_both locked
  split at h
  · rw [replayed_effect h]
    exact .unchanged
  · simp only [bind_ok] at h
    obtain ⟨_, -, _, checked, revision, next, h⟩ := h
    obtain ⟨editable, resolved, enabled⟩ := ensureSchedulable_all checked
    refine .of_job (commitQueued_job h)
      (.queued found (not_final_of_mutable editable) rfl rfl rfl ⟨channel, there, enabled⟩
        (fun _ same => by cases same) rfl ?_)
    intro some
    rw [resolved] at some
    cases some

theorem publishNow_row {key : String} {expectedRevision : Int} {post : Post}
    (h : publishNow db p key expectedRevision = .ok (db', post)) :
    WritesPost (.publishNow p key expectedRevision) db db' p := by
  simp only [publishNow, bind_ok] at h
  obtain ⟨requestKey, -, ⟨channel, current⟩, locked, h⟩ := h
  obtain ⟨found, there⟩ := lockChannelAndPost_both locked
  split at h
  · rw [replayed_effect h]
    exact .unchanged
  · simp only [bind_ok] at h
    obtain ⟨_, checked, revision, next, h⟩ := h
    obtain ⟨editable, resolved, enabled⟩ := ensureSchedulable_all checked
    refine .of_job (commitQueued_job h)
      (.queued found (not_final_of_mutable editable) rfl rfl rfl ⟨channel, there, enabled⟩
        (fun _ same => by cases same) rfl ?_)
    intro some
    rw [resolved] at some
    cases some

theorem decidedInstant_free {channel : Channel} {current : Post} {decision : PublicationDecision}
    {scheduledAt : Time} {slot : Option Time}
    (h : decidedInstant calendar db p channel current decision = .ok (scheduledAt, slot)) :
    ∀ taken, slot = some taken → taken ∉ occupiedSlots db current.channelId p := by
  intro taken same
  subst same
  cases decision with
  | queueAnyway =>
    simp only [decidedInstant, bind_ok, pure_ok, Prod.mk.injEq] at h
    obtain ⟨free, found, -, same⟩ := h
    cases same
    exact nextFreeSlot_ok found
  | keepExactTime =>
    simp only [decidedInstant] at h
    split at h
    · cases h
    · simp only [bind_ok, pure_ok, Prod.mk.injEq] at h
      obtain ⟨-, -, -, none⟩ := h
      cases none
  | postNowAnyway =>
    simp only [decidedInstant, pure_ok, Prod.mk.injEq] at h
    cases h.2
  | cancel =>
    simp only [decidedInstant, pure_ok, Prod.mk.injEq] at h
    cases h.2

theorem decidePost_row {decision : PublicationDecision} {key : String}
    {expectedRevision : Int} {post : Post}
    (h : decidePost calendar db p decision key expectedRevision = .ok (db', post)) :
    WritesPost (.decidePost p decision key expectedRevision) db db' p := by
  simp only [decidePost, bind_ok] at h
  obtain ⟨requestKey, -, ⟨channel, current⟩, locked, h⟩ := h
  obtain ⟨found, there⟩ := lockChannelAndPost_both locked
  split at h
  · rw [replayed_effect h]
    exact .unchanged
  · simp only [bind_ok, require_ok] at h
    obtain ⟨_, draft, _, -, _, -, _, -, revision, next, h⟩ := h
    have live : current.state.isFinal = false := by rw [draft]; rfl
    split at h
    · simp only [pure_ok, Prod.mk.injEq] at h
      obtain ⟨rfl, -⟩ := h
      exact .of_posts rfl
        (.idle found live rfl rfl rfl rfl (Or.inl rfl) (fun _ _ => Or.inr (Or.inl rfl)))
    · simp only [bind_ok, pure_ok, Prod.mk.injEq] at h
      obtain ⟨_, enabled, _, -, ⟨scheduledAt, slot⟩, instant, written, job, rfl, -⟩ := h
      refine .of_job (insertPublishJob_ok job).1
        (.queued found live rfl rfl rfl ⟨channel, there, ensureChannelEnabled_ok enabled⟩
          (decidedInstant_free instant) rfl ?_)
      intro _
      simp [Call.decides]

theorem cancelPost_row {expectedRevision : Int} {post : Post}
    (h : cancelPost db p expectedRevision = .ok (db', post)) :
    WritesPost (.cancelPost p expectedRevision) db db' p := by
  simp only [cancelPost, bind_ok, require_ok, pure_ok, Prod.mk.injEq] at h
  obtain ⟨⟨channel, current⟩, locked, _, editable, _, -, written, job, revision, next, rfl, -⟩ := h
  have found := lockChannelAndPost_ok locked
  have posts : written.posts = db.posts := by
    unfold withdrawPublishJob at job
    split at job
    · cases job
      rfl
    · exact (cancelPublishJob_ok job).1.posts
  refine .of_posts (congrArg (Table.set · p _) posts) ?_
  exact .idle found (not_final_of_mutable editable) rfl rfl rfl rfl (Or.inl rfl)
    (fun _ _ => Or.inr (Or.inl rfl))

theorem claimPublish_row {expectedRevision : Int} {attempt : JobLease} {claim : PublishClaim}
    (h : claimPublish db p expectedRevision attempt = .ok (db', claim)) :
    WritesPost (.claimPublish p expectedRevision attempt) db db' p := by
  simp only [claimPublish, bind_ok, require_ok, pure_ok, Prod.mk.injEq] at h
  obtain ⟨⟨channel, current⟩, locked, _, -, _, queued, _, -, _, -, _, -, revision, -, generation,
    -, rfl, -⟩ := h
  have found := lockChannelAndPost_ok locked
  exact .of_posts rfl
    (.waiting found (busy_of_queued queued) rfl rfl rfl rfl rfl)

theorem busy_of_holdsClaim {post : Post} {lease : PublishLease} (h : holdsClaim post lease = true) :
    post.busy = true := by
  unfold holdsClaim at h
  split at h
  · rename_i sending
    exact busy_of_sending sending
  · cases h

theorem completePublish_row {lease : PublishLease} {messageId : Int} {post : Post}
    (h : completePublish db p lease messageId = .ok (db', post)) :
    WritesPost (.completePublish p lease messageId) db db' p := by
  simp only [completePublish, bind_ok, require_ok] at h
  obtain ⟨_, -, ⟨channel, current⟩, locked, _, -, h⟩ := h
  have found := lockChannelAndPost_ok locked
  split at h
  · simp only [bind_ok, pure_ok, Prod.mk.injEq] at h
    obtain ⟨_, -, rfl, -⟩ := h
    exact .unchanged
  · simp only [bind_ok, require_ok, pure_ok, Prod.mk.injEq] at h
    obtain ⟨_, holds, revision, -, rfl, -⟩ := h
    have was := busy_of_holdsClaim holds
    exact .of_posts rfl
      (.idle found (not_final_of_busy was) rfl rfl rfl rfl (Or.inr ⟨rfl, was⟩)
        (fun draft => absurd draft (not_draft_of_busy was)))

theorem failPublish_row {lease : PublishLease} {state : PostState}
    {errorClass errorMessage : String} {post : Post}
    (h : failPublish db p lease state errorClass errorMessage = .ok (db', post)) :
    WritesPost (.failPublish p lease state errorClass errorMessage) db db' p := by
  simp only [failPublish, bind_ok, require_ok, pure_ok, Prod.mk.injEq] at h
  obtain ⟨_, failure, ⟨channel, current⟩, locked, _, -, _, holds, revision, -, rfl, -⟩ := h
  have found := lockChannelAndPost_ok locked
  have was := busy_of_holdsClaim holds
  refine .of_posts rfl
    (.idle found (not_final_of_busy was) rfl rfl rfl ?_ (Or.inl rfl)
      (fun draft => absurd draft (not_draft_of_busy was)))
  rcases failure with rfl | rfl
  · rfl
  · rfl

theorem retryPublish_row {lease : PublishLease} {errorClass errorMessage : String}
    {retry : PublishRetry}
    (h : retryPublish db p lease errorClass errorMessage = .ok (db', retry)) :
    WritesPost (.retryPublish p lease errorClass errorMessage) db db' p := by
  simp only [retryPublish, bind_ok, require_ok] at h
  obtain ⟨⟨channel, current⟩, locked, job, -, _, holds, revision, -, h⟩ := h
  have found := lockChannelAndPost_ok locked
  have was := busy_of_holdsClaim holds
  have write : ∀ state, RowWrite (.retryPublish p lease errorClass errorMessage) db p
      { current with
        state := state
        errorClass := some errorClass
        errorMessage := some errorMessage
        revision := revision
        updatedAt := db.now } :=
    fun _ => .waiting found was rfl rfl rfl rfl rfl
  split at h
  · simp only [pure_ok, Prod.mk.injEq] at h
    obtain ⟨rfl, -⟩ := h
    exact .of_posts rfl (write _)
  · simp only [pure_ok, Prod.mk.injEq] at h
    obtain ⟨rfl, -⟩ := h
    exact .of_posts rfl (write _)

theorem reconcileInterruptedPublish_row {attempt : JobLease} {answer : Bool}
    (h : reconcileInterruptedPublish db p attempt = .ok (db', answer)) :
    WritesPost (.reconcileInterruptedPublish p attempt) db db' p := by
  simp only [reconcileInterruptedPublish, bind_ok] at h
  obtain ⟨⟨channel, current⟩, locked, _, -, h⟩ := h
  have found := lockChannelAndPost_ok locked
  split at h
  · rename_i token startedAt sending
    simp only [bind_ok, pure_ok, Prod.mk.injEq] at h
    obtain ⟨revision, -, rfl, -⟩ := h
    have was : current.busy = true := busy_of_sending sending
    exact .of_posts rfl
      (.idle found (not_final_of_busy was) rfl rfl rfl rfl (Or.inl rfl)
        (fun draft => absurd draft (not_draft_of_busy was)))
  · simp only [pure_ok, Prod.mk.injEq] at h
    obtain ⟨rfl, -⟩ := h
    exact .unchanged

theorem settleTerminalPublicationPost_row {call : Call}
    (locks : call.locks db = Call.postLocks db p) {revision : Int}
    {errorClass errorMessage : String}
    (h : settleTerminalPublicationPost db p revision errorClass errorMessage = .ok db') :
    WritesPost call db db' p := by
  unfold settleTerminalPublicationPost at h
  split at h
  · cases h
    exact .unchanged
  · rename_i post found
    simp only at h
    split at h
    · rename_i queued
      have was := busy_of_queued queued
      split at h
      · simp only [bind_ok, pure_ok] at h
        obtain ⟨next, -, rfl⟩ := h
        exact .of_posts rfl
          (.idle found (not_final_of_busy was) locks rfl rfl rfl (Or.inl rfl)
            (fun draft => absurd draft (not_draft_of_busy was)))
      · cases h
        exact .unchanged
    · rename_i token startedAt sending
      have was := busy_of_sending sending
      simp only [bind_ok, pure_ok] at h
      obtain ⟨next, -, rfl⟩ := h
      exact .of_posts rfl
        (.idle found (not_final_of_busy was) locks rfl rfl rfl (Or.inl rfl)
          (fun draft => absurd draft (not_draft_of_busy was)))
    · cases h
      exact .unchanged

/-- A locked publish job is one of the post its caller names. -/
theorem validated_post {job : Job} {postId : Uuid} {revision revision' : Int}
    (h : validateLockedCommand job (.publishPost p revision) = .ok (.publishPost postId revision')) :
    postId = p := by
  obtain ⟨same, owner⟩ := validateLockedCommand_ok h
  rw [← same] at owner
  exact (beq_iff_eq.mp owner).symm

theorem settlePublishJob_row {lease : JobLease} {revision : Int} {settlement : JobSettlement}
    {job : Job} (h : settlePublishJob db lease (.publishPost p revision) settlement = .ok (db', job)) :
    WritesPost (.settlePublishJob lease p revision settlement) db db' p := by
  simp only [settlePublishJob] at h
  split at h
  · cases h
  · split at h
    · rename_i locked _ postId expected validated
      obtain rfl := validated_post validated
      split at h
      · cases h
      · rename_i settled terminal
        cases h
        split at terminal
        · have written : WritesPost (.settlePublishJob lease postId revision settlement) db settled
              postId := settleTerminalPublicationPost_row rfl terminal
          exact ⟨written.others, written.row⟩
        · cases terminal
          exact ⟨fun _ _ => rfl, Or.inl rfl⟩
    · cases h

theorem recoverPublishJob_row {id : JobId} {revision : Int} {answer : Bool}
    (h : recoverPublishJob db id (.publishPost p revision) = .ok (db', answer)) :
    WritesPost (.recoverPublishJob id p revision) db db' p := by
  simp only [recoverPublishJob] at h
  split at h
  · cases h
    exact .unchanged
  · split at h
    · rename_i locked _ postId expected validated
      obtain rfl := validated_post validated
      split at h
      · cases h
      · rename_i settled terminal
        cases h
        split at terminal
        · have written : WritesPost (.recoverPublishJob id postId revision) db settled postId :=
            settleTerminalPublicationPost_row rfl terminal
          exact ⟨written.others, written.row⟩
        · cases terminal
          exact ⟨fun _ _ => rfl, Or.inl rfl⟩
    · cases h

/-- A new post. -/
theorem RowWrite.created {call : Call} {row : Post} (new : db.posts.get p = none)
    (held : .post p ∈ call.locks db) (date : row.publishedAt = none)
    (busy : row.busy = true → .channel row.channelId ∈ call.locks db ∧ Occupies db p row) :
    RowWrite call db p row where
  held := held
  locked := fun waits => (busy waits).1
  same := fun old present => by rw [new] at present; cases present
  busy := fun waits => (busy waits).2
  dates := Or.inl (by rw [new]; exact date)
  evidence := fun old present => by rw [new] at present; cases present

theorem createPostIdempotent_row {post : NewPost} {key : String} {hash : Digest}
    {result : CreatePostResult} (new : db.posts.get db.fresh = none)
    (h : createPostIdempotent db post key hash = .ok (db', result)) :
    WritesPost (.createPost post key hash) db db' db.fresh := by
  simp only [createPostIdempotent, bind_ok] at h
  obtain ⟨_, -, _, -, requestKey, -, _, -, channel, -, _, -, h⟩ := h
  split at h
  · simp only [bind_ok, pure_ok, Prod.mk.injEq] at h
    obtain ⟨_, -, rfl, -⟩ := h
    exact .unchanged
  · simp only [bind_ok, pure_ok, Prod.mk.injEq] at h
    obtain ⟨⟨written, id⟩, inserted, rfl, -⟩ := h
    obtain ⟨-, rfl⟩ := insertPost_ok inserted
    exact .of_posts rfl (.created new (by simp [Call.locks]) rfl (fun busy => by cases busy))

/-- An intended post that waits is queued, and its slot is free. -/
theorem intendedPost_occupies {channelId mediaId : Uuid} {channel : Channel} {key : String}
    {hash : Digest} {origin : Option Uuid} {intent : PublicationIntent} {evaluationAt : Time}
    (instant : evaluationInstant calendar db channelId channel intent = .ok evaluationAt)
    (enabled : ChannelEnabled db channelId) :
    Occupies db db.fresh
      (intendedPost db key hash origin mediaId channelId channel intent evaluationAt) := by
  refine .queued enabled ?_
  intro slot taken
  simp only [intendedPost, Option.ite_none_right_eq_some, Option.some.injEq] at taken
  obtain ⟨⟨-, action, time⟩, rfl⟩ := taken
  simp only [evaluationInstant, action, time] at instant
  exact nextFreeSlot_ok instant

theorem insertIntendedPost_row {call : Call} {key : String} {hash : Digest} {origin : Option Uuid}
    {mediaId channelId : Uuid} {channel : Channel} {intent : PublicationIntent}
    {result : CreatePostResult} (new : db.posts.get db.fresh = none)
    (enabled : ChannelEnabled db channelId) (held : .post db.fresh ∈ call.locks db)
    (locked : .channel channelId ∈ call.locks db)
    (h : insertIntendedPost calendar db key hash origin mediaId channelId channel intent =
      .ok (db', result)) : WritesPost call db db' db.fresh := by
  simp only [insertIntendedPost, bind_ok] at h
  obtain ⟨evaluationAt, instant, ⟨written, id⟩, inserted, h⟩ := h
  have write : RowWrite call db db.fresh
      (intendedPost db key hash origin mediaId channelId channel intent evaluationAt) :=
    .created new held rfl (fun _ => ⟨locked, intendedPost_occupies instant enabled⟩)
  obtain ⟨rfl, rfl⟩ := insertPost_ok inserted
  split at h
  · simp only [bind_ok, pure_ok, Prod.mk.injEq] at h
    obtain ⟨final, job, rfl, -⟩ := h
    exact .of_posts (insertPublishJob_ok job).1.posts write
  · simp only [pure_ok, Prod.mk.injEq] at h
    obtain ⟨rfl, -⟩ := h
    exact .of_posts rfl write

theorem ensurePublicationChannel_ok {ids : List Uuid} {id : Uuid}
    (h : ensurePublicationChannel ids = .ok id) : ids = [id] := by
  unfold ensurePublicationChannel at h
  split at h
  · cases h
  · cases h
    rfl
  · cases h

theorem candidate_enabled {id : Uuid} (h : id ∈ selectEnabledChannelCandidates db) :
    ChannelEnabled db id := by
  have member := List.mem_of_mem_take h
  rw [List.mem_insertionSort, List.mem_map] at member
  obtain ⟨⟨other, channel⟩, row, rfl⟩ := member
  obtain ⟨there, enabled⟩ := List.mem_filter.mp row
  exact ⟨channel, (Table.mem_rows_iff db.channels other channel).mp there, enabled⟩

theorem createPublicationIntent_row {mediaId : Uuid} {intent : PublicationIntent}
    {key : String} {result : CreatePostResult} (new : db.posts.get db.fresh = none)
    (h : createPublicationIntent calendar db mediaId intent key = .ok (db', result)) :
    WritesPost (.createIntent mediaId intent key) db db' db.fresh := by
  simp only [createPublicationIntent, bind_ok] at h
  obtain ⟨requestKey, -, h⟩ := h
  split at h
  · simp only [bind_ok, pure_ok, Prod.mk.injEq] at h
    obtain ⟨_, -, rfl, -⟩ := h
    exact .unchanged
  · simp only [bind_ok] at h
    obtain ⟨_, -, channelId, single, channel, -, h⟩ := h
    have candidates := ensurePublicationChannel_ok single
    have member : channelId ∈ selectEnabledChannelCandidates db := by rw [candidates]; simp
    exact insertIntendedPost_row new (candidate_enabled member) (by simp [Call.locks])
      (List.mem_append_right _ (List.mem_map_of_mem member)) h

theorem materializeIngest_row {ingestId : Uuid} {result : Option CreatePostResult}
    (new : db.posts.get db.fresh = none)
    (h : materializeIngest calendar db ingestId = .ok (db', result)) :
    WritesPost (.materialize ingestId) db db' db.fresh := by
  simp only [materializeIngest, bind_ok, expect_ok] at h
  obtain ⟨ingest, found, h⟩ := h
  split at h
  · simp only [pure_ok, Prod.mk.injEq] at h
    obtain ⟨rfl, -⟩ := h
    exact .unchanged
  · simp only [bind_ok] at h
    obtain ⟨_, -, h⟩ := h
    split at h
    · simp only [pure_ok, Prod.mk.injEq] at h
      obtain ⟨rfl, -⟩ := h
      exact .unchanged
    · simp only [bind_ok, expect_ok, pure_ok, Prod.mk.injEq] at h
      obtain ⟨mediaId, -, _, -, channelId, requested, channel, there, _, enabled, intent, -,
        ⟨written, inserted⟩, h, rfl, -⟩ := h
      refine insertIntendedPost_row new ⟨channel, expect_ok.mp there,
        ensureChannelEnabled_ok enabled⟩ ?_ ?_ h
      · simp [Call.locks, found]
      · simp [Call.locks, found, requested]

end Operations

section Calls
variable {calendar : Calendar} {isTimeZone : String → Bool} {call : Call} {db db' : Db} {p : Uuid}

/-- What a call writes in its post. -/
theorem Call.run_post (ran : call.run calendar isTimeZone db = some db')
    (target : call.target db = .post p) (new : db.posts.get db.fresh = none) :
    WritesPost call db db' p := by
  cases call with
  | createPost post key hash =>
    cases target
    obtain ⟨answer, ok⟩ := stored_some ran
    exact createPostIdempotent_row new ok
  | createIntent mediaId intent key =>
    cases target
    obtain ⟨answer, ok⟩ := stored_some ran
    exact createPublicationIntent_row new ok
  | materialize ingestId =>
    cases target
    obtain ⟨answer, ok⟩ := stored_some ran
    exact materializeIngest_row new ok
  | updatePost id update =>
    cases target
    obtain ⟨answer, ok⟩ := stored_some ran
    exact updatePost_row ok
  | schedulePost schedule =>
    cases target
    obtain ⟨answer, ok⟩ := stored_some ran
    exact schedulePost_row ok
  | schedulePostExact schedule =>
    cases target
    obtain ⟨answer, ok⟩ := stored_some ran
    exact schedulePostExact_row ok
  | decidePost id decision key expectedRevision =>
    cases target
    obtain ⟨answer, ok⟩ := stored_some ran
    exact decidePost_row ok
  | publishNow id key expectedRevision =>
    cases target
    obtain ⟨answer, ok⟩ := stored_some ran
    exact publishNow_row ok
  | cancelPost id expectedRevision =>
    cases target
    obtain ⟨answer, ok⟩ := stored_some ran
    exact cancelPost_row ok
  | claimPublish id expectedRevision attempt =>
    cases target
    obtain ⟨answer, ok⟩ := stored_some ran
    exact claimPublish_row ok
  | completePublish id lease messageId =>
    cases target
    obtain ⟨answer, ok⟩ := stored_some ran
    exact completePublish_row ok
  | failPublish id lease state errorClass errorMessage =>
    cases target
    obtain ⟨answer, ok⟩ := stored_some ran
    exact failPublish_row ok
  | retryPublish id lease errorClass errorMessage =>
    cases target
    obtain ⟨answer, ok⟩ := stored_some ran
    exact retryPublish_row ok
  | reconcileInterruptedPublish id attempt =>
    cases target
    obtain ⟨answer, ok⟩ := stored_some ran
    exact reconcileInterruptedPublish_row ok
  | settlePublishJob lease postId revision settlement =>
    cases target
    obtain ⟨answer, ok⟩ := stored_some ran
    exact settlePublishJob_row ok
  | recoverPublishJob id postId revision =>
    cases target
    obtain ⟨answer, ok⟩ := stored_some ran
    exact recoverPublishJob_row ok
  | createChannel channel => cases target
  | updateChannel id update => cases target

/-- A settings call writes its channel and holds the configuration; an update
    holds the channel too, a new channel has the next identifier. -/
theorem Call.run_channel {id : Uuid} (ran : call.run calendar isTimeZone db = some db')
    (target : call.target db = .channel id) :
    ChannelWrite db db' id ∧ .configuration ∈ call.locks db ∧
      ((.channel id ∈ call.locks db ∧ ∃ channel, db.channels.get id = some channel) ∨
        id = db.fresh) := by
  cases call with
  | createChannel channel =>
    cases target
    obtain ⟨answer, ok⟩ := stored_some ran
    exact ⟨createChannelUnambiguous_ok ok, by simp [Call.locks], Or.inr rfl⟩
  | updateChannel other update =>
    cases target
    obtain ⟨answer, ok⟩ := stored_some ran
    obtain ⟨write, found⟩ := updateChannel_ok ok
    exact ⟨write, by simp [Call.locks], Or.inl ⟨by simp [Call.locks], found⟩⟩
  | _ => cases target

end Calls

end Publisher

end Sooqa
