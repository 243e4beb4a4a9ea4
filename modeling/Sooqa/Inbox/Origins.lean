import Sooqa.Inbox.Workspaces

/-!
The posts of an ingest. Only materialization gives a post an origin, under the
unique index on it, and nothing changes the origin of a post or deletes one.
So an ingest has at most one post, and a materialization that finds the ingest
completed a second time finds that post.
-/
namespace Sooqa.Inbox
open Foundation Queue Worker

section Transactions
variable {db db' : Db} {calendar : Publisher.Calendar}

/-- A post with this origin was placed under a fresh identifier, where the
    origin had none. -/
structure Posted (db db' : Db) (postId : Uuid) (post : Post) : Prop where
  drawn : postId = db.fresh ∧ db.fresh < db'.fresh
  here : db'.posts.get postId = some post
  others : ∀ other, other ≠ postId → db'.posts.get other = db.posts.get other
  new : ∀ ingestId, post.originIngestId = some ingestId →
    ∀ other row, db.posts.get other = some row → row.originIngestId ≠ some ingestId

theorem findPostByOrigin_none {ingestId : Uuid}
    (h : (Publisher.findPostByOrigin db ingestId).isNone = true) :
    ∀ postId post, db.posts.get postId = some post → post.originIngestId ≠ some ingestId := by
  intro postId post found same
  have member := (Table.mem_rows_iff db.posts postId post).mpr found
  rw [Option.isNone_iff_eq_none] at h
  have refused := List.find?_eq_none.mp h (postId, post) member
  simp [same] at refused

theorem insertIntendedPost_posted {key : String} {hash : Digest} {origin : Option Uuid}
    {mediaId channelId : Uuid} {channel : Channel} {intent : PublicationIntent}
    {result : Publisher.CreatePostResult}
    (h : Publisher.insertIntendedPost calendar db key hash origin mediaId channelId channel intent =
      .ok (db', result)) :
    Posted db db' result.id result.post ∧ result.post.originIngestId = origin := by
  simp only [Publisher.insertIntendedPost, bind_ok] at h
  obtain ⟨evaluationAt, -, ⟨written, id⟩, inserted, h⟩ := h
  have unique := inserted
  simp only [Publisher.insertPost, bind_ok, require_ok] at unique
  obtain ⟨-, -, -, absent, -⟩ := unique
  obtain ⟨rfl, rfl⟩ := Publisher.insertPost_ok inserted
  have new : ∀ ingestId, origin = some ingestId →
      ∀ other row, db.posts.get other = some row → row.originIngestId ≠ some ingestId := by
    rintro ingestId rfl
    exact findPostByOrigin_none (absent ingestId rfl)
  split at h
  · simp only [bind_ok, pure_ok, Prod.mk.injEq] at h
    obtain ⟨final, job, rfl, rfl⟩ := h
    obtain ⟨write, -⟩ := Publisher.insertPublishJob_ok job
    refine ⟨⟨⟨rfl, Nat.lt_of_lt_of_le (Nat.lt_succ_self _) write.fresh⟩, ?_, fun other ne => ?_, new⟩,
      rfl⟩
    · rw [write.posts]
      exact Table.get_set_self _ _ _
    · rw [write.posts]
      exact Table.get_set_ne _ _ ne
  · simp only [pure_ok, Prod.mk.injEq] at h
    obtain ⟨rfl, rfl⟩ := h
    exact ⟨⟨⟨rfl, Nat.lt_succ_self _⟩, Table.get_set_self _ _ _,
      fun other ne => Table.get_set_ne _ _ ne, new⟩, rfl⟩

theorem createPublicationIntent_posted {mediaId : Uuid} {intent : PublicationIntent} {key : String}
    {result : Publisher.CreatePostResult}
    (h : Publisher.createPublicationIntent calendar db mediaId intent key = .ok (db', result)) :
    db' = db ∨ Posted db db' result.id result.post := by
  simp only [Publisher.createPublicationIntent, bind_ok] at h
  obtain ⟨requestKey, -, h⟩ := h
  split at h
  · simp only [bind_ok, pure_ok, Prod.mk.injEq] at h
    exact Or.inl h.choose_spec.2.1.symm
  · simp only [bind_ok] at h
    obtain ⟨-, -, channelId, -, channel, -, placed⟩ := h
    exact Or.inr (insertIntendedPost_posted placed).1

/-- A materialization answers with the post of its ingest, found or placed. -/
theorem materializeIngest_posted {ingestId : Uuid} {result : Option Publisher.CreatePostResult}
    (h : Publisher.materializeIngest calendar db ingestId = .ok (db', result)) :
    ∃ request, db.ingests.get ingestId = some request ∧
      ((request.requestedAction = .save ∧ db' = db ∧ result = none) ∨
        (request.requestedAction ≠ .save ∧ request.status = .completed ∧ ∃ answer,
          result = some answer ∧ answer.post.originIngestId = some ingestId ∧
          ((db' = db ∧ db.posts.get answer.id = some answer.post) ∨
            Posted db db' answer.id answer.post))) := by
  simp only [Publisher.materializeIngest, bind_ok, expect_ok] at h
  obtain ⟨request, found, h⟩ := h
  refine ⟨request, found, ?_⟩
  split at h
  · rename_i saved
    simp only [pure_ok, Prod.mk.injEq] at h
    refine Or.inl ⟨?_, h.1.symm, h.2.symm⟩
    cases action : request.requestedAction <;>
      simp_all [Publisher.RequestedAction.publication]
  · rename_i action asked
    simp only [bind_ok, require_ok] at h
    obtain ⟨-, completed, h⟩ := h
    have publishes : request.requestedAction ≠ .save := by
      intro saved
      rw [saved] at asked
      cases asked
    refine Or.inr ⟨publishes, completed, ?_⟩
    split at h
    · rename_i postId post known
      simp only [pure_ok, Prod.mk.injEq] at h
      obtain ⟨rfl, rfl⟩ := h
      obtain ⟨row, origin⟩ := findPostByOrigin_some known
      exact ⟨_, rfl, origin, Or.inl ⟨rfl, row⟩⟩
    · simp only [bind_ok, pure_ok, Prod.mk.injEq] at h
      obtain ⟨mediaId, -, _, -, channelId, -, channel, -, _, -, intent, -, ⟨written, inserted⟩,
        placed, rfl, rfl⟩ := h
      obtain ⟨posted, origin⟩ := insertIntendedPost_posted placed
      exact ⟨inserted, rfl, origin, Or.inr posted⟩

end Transactions

section Steps
variable {calendar : Publisher.Calendar} {w w' : World} {act : Action}

/-- What a step does to the posts. -/
inductive PostsMove (db db' : Db) : Prop where
  | same (posts : db'.posts = db.posts) (fresh : db.fresh ≤ db'.fresh)
  | posted (postId : Uuid) (post : Post) (posted : Posted db db' postId post)
  | edited (postId : Uuid) (post : Post) (posts : db'.posts = db.posts.set postId post)
      (drawn : postId < db.fresh)
      (origin : (db.posts.get postId).bind (·.originIngestId) = post.originIngestId)
      (fresh : db.fresh ≤ db'.fresh)

theorem PostsMove.refl (db : Db) : PostsMove db db := .same rfl le_rfl

theorem committed_posts {ε α : Type} {db : Db} {result : Except ε (Db × α)}
    (effect : ∀ db' answer, result = .ok (db', answer) → PostsMove db db') :
    PostsMove db (committed db result) := by
  rcases committed_cases db result with same | ⟨answer, ok⟩
  · rw [same]
    exact .refl _
  · exact effect _ answer ok

theorem StageSettled.posts {db db' : Db} {job : Job} {id : Uuid}
    (effect : StageSettled db db' job id) : PostsMove db db' := by
  cases effect with
  | requeued settled jobs same state ingests posts now fresh => exact .same posts fresh
  | abandoned settled middle added jobs same state request found write =>
    exact .same write.posts write.fresh
  | orphaned settled jobs same state absent ingests posts now fresh => exact .same posts fresh

theorem CallEffect.posts {attempt : Attempt} {db db' : Db} {phase : Phase}
    (effect : CallEffect calendar attempt db db' phase) : PostsMove db db' := by
  cases effect with
  | refused unchanged => exact unchanged ▸ .refl _
  | loaded unchanged => exact unchanged ▸ .refl _
  | materialized ingestId command result ok =>
    obtain ⟨request, -, ⟨-, rfl, -⟩ | ⟨-, -, answer, -, -, ⟨rfl, -⟩ | posted⟩⟩ :=
      materializeIngest_posted ok
    · exact .refl _
    · exact .refl _
    · exact .posted _ _ posted
  | cleanup ingestId workspaceId command start ok =>
    obtain ⟨-, -, posts, -, fresh⟩ := beginWorkspaceCleanup_ok ok
    exact .same posts (le_of_eq fresh.symm)
  | passed stage id of passed => exact passed.unchanged ▸ .refl _
  | begun stage id of was request begun effect => exact .same effect.write.posts effect.write.fresh
  | resolved ingest was write =>
    rcases write with unchanged | media
    · exact unchanged ▸ .refl _
    · exact .same media.posts media.fresh
  | identified ingest fingerprint was unchanged => exact unchanged ▸ .refl _
  | stopped stage id of was stopped => exact stopped.unchanged ▸ .refl _
  | handedOver stage id of was request request' job jobs effect =>
    exact .same effect.write.posts effect.write.fresh
  | failed stage id of was request request' effect =>
    exact .same effect.write.posts effect.write.fresh

theorem settleJob_posts (db : Db) (lease : JobLease) (expected : JobCommand)
    (settlement : JobSettlement) :
    PostsMove db (committed db (settleJob db lease expected settlement)) := by
  refine committed_posts (fun db' answer ok => ?_)
  obtain ⟨job, id, -, -, -, effect⟩ := settleJob_ok ok
  exact effect.posts

theorem settle_posts (attempt : Attempt) (db : Db) (settlement : JobSettlement) :
    PostsMove db (attempt.settle db settlement) := by
  unfold Attempt.settle
  split
  · rename_i ingestId command
    refine committed_posts (fun db' answer ok => ?_)
    simp only [command, Publisher.settleMaterializeJob, bind_ok, pure_ok, Prod.mk.injEq] at ok
    obtain ⟨⟨jobs, job⟩, -, rfl, -⟩ := ok
    exact .same rfl le_rfl
  · split
    · exact .same rfl le_rfl
    · exact .refl _
  · exact settleJob_posts _ _ _ _

theorem finish_posts {attempt : Attempt} {db db' : Db} (h : attempt.finish db = some db') :
    PostsMove db db' := by
  unfold Attempt.finish at h
  split at h
  · split at h
    · cases h
      exact .same rfl le_rfl
    · cases h
      exact .refl _
  · split at h
    · cases h
      exact settle_posts _ _ _
    · cases h
      exact .refl _
  · cases h

theorem recover_posts (db : Db) (id : JobId) (expected : JobCommand) :
    PostsMove db (recover db id expected) := by
  unfold recover
  split
  · refine committed_posts (fun db' answer ok => ?_)
    simp only [Publisher.recoverMaterializeJob, bind_ok] at ok
    obtain ⟨recovered, -, ok⟩ := ok
    split at ok
    · simp only [pure_ok, Prod.mk.injEq] at ok
      obtain ⟨rfl, -⟩ := ok
      exact .same rfl le_rfl
    · simp only [pure_ok, Prod.mk.injEq] at ok
      obtain ⟨rfl, -⟩ := ok
      exact .refl _
  · refine committed_posts (fun db' answer ok => ?_)
    rcases recoverJob_ok ok with rfl | ⟨job, lease, ingestId, -, -, -, effect⟩
    · exact .refl _
    · exact effect.posts

/-- What each step does to the posts. -/
theorem step_posts (h : step calendar w act = some w') : PostsMove w.db w'.db := by
  cases act with
  | createIngest submission =>
    simp only [step, Option.ite_none_right_eq_some, Option.some.injEq] at h
    obtain ⟨-, rfl⟩ := h
    refine committed_posts (fun db' answer ok => ?_)
    rcases createIngest_ok ok with rfl | ⟨request, effect⟩
    · exact .refl _
    · exact .same effect.write.posts effect.write.fresh
  | forceSave id =>
    simp only [step, Option.some.injEq] at h
    subst h
    refine committed_posts (fun db' answer ok => ?_)
    rcases forceSave_ok ok with ⟨rfl, -⟩ | ⟨request, request', effect⟩
    · exact .refl _
    · exact .same effect.write.posts effect.write.fresh
  | acceptDuplicate id mediaId =>
    simp only [step, Option.some.injEq] at h
    subst h
    refine committed_posts (fun db' answer ok => ?_)
    rcases acceptDuplicate_ok ok with rfl | ⟨request, request', effect⟩
    · exact .refl _
    · exact .same effect.write.posts effect.write.fresh
  | createIntent mediaId intent requestKey =>
    simp only [step, Option.some.injEq] at h
    subst h
    refine committed_posts (fun db' answer ok => ?_)
    rcases createPublicationIntent_posted ok with rfl | posted
    · exact .refl _
    · exact .posted _ _ posted
  | claimJob worker leaseDuration key =>
    simp only [step, claimJob] at h
    split at h
    · split at h
      · cases h
        exact .same rfl (Nat.le_succ _)
      · cases h
    · cases h
  | heartbeat token leaseDuration =>
    simp only [step, Option.bind_eq_bind, Option.bind_eq_some_iff] at h
    obtain ⟨attempt, -, h⟩ := h
    split at h
    · cases h
      exact .same rfl le_rfl
    · cases h
      exact .refl _
  | call token outcome =>
    simp only [step, Option.bind_eq_bind, Option.bind_eq_some_iff] at h
    obtain ⟨attempt, found, ⟨db', phase⟩, called, h⟩ := h
    cases h
    exact (attempt.call_effect called).posts
  | report token report =>
    simp only [step, Option.bind_eq_bind, Option.bind_eq_some_iff] at h
    obtain ⟨attempt, found, phase, reported, h⟩ := h
    cases h
    exact .refl _
  | publish token area name =>
    simp only [step, Option.bind_eq_bind, Option.bind_eq_some_iff, publishFile] at h
    obtain ⟨attempt, found, h⟩ := h
    split at h
    · split at h
      · cases h
        exact .refl _
      · cases h
    · cases h
  | removeFile token path =>
    simp only [step, Option.bind_eq_bind, Option.bind_eq_some_iff, removeFile] at h
    obtain ⟨attempt, found, h⟩ := h
    split at h
    · split at h
      · cases h
        exact .refl _
      · cases h
    · cases h
  | endCleanup token failure =>
    simp only [step, Option.bind_eq_bind, Option.bind_eq_some_iff, endCleanup] at h
    obtain ⟨attempt, found, h⟩ := h
    split at h
    · split at h
      · cases h
        exact .refl _
      · cases h
        exact .refl _
    · cases h
  | finish token outcome =>
    simp only [step, Option.bind_eq_bind, Option.bind_eq_some_iff] at h
    obtain ⟨attempt, found, db', finished, h⟩ := h
    cases h
    cases outcome.applied
    · exact .refl _
    · exact finish_posts finished
  | shutdown token outcome =>
    simp only [step, Option.bind_eq_bind, Option.bind_eq_some_iff] at h
    obtain ⟨attempt, found, h⟩ := h
    cases h
    cases outcome.applied
    · exact .refl _
    · exact settle_posts _ _ _
  | crash token =>
    simp only [step, Option.bind_eq_bind, Option.bind_eq_some_iff] at h
    obtain ⟨attempt, found, h⟩ := h
    cases h
    exact .refl _
  | recover id expected =>
    simp only [step, Option.some.injEq] at h
    subst h
    exact recover_posts _ _ _
  | prune key cutoff =>
    simp only [step, Option.bind_eq_bind, Option.bind_eq_some_iff] at h
    obtain ⟨db', pruned, h⟩ := h
    cases h
    simp only [prune, Option.bind_eq_bind, Option.bind_eq_some_iff,
      Option.ite_none_right_eq_some, Option.some.injEq] at pruned
    obtain ⟨job, -, completedAt, -, -, rfl⟩ := pruned
    exact .same rfl le_rfl
  | storage call =>
    simp only [step, Option.some.injEq] at h
    subst h
    have write := call.run_write w.db
    exact .same write.posts write.fresh
  | tick elapsed =>
    simp only [step, Option.some.injEq] at h
    subst h
    exact .same rfl le_rfl
  | setChannel id channel =>
    simp only [step, Option.some.injEq] at h
    subst h
    exact .same rfl le_rfl
  | setMedia id media =>
    simp only [step, Option.some.injEq] at h
    subst h
    exact .same rfl le_rfl
  | editPost id post =>
    simp only [step, Option.ite_none_right_eq_some, Option.some.injEq] at h
    obtain ⟨⟨drawn, origin⟩, rfl⟩ := h
    exact .edited id post rfl drawn origin le_rfl
  | putForeignJob job =>
    simp only [step, Option.ite_none_left_eq_some, Option.some.injEq] at h
    obtain ⟨-, rfl⟩ := h
    exact .same rfl le_rfl
  | deleteForeignJob key =>
    simp only [step, Option.ite_none_left_eq_some, Option.some.injEq] at h
    obtain ⟨-, rfl⟩ := h
    exact .same rfl le_rfl
  | drawUuid =>
    simp only [step, Option.some.injEq] at h
    subst h
    exact .same rfl (Nat.le_succ _)

end Steps

section Runs
variable {calendar : Publisher.Calendar} {w w' : World} {act : Action}

/-- Posts have drawn identifiers and no two of them share an origin. -/
structure Origins (db : Db) : Prop where
  drawn : ∀ postId post, db.posts.get postId = some post → postId < db.fresh
  unique : ∀ ingestId one other post post', db.posts.get one = some post →
    db.posts.get other = some post' → post.originIngestId = some ingestId →
    post'.originIngestId = some ingestId → one = other

/-- A post keeps its origin. -/
theorem PostsMove.keeps {db db' : Db} (inv : Origins db) (move : PostsMove db db')
    {postId ingestId : Uuid} {post : Post} (found : db.posts.get postId = some post)
    (origin : post.originIngestId = some ingestId) :
    ∃ row, db'.posts.get postId = some row ∧ row.originIngestId = some ingestId := by
  cases move with
  | same posts fresh => exact ⟨post, posts ▸ found, origin⟩
  | posted placed row posted =>
    have ne : postId ≠ placed := by
      have below := inv.drawn postId post found
      rw [posted.drawn.1]
      exact Nat.ne_of_lt below
    exact ⟨post, (posted.others postId ne).trans found, origin⟩
  | edited target row posts drawn same fresh =>
    by_cases here : postId = target
    · subst here
      refine ⟨row, posts ▸ Table.get_set_self _ _ _, ?_⟩
      rw [← same, found]
      exact origin
    · exact ⟨post, posts ▸ (Table.get_set_ne _ _ here).trans found, origin⟩

/-- A post with an origin was there before the step, or its origin had none. -/
theorem PostsMove.origin_before {db db' : Db} (move : PostsMove db db') {postId ingestId : Uuid}
    {row : Post} (found : db'.posts.get postId = some row)
    (origin : row.originIngestId = some ingestId) :
    (∃ post, db.posts.get postId = some post ∧ post.originIngestId = some ingestId) ∨
      (∃ posted, Posted db db' postId posted ∧ posted.originIngestId = some ingestId) := by
  cases move with
  | same posts fresh => exact Or.inl ⟨row, posts ▸ found, origin⟩
  | posted placed post posted =>
    by_cases here : postId = placed
    · subst here
      obtain rfl := Option.some.inj (posted.here.symm.trans found)
      exact Or.inr ⟨post, posted, origin⟩
    · exact Or.inl ⟨row, (posted.others postId here).symm.trans found, origin⟩
  | edited target post posts drawn same fresh =>
    left
    rw [posts] at found
    by_cases here : postId = target
    · subst here
      rw [Table.get_set_self] at found
      cases found
      rw [origin, Option.bind_eq_some_iff] at same
      exact same
    · rw [Table.get_set_ne _ _ here] at found
      exact ⟨row, found, origin⟩

theorem PostsMove.drawn {db db' : Db} (inv : Origins db) (move : PostsMove db db') {postId : Uuid}
    {row : Post} (found : db'.posts.get postId = some row) : postId < db'.fresh := by
  cases move with
  | same posts fresh => exact lt_of_lt_of_le (inv.drawn postId row (posts ▸ found)) fresh
  | posted placed post posted =>
    by_cases here : postId = placed
    · rw [here, posted.drawn.1]
      exact posted.drawn.2
    · have before := inv.drawn postId row ((posted.others postId here).symm.trans found)
      exact lt_trans before posted.drawn.2
  | edited target post posts drawn same fresh =>
    rw [posts] at found
    by_cases here : postId = target
    · exact here ▸ lt_of_lt_of_le drawn fresh
    · rw [Table.get_set_ne _ _ here] at found
      exact lt_of_lt_of_le (inv.drawn postId row found) fresh

/-- What one step keeps of the origins. -/
theorem Origins.step {db db' : Db} (inv : Origins db) (move : PostsMove db db') : Origins db' where
  drawn := fun _ _ found => move.drawn inv found
  unique := by
    intro ingestId one other post post' here there origin origin'
    rcases move.origin_before here origin with ⟨old, before, was⟩ | ⟨_, posted, new⟩
    · rcases move.origin_before there origin' with ⟨old', before', was'⟩ | ⟨_, posted, new⟩
      · exact inv.unique ingestId one other old old' before before' was was'
      · exact absurd was (posted.new ingestId new one old before)
    · rcases move.origin_before there origin' with ⟨old', before', was'⟩ | ⟨_, posted', -⟩
      · exact absurd was' (posted.new ingestId new other old' before')
      · exact posted.drawn.1.trans posted'.drawn.1.symm

theorem origins_initial : Origins initial.db where
  drawn := fun _ _ found => by cases found
  unique := fun _ _ _ _ _ found => by cases found

/-- What every run keeps of the origins. -/
theorem Origins.run {acts : List Action}
    (run : Run (Inbox.step calendar) Unrestricted w acts w') (inv : Origins w.db) :
    Origins w'.db :=
  run_invariant (fun w => Origins w.db) (fun inv _ h => inv.step (step_posts h)) inv run

/-- The post of an ingest stays its post. -/
theorem post_kept {acts : List Action} (run : Run (step calendar) Unrestricted w acts w')
    (inv : Origins w.db) {postId ingestId : Uuid} {post : Post}
    (found : w.db.posts.get postId = some post) (origin : post.originIngestId = some ingestId) :
    ∃ row, w'.db.posts.get postId = some row ∧ row.originIngestId = some ingestId := by
  induction run generalizing post with
  | nil s => exact ⟨post, found, origin⟩
  | cons ok first tail ih =>
    obtain ⟨row, here, same⟩ := (step_posts first).keeps inv found origin
    exact ih (inv.step (step_posts first)) here same

/-- An ingest keeps the action it was submitted for. -/
theorem action_kept (inv : Pipeline w) {acts : List Action}
    (run : Run (step calendar) Unrestricted w acts w') {id : Uuid} {request : Ingest}
    (found : w.db.ingests.get id = some request) :
    ∃ row, w'.db.ingests.get id = some row ∧ row.requestedAction = request.requestedAction := by
  induction run generalizing request with
  | nil s => exact ⟨request, found, rfl⟩
  | cons ok first tail ih =>
    obtain ⟨moves, -⟩ := step_moves inv first
    obtain ⟨row, here, earlier⟩ := moves.later inv found
    obtain ⟨last, there, same⟩ := ih (inv.step first) here
    exact ⟨last, there, same.trans earlier.action⟩

theorem findPostByOrigin_eq {db : Db} (inv : Origins db) {postId ingestId : Uuid} {post : Post}
    (found : db.posts.get postId = some post) (origin : post.originIngestId = some ingestId) :
    Publisher.findPostByOrigin db ingestId = some (postId, post) := by
  cases known : Publisher.findPostByOrigin db ingestId with
  | none =>
    refine absurd origin (findPostByOrigin_none ?_ postId post found)
    rw [known]
    rfl
  | some entry =>
    obtain ⟨other, row⟩ := entry
    obtain ⟨there, same⟩ := findPostByOrigin_some known
    obtain rfl := inv.unique ingestId postId other post row found there origin same
    rw [Option.some.inj (found.symm.trans there)]

/-- What a materialization answers for an ingest that has its post. -/
theorem materializeIngest_answers {db : Db} (inv : Origins db) {postId ingestId : Uuid}
    {post : Post} {request : Ingest} (row : db.ingests.get ingestId = some request)
    (publishes : request.requestedAction ≠ .save) (found : db.posts.get postId = some post)
    (origin : post.originIngestId = some ingestId) :
    Publisher.materializeIngest calendar db ingestId =
      if request.status = .completed then .ok (db, some ⟨postId, post, false⟩)
      else .error (.materializationNotReady ingestId) := by
  have known := findPostByOrigin_eq inv found origin
  cases action : request.requestedAction with
  | save => exact absurd action publishes
  | _ =>
    by_cases completed : request.status = .completed
    · simp [Publisher.materializeIngest, expect, row, action, Publisher.RequestedAction.publication,
        require, completed, known, bind, Except.bind, pure, Except.pure]
    · simp [Publisher.materializeIngest, expect, row, action, Publisher.RequestedAction.publication,
        require, completed, bind, Except.bind]

/-- In every reachable state an ingest has at most one post. After a
    materialization has answered with a post, that post stays the ingest's
    post, and every later materialization that finds the ingest completed
    answers with it and writes nothing; one that finds it taken back by its
    storage is refused. The materialization of a saved ingest never has
    anything to do. -/
theorem materialization_is_idempotent {acts : List Action}
    (before : Run (step calendar) Unrestricted initial acts w) :
    (∀ ingestId one other post post', w.db.posts.get one = some post →
      w.db.posts.get other = some post' → post.originIngestId = some ingestId →
      post'.originIngestId = some ingestId → one = other) ∧
    ∀ act v later w', step calendar w act = some v →
      Run (step calendar) Unrestricted v later w' → ∀ ingestId,
      (∀ result, Publisher.materializeIngest calendar w.db ingestId = .ok (v.db, some result) →
        ∃ post request, w'.db.posts.get result.id = some post ∧
          post.originIngestId = some ingestId ∧ w'.db.ingests.get ingestId = some request ∧
          Publisher.materializeIngest calendar w'.db ingestId =
            if request.status = .completed then .ok (w'.db, some ⟨result.id, post, false⟩)
            else .error (.materializationNotReady ingestId)) ∧
      (Publisher.materializeIngest calendar w.db ingestId = .ok (v.db, none) →
        Publisher.materializeIngest calendar w'.db ingestId = .ok (w'.db, none)) := by
  have pipeline := Pipeline.run before
  have inv : Origins w.db := Origins.run before origins_initial
  refine ⟨inv.unique, ?_⟩
  intro act v later w' one after ingestId
  have next := inv.step (step_posts one)
  have last := Origins.run after next
  have whole : Run (step calendar) Unrestricted w (act :: later) w' := .cons trivial one after
  refine ⟨?_, ?_⟩
  · intro result first
    obtain ⟨request, found, ⟨-, -, none⟩ | ⟨publishes, -, answer, same, origin, placed⟩⟩ :=
      materializeIngest_posted first
    · cases none
    cases same
    have here : v.db.posts.get result.id = some result.post := by
      rcases placed with ⟨unchanged, there⟩ | posted
      · rw [unchanged]
        exact there
      · exact posted.here
    obtain ⟨post, there, kept⟩ := post_kept after next here origin
    obtain ⟨row, present, action⟩ := action_kept pipeline whole found
    exact ⟨post, row, there, kept, present,
      materializeIngest_answers last present (action ▸ publishes) there kept⟩
  · intro first
    obtain ⟨request, found, ⟨saved, -, -⟩ | ⟨-, -, answer, same, -⟩⟩ :=
      materializeIngest_posted first
    · obtain ⟨row, present, action⟩ := action_kept pipeline whole found
      simp [Publisher.materializeIngest, expect, present, action, saved,
        Publisher.RequestedAction.publication, bind, Except.bind, pure, Except.pure]
    · cases same

/-- A duplicate that is to be posted at once, up to the operator's decision. -/
def samplePending : List Action :=
  [.setChannel 3 Publisher.sampleChannel, .setMedia 7 Publisher.sampleMedia,
    .createIngest (sampleSubmission .postNow)] ++ sampleDuplicate.tail

/-- That duplicate accepted, and an attempt of its materialization. -/
def sampleAccepted : List Action :=
  samplePending ++ [.acceptDuplicate 0 7,
    .claimJob "a" (30 * second) (.materializePublication 0)]

/-- The materialization of an accepted duplicate, and a second one after the
    operator gave up on the stored file. -/
theorem accepted_duplicate_has_one_post :
    ∃ w v u result post request, exec (step Publisher.sampleCalendar) initial sampleAccepted = some w ∧
      step Publisher.sampleCalendar w (.call 13 .answered) = some v ∧
      Publisher.materializeIngest Publisher.sampleCalendar w.db 0 = .ok (v.db, some result) ∧
      step Publisher.sampleCalendar v (.storage (.markUnknown 7 false)) = some u ∧
      u.db.posts.get result.id = some post ∧ u.db.ingests.get 0 = some request ∧
      Publisher.materializeIngest Publisher.sampleCalendar u.db 0 =
        if request.status = .completed then .ok (u.db, some ⟨result.id, post, false⟩)
        else .error (.materializationNotReady 0) := by
  obtain ⟨w, reached⟩ : ∃ w, exec (step Publisher.sampleCalendar) initial sampleAccepted = some w :=
    ⟨_, rfl⟩
  obtain ⟨v, u, result, one, first, two⟩ : ∃ v u result,
      step Publisher.sampleCalendar w (.call 13 .answered) = some v ∧
      Publisher.materializeIngest Publisher.sampleCalendar w.db 0 = .ok (v.db, some result) ∧
      step Publisher.sampleCalendar v (.storage (.markUnknown 7 false)) = some u := by
    cases reached
    exact ⟨_, _, _, rfl, rfl, rfl⟩
  obtain ⟨post, request, found, -, present, answer⟩ :=
    ((materialization_is_idempotent (run_of_exec reached)).2 _ v _ u one
      (.cons trivial two (.nil u)) 0).1 result first
  exact ⟨w, v, u, result, post, request, reached, one, first, two, found, present, answer⟩

/-- The second materialization does not answer with the post: the guard on the
    state of the ingest comes before the lookup. -/
theorem materialization_refused_after_storage_loss :
    ∃ w v u result, exec (step Publisher.sampleCalendar) initial sampleAccepted = some w ∧
      step Publisher.sampleCalendar w (.call 13 .answered) = some v ∧
      Publisher.materializeIngest Publisher.sampleCalendar w.db 0 = .ok (v.db, some result) ∧
      step Publisher.sampleCalendar v (.storage (.markUnknown 7 false)) = some u ∧
      Publisher.materializeIngest Publisher.sampleCalendar u.db 0 =
        .error (.materializationNotReady 0) :=
  ⟨_, _, _, _, rfl, rfl, rfl, rfl, rfl⟩

end Runs

end Sooqa.Inbox
