import Sooqa.Publisher.Agreement

/-!
Revisions of a post. A step keeps the row or writes the next revision, and a
row that is published, unknown or cancelled is never written again. Hence a
request that named the revision it replaced finds that revision gone for good
and changes nothing when it is replayed, even after its key was overwritten.
-/
namespace Sooqa.Publisher
open Foundation Queue Worker

variable {w w' : World} {p : Uuid} {act : Action}

/-- How a step treats a row: untouched, or the next revision of an open one. -/
inductive Successor (old new : Post) : Prop where
  | same (kept : new = old)
  | next (opened : old.state.isFinal = false) (revision : new.revision = old.revision + 1)

theorem isFinal_of_sendToken {state : PostState} (sending : state.sendToken.isSome) :
    state.isFinal = false := by
  cases state <;> simp_all [PostState.sendToken, PostState.isFinal]

theorem isFinal_of_mutable {state : PostState} (editable : state.isQueueMutable = true) :
    state.isFinal = false := by
  cases state <;> simp_all [PostState.isQueueMutable, PostState.isFinal]

section Steps

theorem successor_of_write {db db' : Db} {old new post : Post} (write : PostWrite db db' p old new)
    (opened : old.state.isFinal = false) (found : db.posts.get p = some post) :
    ∃ post', db'.posts.get p = some post' ∧ Successor post post' := by
  rw [write.before] at found
  cases found
  exact ⟨new, write.after, .next opened write.revision⟩

theorem successor_of_same {db db' : Db} {post : Post} (same : db'.posts.get p = db.posts.get p)
    (found : db.posts.get p = some post) :
    ∃ post', db'.posts.get p = some post' ∧ Successor post post' :=
  ⟨post, by rw [same, found], .same rfl⟩

theorem successor_of_released {db db' : Db} {job : Job} {terminal : Bool} {post : Post}
    (released : Released db db' p job terminal) (found : db.posts.get p = some post) :
    ∃ post', db'.posts.get p = some post' ∧ Successor post post' := by
  cases released.post with
  | kept same settled => exact successor_of_same same found
  | failed old new write was ended becomes =>
    exact successor_of_write write (by rw [was]; rfl) found
  | unknown old new write was ended becomes =>
    exact successor_of_write write (isFinal_of_sendToken was) found

theorem successor_of_called {db db' : Db} {attempt : Attempt} {next : Phase} {post : Post}
    (effect : CallEffect db attempt db' next) (found : db.posts.get attempt.postId = some post) :
    ∃ post', db'.posts.get attempt.postId = some post' ∧ Successor post post' := by
  have holding : ∀ {old : Post} {lease : PublishLease}, holdsClaim old lease = true →
      old.state.isFinal = false := by
    intro old lease holds
    exact isFinal_of_sendToken (by rw [holdsClaim_sendToken holds]; rfl)
  cases effect with
  | turned same turn => exact successor_of_same (by rw [same]) found
  | claimed old new startedAt write jobs start alive was =>
    exact successor_of_write write (by rw [was]; rfl) found
  | reconciled old new write jobs start alive was =>
    exact successor_of_write write (isFinal_of_sendToken was) found
  | completed old new claim messageId write jobs start alive holds =>
    exact successor_of_write write (holding holds) found
  | failed old new claim state write jobs start alive holds =>
    exact successor_of_write write (holding holds) found
  | retried old new claim terminal job job' write start current holds =>
    exact successor_of_write write (holding holds) found

theorem successor_of_move {post : Post} (filed : Filed w p) (move : Move w p act w')
    (found : w.db.posts.get p = some post) :
    ∃ post', w'.db.posts.get p = some post' ∧ Successor post post' := by
  cases move with
  | api write elsewhere =>
    cases write with
    | created fresh new drawn row job =>
      have before := (filed.post post found).1
      rw [new] at before
      exact absurd before (Nat.lt_irrefl _)
    | edited old new before after editable revision job =>
      rw [before] at found
      cases found
      exact ⟨new, after, .next (isFinal_of_mutable editable) revision⟩
  | renewed job job' columns before running unexpired after same command posts clock =>
    exact successor_of_same (by rw [posts]) found
  | pruned job before ended after post posts clock => exact successor_of_same (by rw [posts]) found
  | recovered job lock released => exact successor_of_released released found
  | leased job job' lease revision columns before was after running token held payload same posts
      clock => exact successor_of_same (by rw [posts]) found
  | called attempt present own effect =>
    subst own
    exact successor_of_called effect found
  | answered attempt flight answer next present own sent answerable turn =>
    exact successor_of_same rfl found
  | launched attempt claim next present own turn => exact successor_of_same rfl found
  | landed flight fate sent own pending => exact successor_of_same rfl found
  | dropped attempt present own => exact successor_of_same rfl found
  | completed attempt job job' present own phase before held after done posts clock =>
    exact successor_of_same (by rw [← posts]; rfl) found
  | settled attempt failure settlement job present own phase asks lock released =>
    exact successor_of_released released found
  | stopped attempt job present own applied lock released =>
    exact successor_of_released released found

/-- One step keeps a row or moves it to its next revision. -/
theorem successor_of_step {calendar : Calendar} {post : Post} (filed : ∀ q, Filed w q)
    (h : step calendar w act = some w') (found : w.db.posts.get p = some post) :
    ∃ post', w'.db.posts.get p = some post' ∧ Successor post post' := by
  rcases step_moves filed h with all | ⟨q, others, move⟩
  · exact successor_of_same (all p).post found
  · by_cases same : p = q
    · subst same
      exact successor_of_move (filed p) move found
    · exact successor_of_same (others p same).post found

theorem filed_step {calendar : Calendar} (filed : ∀ q, Filed w q)
    (h : step calendar w act = some w') (q : Uuid) : Filed w' q := by
  rcases step_moves filed h with all | ⟨r, others, move⟩
  · exact filed_bystander (all q) (filed q)
  · by_cases same : q = r
    · subst same
      exact filed_move (filed q) move
    · exact filed_bystander (others q same) (filed q)

/-- A final row stays as it is in every run. -/
theorem run_final {calendar : Calendar} {allowed : World → Action → Prop} {acts : List Action}
    {post : Post} (filed : ∀ q, Filed w q) (found : w.db.posts.get p = some post)
    (closed : post.state.isFinal = true) (run : Run (step calendar) allowed w acts w') :
    w'.db.posts.get p = some post := by
  have kept := run_invariant
    (fun v => (∀ q, Filed v q) ∧ v.db.posts.get p = some post) ?_ ⟨filed, found⟩ run
  · exact kept.2
  · rintro v act v' ⟨ok, present⟩ - one
    obtain ⟨post', after, successor⟩ := successor_of_step ok one present
    refine ⟨filed_step ok one, ?_⟩
    cases successor with
    | same kept => rw [after, kept]
    | next opened revision =>
      rw [closed] at opened
      cases opened

/-- Revisions never go back. -/
theorem run_revision {calendar : Calendar} {allowed : World → Action → Prop} {acts : List Action}
    {post : Post} (filed : ∀ q, Filed w q) (found : w.db.posts.get p = some post)
    (run : Run (step calendar) allowed w acts w') :
    ∃ post', w'.db.posts.get p = some post' ∧ post.revision ≤ post'.revision := by
  have kept := run_invariant
    (fun v => (∀ q, Filed v q) ∧
      ∃ post', v.db.posts.get p = some post' ∧ post.revision ≤ post'.revision) ?_
    ⟨filed, post, found, Nat.le_refl _⟩ run
  · exact kept.2
  · rintro v act v' ⟨ok, row, present, reached⟩ - one
    obtain ⟨post', after, successor⟩ := successor_of_step ok one present
    refine ⟨filed_step ok one, post', after, ?_⟩
    cases successor with
    | same kept => rw [kept]; exact reached
    | next opened revision => omega

end Steps

/-- The post and the revision a scheduling or decision request names. -/
def Action.request? : Action → Option (Uuid × Int)
  | .schedulePost schedule | .schedulePostExact schedule =>
    some (schedule.postId, schedule.expectedRevision)
  | .decidePost id _ _ expectedRevision | .publishNow id _ expectedRevision =>
    some (id, expectedRevision)
  | _ => none

section Requests
variable {calendar : Calendar} {db db' : Db} {id : Uuid} {post : Post}

/-- A transaction that changes nothing unless the post is at this revision. -/
def FencedBy (db db' : Db) (id : Uuid) (expected : Int) : Prop :=
  db' = db ∨ ∃ current, db.posts.get id = some current ∧ expected = current.revision

theorem schedulePost_fenced {schedule : PostSchedule}
    (h : schedulePost calendar db schedule = .ok (db', post)) :
    FencedBy db db' schedule.postId schedule.expectedRevision := by
  simp only [schedulePost, bind_ok] at h
  obtain ⟨⟨channel, current⟩, locked, h⟩ := h
  split at h
  · exact Or.inl (replayed_effect h)
  · simp only [bind_ok] at h
    obtain ⟨_, checked, -⟩ := h
    exact Or.inr ⟨current, lockChannelAndPost_ok locked, (ensureSchedulable_ok checked).2⟩

theorem schedulePostExact_fenced {schedule : PostSchedule}
    (h : schedulePostExact db schedule = .ok (db', post)) :
    FencedBy db db' schedule.postId schedule.expectedRevision := by
  simp only [schedulePostExact, bind_ok] at h
  obtain ⟨⟨channel, current⟩, locked, h⟩ := h
  split at h
  · exact Or.inl (replayed_effect h)
  · simp only [bind_ok] at h
    obtain ⟨_, -, _, checked, -⟩ := h
    exact Or.inr ⟨current, lockChannelAndPost_ok locked, (ensureSchedulable_ok checked).2⟩

theorem publishNow_fenced {key : String} {expectedRevision : Int}
    (h : publishNow db id key expectedRevision = .ok (db', post)) :
    FencedBy db db' id expectedRevision := by
  simp only [publishNow, bind_ok] at h
  obtain ⟨requestKey, -, ⟨channel, current⟩, locked, h⟩ := h
  split at h
  · exact Or.inl (replayed_effect h)
  · simp only [bind_ok] at h
    obtain ⟨_, checked, -⟩ := h
    exact Or.inr ⟨current, lockChannelAndPost_ok locked, (ensureSchedulable_ok checked).2⟩

theorem decidePost_fenced {decision : PublicationDecision} {key : String} {expectedRevision : Int}
    (h : decidePost calendar db id decision key expectedRevision = .ok (db', post)) :
    FencedBy db db' id expectedRevision := by
  simp only [decidePost, bind_ok] at h
  obtain ⟨requestKey, -, ⟨channel, current⟩, locked, h⟩ := h
  split at h
  · exact Or.inl (replayed_effect h)
  · simp only [bind_ok, require_ok] at h
    obtain ⟨_, -, _, -, _, checked, -⟩ := h
    exact Or.inr ⟨current, lockChannelAndPost_ok locked, checkExpectedRevision_ok checked⟩

theorem fenced_commit {α : Type} {result : Except Error (Db × α)} {expected : Int}
    (fenced : ∀ {db' x}, result = .ok (db', x) → FencedBy db db' id expected) :
    FencedBy db (committed db result) id expected := by
  rcases committed_cases db result with same | ⟨x, ok⟩
  · exact Or.inl same
  · exact fenced ok

theorem step_request {expected : Int} (request : act.request? = some (id, expected))
    (h : step calendar w act = some w') :
    w' = w ∨ ∃ current, w.db.posts.get id = some current ∧ expected = current.revision := by
  have lift : ∀ {db'}, FencedBy w.db db' id expected →
      ({ w with db := db' } : World) = w ∨
        ∃ current, w.db.posts.get id = some current ∧ expected = current.revision := by
    rintro db' (rfl | fenced)
    · exact Or.inl rfl
    · exact Or.inr fenced
  cases act <;> simp only [Action.request?, Option.some.injEq, Prod.mk.injEq, reduceCtorEq]
    at request
  all_goals
    obtain ⟨rfl, rfl⟩ := request
    simp only [step, Option.some.injEq] at h
    subst h
  case schedulePost schedule => exact lift (fenced_commit schedulePost_fenced)
  case schedulePostExact schedule => exact lift (fenced_commit schedulePostExact_fenced)
  case decidePost decision key => exact lift (fenced_commit decidePost_fenced)
  case publishNow key => exact lift (fenced_commit publishNow_fenced)

/-- A request that replaced a revision changes nothing when it is made again. -/
theorem replay_unchanged {w₁ w₂ : World} {expected : Int} {later : List Action}
    {allowed : World → Action → Prop} (filed : ∀ q, Filed w q)
    (request : act.request? = some (id, expected)) (first : step calendar w act = some w₁)
    (applied : w₁.db.posts.get id ≠ w.db.posts.get id)
    (run : Run (step calendar) allowed w₁ later w₂) : step calendar w₂ act = some w₂ := by
  obtain ⟨current, found, named⟩ : ∃ current, w.db.posts.get id = some current ∧
      expected = current.revision := by
    rcases step_request request first with same | fenced
    · exact absurd (by rw [same]) applied
    · exact fenced
  obtain ⟨next, after, successor⟩ := successor_of_step filed first found
  have moved : next.revision = current.revision + 1 := by
    cases successor with
    | same kept => exact absurd (by rw [after, kept, found]) applied
    | next opened revision => exact revision
  obtain ⟨last, present, reached⟩ := run_revision (filed_step filed first) after run
  obtain ⟨w₃, again⟩ : ∃ w₃, step calendar w₂ act = some w₃ := by
    cases act <;> simp only [Action.request?, reduceCtorEq] at request <;> exact ⟨_, rfl⟩
  rcases step_request request again with same | ⟨row, here, demanded⟩
  · rw [again, same]
  · rw [present] at here
    cases here
    omega

end Requests

/-- In every reachable state: queued posts are driven by a live job of their
    own revision, every change of a row raises its revision, and a replayed
    request is without effect at any later time. -/
theorem queued_posts_are_driven {calendar : Calendar} {acts : List Action}
    (run : Run (step calendar) Unrestricted initial acts w) :
    (∀ p post, w.db.posts.get p = some post → post.state = .queued →
      ∃ job, w.db.jobs.get (.publish p) = some job ∧
        (job.state = .queued ∨ ∃ columns, job.state = .running columns) ∧
        job.command = .publishPost p post.revision) ∧
    (∀ act w' p post, step calendar w act = some w' → w.db.posts.get p = some post →
      ∃ post', w'.db.posts.get p = some post' ∧
        (post' = post ∨ post.revision < post'.revision)) ∧
    (∀ act id expected w₁ later w₂, Action.request? act = some (id, expected) →
      step calendar w act = some w₁ → w₁.db.posts.get id ≠ w.db.posts.get id →
      Run (step calendar) Unrestricted w₁ later w₂ → step calendar w₂ act = some w₂) := by
  have filed := fun q => (run_agrees run q).1
  refine ⟨?_, ?_, ?_⟩
  · intro p post found queued
    obtain ⟨job, present, live, command⟩ := (run_agrees run p).2.drives post found queued
    refine ⟨job, present, ?_, command⟩
    cases state : job.state with
    | queued => exact Or.inl rfl
    | running columns => exact Or.inr ⟨columns, rfl⟩
    | succeeded => rw [state] at live; cases live
    | failed => rw [state] at live; cases live
    | cancelled => rw [state] at live; cases live
  · intro act w' p post one found
    obtain ⟨post', after, successor⟩ := successor_of_step filed one found
    refine ⟨post', after, ?_⟩
    cases successor with
    | same kept => exact Or.inl kept
    | next opened revision => exact Or.inr (by omega)
  · intro act id expected w₁ later w₂ request first applied tail
    exact replay_unchanged filed request first applied tail

/-- The intent of a fresh post leaves it queued with the job of revision 0. -/
theorem queued_posts_are_driven_after_intent :
    ∃ w post job, exec (step sampleCalendar) initial sampleIntent = some w ∧
      w.db.posts.get 0 = some post ∧ post.state = .queued ∧
      w.db.jobs.get (.publish 0) = some job ∧ job.command = .publishPost 0 post.revision := by
  obtain ⟨w, reached⟩ : ∃ w, exec (step sampleCalendar) initial sampleIntent = some w := ⟨_, rfl⟩
  obtain ⟨post, found, queued⟩ : ∃ post, w.db.posts.get 0 = some post ∧ post.state = .queued := by
    cases reached
    exact ⟨_, rfl, rfl⟩
  obtain ⟨job, present, -, command⟩ :=
    (queued_posts_are_driven (run_of_exec reached)).1 0 post found queued
  exact ⟨w, post, job, reached, found, queued, present, command⟩

end Sooqa.Publisher
