import Sooqa.Publisher.System
import Sooqa.Publisher.Locking

/-!
The repeat guard. An intent looks for posts of its media that wait, are being
sent or were published shortly before it, and queues its post only if there
are none. While at most one channel is enabled, whoever queues a post holds
the one enabled channel, so nothing enters the queue between that look and the
commit.
-/
namespace Sooqa.Publisher.Concurrent
open Foundation Queue

variable {calendar : Calendar} {isTimeZone : String → Bool}

/-- Channels are created and changed by the settings transactions only. -/
def Managed (_ : World calendar isTimeZone) (act : Action) : Prop :=
  ∀ id channel, act ≠ .setChannel id channel

/-- A direct intent or the materialization of an ingest. -/
def intends : Call → Bool
  | .createIntent _ _ _ | .materialize _ => true
  | _ => false

/-- No other post of the media waits or is being sent, and none was published
    in the two weeks before the instant. -/
def NoRepeat (db : Db) (mediaId : Uuid) (instant : Time) (p : Uuid) : Prop :=
  ∀ q other, q ≠ p → db.posts.get q = some other → other.mediaId = mediaId →
    other.busy = false ∧ ∀ publishedAt, other.publishedAt = some publishedAt →
      ¬ (instant < publishedAt + 14 * day ∧ publishedAt < instant)

section Intents
variable {db db' : Db}

/-- The post of an intent is queued if it found no conflict, and a draft with
    its evidence otherwise. -/
inductive Intended (db : Db) (row : Post) : Prop where
  | queued (state : row.state = .queued)
      (clear : findRepeatConflicts db row.mediaId row.scheduledAt db.fresh = [])
  | drafted (state : row.state = .draft) (conflicts : List RepeatConflict)
      (evidence : row.repeatEvidence = some conflicts) (some : conflicts ≠ [])

theorem intendedPost_intended (key hash origin mediaId channelId channel intent evaluationAt) :
    Intended db
      (intendedPost db key hash origin mediaId channelId channel intent evaluationAt) := by
  by_cases clear : findRepeatConflicts db mediaId evaluationAt db.fresh = []
  · refine .queued ?_ clear
    simp [intendedPost, clear]
  · refine .drafted ?_ (findRepeatConflicts db mediaId evaluationAt db.fresh) ?_ clear
    · simp [intendedPost, clear]
    · simp [intendedPost, clear]

theorem insertIntendedPost_intended {key : String} {hash : Digest} {origin : Option Uuid}
    {mediaId channelId : Uuid} {channel : Channel} {intent : PublicationIntent}
    {result : CreatePostResult} {row : Post}
    (h : insertIntendedPost calendar db key hash origin mediaId channelId channel intent =
      .ok (db', result)) (found : db'.posts.get db.fresh = some row) : Intended db row := by
  simp only [insertIntendedPost, bind_ok] at h
  obtain ⟨evaluationAt, instant, ⟨written, id⟩, inserted, h⟩ := h
  obtain ⟨rfl, rfl⟩ := insertPost_ok inserted
  have intended : Intended db _ :=
    intendedPost_intended key hash origin mediaId channelId channel intent evaluationAt
  split at h
  · simp only [bind_ok, pure_ok, Prod.mk.injEq] at h
    obtain ⟨final, job, rfl, -⟩ := h
    rw [(insertPublishJob_ok job).1.posts, setPost, Table.get_set_self] at found
    cases found
    exact intended
  · simp only [pure_ok, Prod.mk.injEq] at h
    obtain ⟨rfl, -⟩ := h
    rw [setPost, Table.get_set_self] at found
    cases found
    exact intended

/-- What an intent writes, if it writes. -/
theorem Writes.intended {tx : Transaction calendar isTimeZone} {p : Uuid} {row : Post}
    (writes : Writes tx p row) (intent : intends tx.call = true)
    (new : tx.read.posts.get tx.read.fresh = none) :
    p = tx.read.fresh ∧ Intended tx.read row := by
  obtain ⟨call, read, result, ran⟩ := tx
  obtain ⟨target, found⟩ := writes
  cases call with
  | createIntent mediaId intent key =>
    cases target
    refine ⟨rfl, ?_⟩
    obtain ⟨answer, ok⟩ := stored_some ran
    simp only [createPublicationIntent, bind_ok] at ok
    obtain ⟨requestKey, -, ok⟩ := ok
    split at ok
    · simp only [bind_ok, pure_ok, Prod.mk.injEq] at ok
      obtain ⟨_, -, rfl, -⟩ := ok
      rw [new] at found
      cases found
    · simp only [bind_ok] at ok
      obtain ⟨_, -, channelId, -, channel, -, ok⟩ := ok
      exact insertIntendedPost_intended ok found
  | materialize ingestId =>
    cases target
    refine ⟨rfl, ?_⟩
    obtain ⟨answer, ok⟩ := stored_some ran
    simp only [materializeIngest, bind_ok] at ok
    obtain ⟨ingest, -, ok⟩ := ok
    split at ok
    · simp only [pure_ok, Prod.mk.injEq] at ok
      obtain ⟨rfl, -⟩ := ok
      rw [new] at found
      cases found
    · simp only [bind_ok] at ok
      obtain ⟨_, -, ok⟩ := ok
      split at ok
      · simp only [pure_ok, Prod.mk.injEq] at ok
        obtain ⟨rfl, -⟩ := ok
        rw [new] at found
        cases found
      · simp only [bind_ok, pure_ok, Prod.mk.injEq] at ok
        obtain ⟨mediaId, -, _, -, channelId, -, channel, -, _, -, intent, -, ⟨written, inserted⟩,
          ok, rfl, -⟩ := ok
        exact insertIntendedPost_intended ok found
  | _ => cases intent

/-- An empty list of conflicts is what it says, while dates belong to
    published posts. -/
theorem noRepeat_of_clear {mediaId p : Uuid} {instant : Time}
    (dated : ∀ q row, db.posts.get q = some row → row.publishedAt.isSome → row.state = .published)
    (clear : findRepeatConflicts db mediaId instant p = []) : NoRepeat db mediaId instant p := by
  intro q other ne found media
  have none : ¬ (occupiesRepeatWindow instant other = true) := by
    intro occupies
    simp only [findRepeatConflicts, maxRepeatEvidenceConflicts, List.take_eq_nil_iff] at clear
    rcases clear with zero | sorted
    · cases zero
    · have empty := List.eq_nil_of_length_eq_zero
        ((List.length_insertionSort _ _).symm.trans (congrArg List.length sorted))
      rw [List.map_eq_nil_iff, List.filter_eq_nil_iff] at empty
      refine empty (q, other) ((Table.mem_rows_iff _ _ _).mpr found) ?_
      simp [media, ne, occupies]
  constructor
  · cases busy : other.busy with
    | false => rfl
    | true =>
      rcases state_of_busy busy with queued | ⟨token, startedAt, sending⟩
      · simp [occupiesRepeatWindow, queued] at none
      · simp [occupiesRepeatWindow, sending] at none
  · intro publishedAt date window
    have published := dated q other found (by rw [date]; rfl)
    simp [occupiesRepeatWindow, published, date, window] at none

end Intents

/-- Who queues a post: it was waiting before, or its channel is enabled. -/
def Admitted (db : Db) (p : Uuid) (row : Post) : Prop :=
  (∃ old, db.posts.get p = some old ∧ old.busy = true) ∨ ChannelEnabled db row.channelId

structure Guarded (w : World calendar isTimeZone) : Prop where
  locking : Locking w
  single : SingleTarget w.db
  dated : ∀ p row, w.db.posts.get p = some row → row.publishedAt.isSome → row.state = .published
  channels : ∀ id channel, w.db.channels.get id = some channel → id < w.db.fresh
  configured : ∀ id tx c, w.transactions.get id = some tx → tx.target = .channel c →
    w.db.channels = tx.read.channels ∧ tx.read.channels.get tx.read.fresh = none ∧
      tx.read.fresh < w.db.fresh
  admitted : ∀ id tx p row, w.transactions.get id = some tx → Writes tx p row → row.busy = true →
    Admitted w.db p row
  guarded : ∀ id tx p row, w.transactions.get id = some tx → intends tx.call = true →
    Writes tx p row → row.state = .queued → NoRepeat w.db row.mediaId row.scheduledAt p

section Commits
variable {w : World calendar isTimeZone} {id other : Uuid} {tx tx' : Transaction calendar isTimeZone}

/-- The row a transaction writes, over the row that is there at its commit. -/
theorem Guarded.row (inv : Guarded w) (found : w.transactions.get id = some tx) {p : Uuid}
    {row : Post} (writes : Writes tx p row) :
    w.db.posts.get p = some row ∨
      (RowWrite tx.call tx.read p row ∧ w.db.posts.get p = tx.read.posts.get p) := by
  have settled := inv.locking.settled id tx p row found writes
  rcases (writes.held (inv.locking.news id tx found).1).2 with there | write
  · exact Or.inl (settled.trans there)
  · exact Or.inr ⟨write, settled⟩

/-- A commit dates a post only by publishing one that was being sent. -/
theorem Guarded.published (inv : Guarded w) (found : w.transactions.get id = some tx) {p : Uuid}
    {row : Post} (writes : Writes tx p row) (date : row.publishedAt.isSome) :
    row.state = .published ∧ ∃ old, w.db.posts.get p = some old ∧ old.mediaId = row.mediaId ∧
      (old.busy = true ∨ old.publishedAt = row.publishedAt) := by
  rcases inv.row found writes with there | ⟨write, same⟩
  · exact ⟨inv.dated p row there date, row, there, rfl, Or.inr rfl⟩
  · rcases write.dates with kept | ⟨published, old, before, busy⟩
    · -- Only an open post is written, and an open post has no date.
      exfalso
      cases before : tx.read.posts.get p with
      | none =>
        rw [kept, before] at date
        cases date
      | some old =>
        rw [kept, before] at date
        have published := inv.dated p old (same.trans before) date
        have live := (write.same old before).2.2
        rw [published] at live
        cases live
    · exact ⟨published, old, same.trans before, (write.same old before).2.1.symm, Or.inl busy⟩

/-- A commit leaves the channels alone or writes the one channel of a settings
    transaction. -/
theorem apply_channels (tx : Transaction calendar isTimeZone) (db : Db) :
    (tx.apply db).channels = db.channels ∨
      ∃ c channel, tx.target = .channel c ∧ tx.result.channels.get c = some channel ∧
        (tx.apply db).channels = db.channels.set c channel := by
  cases target : tx.target with
  | post p =>
    left
    simp [Transaction.apply, target]
  | channel c =>
    cases written : tx.result.channels.get c with
    | none =>
      left
      simp [Transaction.apply, target, written]
    | some channel =>
      right
      exact ⟨c, channel, rfl, written, by simp [Transaction.apply, target, written, setChannel]⟩

/-- An enabled channel that a transaction holds stays enabled. -/
theorem Guarded.still_enabled (inv : Guarded w) (found : w.transactions.get id = some tx)
    (there : w.transactions.get other = some tx') (ne : id ≠ other) {c : Uuid}
    (held : .channel c ∈ tx.locks) (enabled : ChannelEnabled w.db c) :
    ChannelEnabled (tx'.apply w.db) c := by
  obtain ⟨channel, present, on⟩ := enabled
  refine ⟨channel, ?_, on⟩
  rcases apply_channels tx' w.db with same | ⟨c', channel', target, written, changed⟩
  · rw [same]
    exact present
  · rw [changed, Table.get_set_ne _ _ ?_]
    · exact present
    · rintro rfl
      obtain ⟨-, -, ⟨locked, -⟩ | new⟩ := Call.run_channel tx'.ran target
      · exact inv.locking.apart id other tx tx' found there ne _ held locked
      · obtain ⟨same, absent, -⟩ := inv.configured other tx' c there target
        rw [same, new, absent] at present
        cases present

/-- Two open transactions that queue a post would hold the same channel. -/
theorem Guarded.queues_alone (inv : Guarded w) (found : w.transactions.get id = some tx)
    (there : w.transactions.get other = some tx') (ne : id ≠ other) {c c' : Uuid}
    (held : .channel c ∈ tx.locks) (held' : .channel c' ∈ tx'.locks)
    (enabled : ChannelEnabled w.db c) (enabled' : ChannelEnabled w.db c') : False := by
  obtain ⟨channel, present, on⟩ := enabled
  obtain ⟨channel', present', on'⟩ := enabled'
  obtain rfl := inv.single c c' channel channel' present present' on on'
  exact inv.locking.apart id other tx tx' found there ne _ held held'

/-- The look of an open intent stays true when another transaction commits. -/
theorem Guarded.noRepeat_after (inv : Guarded w) (found : w.transactions.get id = some tx)
    (there : w.transactions.get other = some tx') (ne : id ≠ other) {p : Uuid} {row : Post}
    (intent : intends tx.call = true) (writes : Writes tx p row) (queued : row.state = .queued) :
    NoRepeat (tx'.apply w.db) row.mediaId row.scheduledAt p := by
  have look := inv.guarded id tx p row found intent writes queued
  have busy := busy_of_queued queued
  intro q post apart present media
  rcases apply_posts tx' w.db q with same | ⟨post', writes', written⟩
  · rw [same] at present
    exact look q post apart present media
  · obtain rfl := Option.some.inj (written.symm.trans present)
    -- The row it replaces was no repeat, so it can only come from the queue.
    have before : ∀ old, w.db.posts.get q = some old → old.mediaId = row.mediaId →
        old.busy = false := fun old was same => (look q old apart was same).1
    constructor
    · cases waits : post'.busy with
      | false => rfl
      | true =>
        exfalso
        have mediaOf : ∀ old, w.db.posts.get q = some old → old.mediaId = post'.mediaId := by
          intro old was
          rcases inv.row there writes' with kept | ⟨write, same⟩
          · rw [kept] at was
            cases was
            rfl
          · exact (write.same old (same.symm.trans was)).2.1.symm
        rcases inv.admitted other tx' q post' there writes' waits with ⟨old, was, busy'⟩ | enabled'
        · rw [before old was ((mediaOf old was).trans media)] at busy'
          cases busy'
        · have new := (inv.locking.news id tx found).1
          rcases inv.admitted id tx p row found writes busy with ⟨old, was, -⟩ | enabled
          · have target := (writes.intended intent new).1
            rw [inv.locking.settled id tx p row found writes, target, new] at was
            cases was
          · exact inv.queues_alone found there ne (writes.locks_channel new busy)
              (writes'.locks_channel (inv.locking.news other tx' there).1 waits) enabled enabled'
    · intro publishedAt date
      obtain ⟨-, old, was, same, origin⟩ :=
        inv.published there writes' (by rw [date]; rfl)
      have media' := same.trans media
      rcases origin with busy' | kept
      · rw [before old was media'] at busy'
        cases busy'
      · exact (look q old apart was media').2 publishedAt (kept.trans date)

/-- What a transaction that has just begun is let to queue. -/
theorem Writes.admitted {p : Uuid} {row : Post} (writes : Writes tx p row)
    (new : tx.read.posts.get tx.read.fresh = none) (busy : row.busy = true) :
    Admitted tx.read p row := by
  rcases (writes.held new).2 with there | write
  · exact Or.inl ⟨row, there, busy⟩
  · cases write.busy busy with
    | kept old found was slot => exact Or.inl ⟨old, found, was⟩
    | queued enabled free => exact Or.inr enabled

theorem Guarded.admitted_after (inv : Guarded w) (found : w.transactions.get id = some tx)
    (there : w.transactions.get other = some tx') (ne : id ≠ other) {p : Uuid} {row : Post}
    (writes : Writes tx p row) (busy : row.busy = true) : Admitted (tx'.apply w.db) p row := by
  rcases inv.admitted id tx p row found writes busy with ⟨old, was, busy'⟩ | enabled
  · left
    rcases apply_posts tx' w.db p with same | ⟨row', writes', -⟩
    · exact ⟨old, same.trans was, busy'⟩
    · exact absurd rfl (inv.locking.writes_apart found there ne writes writes')
  · right
    exact inv.still_enabled found there ne
      (writes.locks_channel (inv.locking.news id tx found).1 busy) enabled

/-- A settings transaction leaves at most one channel enabled. -/
theorem Guarded.single_after (inv : Guarded w) (found : w.transactions.get id = some tx) :
    SingleTarget (tx.apply w.db) := by
  rcases apply_channels tx w.db with same | ⟨c, channel, target, written, changed⟩
  · intro one other channel channel' here there
    rw [same] at here there
    exact inv.single one other channel channel' here there
  · obtain ⟨write, -, -⟩ := Call.run_channel tx.ran target
    obtain ⟨current, -, -⟩ := inv.configured id tx c found target
    -- An enabled channel that is not the written one was enabled before.
    have alone : ∀ other row, other ≠ c → w.db.channels.get other = some row →
        channel.isEnabled = true → row.isEnabled = true → False := by
      intro other row apart there on on'
      rw [current] at there
      rw [write.alone channel written on other row apart there] at on'
      cases on'
    intro one other row row' here there on on'
    rw [changed, Table.get_set] at here there
    split at here
    · cases here
      split at there
      · exact ‹one = c›.trans ‹other = c›.symm
      · exact (alone other row' ‹_› there on on').elim
    · split at there
      · cases there
        exact (alone one row ‹_› here on' on).elim
      · exact inv.single one other row row' here there on on'

theorem Guarded.channels_after (inv : Guarded w) (found : w.transactions.get id = some tx) :
    ∀ c channel, (tx.apply w.db).channels.get c = some channel → c < (tx.apply w.db).fresh := by
  intro c channel present
  rw [apply_fresh]
  rcases apply_channels tx w.db with same | ⟨written, row, target, -, changed⟩
  · rw [same] at present
    exact inv.channels c channel present
  · rw [changed, Table.get_set] at present
    split at present
    · rename_i here
      obtain ⟨current, -, below⟩ := inv.configured id tx written found target
      obtain ⟨-, -, ⟨-, old, was⟩ | new⟩ := Call.run_channel tx.ran target
      · rw [here]
        exact inv.channels written old (current ▸ was)
      · rw [here, new]
        exact below
    · exact inv.channels c channel present

/-- While a settings transaction is open, no other changes the channels. -/
theorem Guarded.configured_after (inv : Guarded w) (found : w.transactions.get id = some tx)
    (there : w.transactions.get other = some tx') (ne : id ≠ other) {c : Uuid}
    (target : tx.target = .channel c) : (tx'.apply w.db).channels = tx.read.channels := by
  obtain ⟨current, -, -⟩ := inv.configured id tx c found target
  rcases apply_channels tx' w.db with same | ⟨c', channel, target', -, -⟩
  · exact same.trans current
  · have mine := (Call.run_channel tx.ran target).2.1
    have theirs := (Call.run_channel tx'.ran target').2.1
    exact absurd theirs (inv.locking.apart id other tx tx' found there ne _ mine)

end Commits

section Steps
variable {w w' : World calendar isTimeZone} {act : Action}

/-- A step that changes no post and no channel, whose transactions are the old
    ones and those that have just read. -/
theorem Guarded.carried (inv : Guarded w) (locking : Locking w')
    (posts : w'.db.posts = w.db.posts) (channels : w'.db.channels = w.db.channels)
    (fresh : w.db.fresh ≤ w'.db.fresh)
    (origin : ∀ id tx, w'.transactions.get id = some tx →
      w.transactions.get id = some tx ∨ (tx.read = w.db ∧ w.db.fresh < w'.db.fresh)) :
    Guarded w' := by
  have still : ∀ p row, Admitted w.db p row → Admitted w'.db p row := by
    intro p row admitted
    unfold Admitted ChannelEnabled at admitted ⊢
    rw [posts, channels]
    exact admitted
  have look : ∀ mediaId instant p, NoRepeat w.db mediaId instant p →
      NoRepeat w'.db mediaId instant p := by
    intro mediaId instant p clear q other ne found
    rw [posts] at found
    exact clear q other ne found
  refine ⟨locking, ?_, ?_, ?_, ?_, ?_, ?_⟩
  · intro one other channel channel' here there
    rw [channels] at here there
    exact inv.single one other channel channel' here there
  · intro p row found
    rw [posts] at found
    exact inv.dated p row found
  · intro c channel found
    rw [channels] at found
    exact lt_of_lt_of_le (inv.channels c channel found) fresh
  · intro id tx c found target
    rw [channels]
    rcases origin id tx found with before | ⟨read, drawn⟩
    · obtain ⟨current, absent, below⟩ := inv.configured id tx c before target
      exact ⟨current, absent, lt_of_lt_of_le below fresh⟩
    · rw [read]
      refine ⟨rfl, ?_, drawn⟩
      cases present : w.db.channels.get w.db.fresh with
      | none => rfl
      | some channel => exact absurd (inv.channels _ channel present) (Nat.lt_irrefl _)
  · intro id tx p row found writes busy
    apply still
    rcases origin id tx found with before | ⟨read, -⟩
    · exact inv.admitted id tx p row before writes busy
    · rw [← read]
      exact writes.admitted (locking.news id tx found).1 busy
  · intro id tx p row found intent writes queued
    apply look
    rcases origin id tx found with before | ⟨read, -⟩
    · exact inv.guarded id tx p row before intent writes queued
    · obtain ⟨rfl, intended⟩ := writes.intended intent (locking.news id tx found).1
      cases intended with
      | queued _ clear =>
        rw [read] at clear ⊢
        exact noRepeat_of_clear inv.dated clear
      | drafted draft =>
        rw [draft] at queued
        cases queued

/-- What one step keeps. -/
theorem Guarded.step (inv : Guarded w) (managed : Managed w act) (h : step w act = some w') :
    Guarded w' := by
  have locking := inv.locking.step h
  cases step_cases h with
  | began id tx read free transactions posts channels fresh =>
    refine inv.carried locking posts channels (le_of_lt fresh) (fun other tx' found => ?_)
    rw [transactions, Table.get_set] at found
    split at found
    · obtain rfl := Option.some.inj found
      exact Or.inr ⟨read, fresh⟩
    · exact Or.inl found
  | committed id tx which found transactions db =>
    refine ⟨locking, ?_, ?_, ?_, ?_, ?_, ?_⟩
    · rw [db]
      exact inv.single_after found
    · intro p row present date
      rw [db] at present
      rcases apply_posts tx w.db p with same | ⟨row', writes, written⟩
      · rw [same] at present
        exact inv.dated p row present date
      · obtain rfl := Option.some.inj (written.symm.trans present)
        exact (inv.published found writes date).1
    · rw [db]
      exact inv.channels_after found
    · intro other tx' c there target
      obtain ⟨ne, before⟩ := transactions_of_remove transactions there
      obtain ⟨-, absent, below⟩ := inv.configured other tx' c before target
      rw [db, apply_fresh]
      exact ⟨inv.configured_after before found ne target, absent, below⟩
    · intro other tx' p row there writes busy
      obtain ⟨ne, before⟩ := transactions_of_remove transactions there
      rw [db]
      exact inv.admitted_after before found ne writes busy
    · intro other tx' p row there intent writes queued
      obtain ⟨ne, before⟩ := transactions_of_remove transactions there
      rw [db]
      exact inv.noRepeat_after before found ne intent writes queued
  | aborted id transactions db =>
    exact inv.carried locking (by rw [db]) (by rw [db]) (le_of_eq (by rw [db]))
      (fun other tx' there => Or.inl (transactions_of_remove transactions there).2)
  | aside transactions posts channels fresh =>
    rcases channels with channels | ⟨id, channel, outside⟩
    · refine inv.carried locking posts channels fresh (fun other tx' there => Or.inl ?_)
      rw [← transactions]
      exact there
    · exact absurd outside (managed id channel)

theorem guarded_initial : Guarded (initial calendar isTimeZone) where
  locking := locking_initial
  single := fun _ _ _ _ found => by cases found
  dated := fun _ _ found => by cases found
  channels := fun _ _ found => by cases found
  configured := fun _ _ _ found => by cases found
  admitted := fun _ _ _ _ found => by cases found
  guarded := fun _ _ _ _ found => by cases found

end Steps

section Drafts
variable {w w' : World calendar isTimeZone} {act : Action} {p : Uuid}

/-- The step commits a decision on this post. -/
def Decides (p : Uuid) (w : World calendar isTimeZone) (act : Action) : Prop :=
  ∃ id tx, act = .commit id ∧ w.transactions.get id = some tx ∧ tx.call.decides p = true

/-- A draft that waits for a decision, or one that was cancelled. -/
def Undecided (post : Post) : Prop :=
  (post.state = .draft ∧ post.repeatEvidence.isSome) ∨ post.state = .cancelled

theorem undecided_step (inv : Locking w) (undecided : ¬ Decides p w act) {post : Post}
    (found : w.db.posts.get p = some post) (waits : Undecided post) (h : step w act = some w') :
    ∃ row, w'.db.posts.get p = some row ∧ Undecided row := by
  cases step_cases h with
  | began id tx read free transactions posts channels fresh => exact ⟨post, posts ▸ found, waits⟩
  | committed id tx which open' transactions db =>
    rw [db]
    rcases apply_posts tx w.db p with same | ⟨row, writes, written⟩
    · exact ⟨post, same.trans found, waits⟩
    · refine ⟨row, written, ?_⟩
      have settled := inv.settled id tx p row open' writes
      rcases (writes.held (inv.news id tx open').1).2 with there | write
      · rw [settled, there] at found
        cases found
        exact waits
      · have before := settled.symm.trans found
        rcases waits with ⟨draft, evidence⟩ | cancelled
        · rcases write.evidence post before draft evidence with ⟨still, kept⟩ | ended | decided
          · exact Or.inl ⟨still, by rw [kept]; exact evidence⟩
          · exact Or.inr ended
          · exact absurd ⟨id, tx, which, open', decided⟩ undecided
        · have live := (write.same post before).2.2
          rw [cancelled] at live
          cases live
  | aborted id transactions db => exact ⟨post, db ▸ found, waits⟩
  | aside transactions posts channels fresh => exact ⟨post, posts ▸ found, waits⟩

theorem undecided_run {later : List Action} (inv : Locking w)
    (run : Run step (fun w act => ¬ Decides p w act) w later w') {post : Post}
    (found : w.db.posts.get p = some post) (waits : Undecided post) :
    ∃ row, w'.db.posts.get p = some row ∧ Undecided row := by
  induction run generalizing post with
  | nil w => exact ⟨post, found, waits⟩
  | cons ok first tail ih =>
    obtain ⟨row, here, still⟩ := undecided_step inv ok found waits first
    exact ih (inv.step first) here still

end Drafts

section Runs
variable {w v : World calendar isTimeZone}

/-- While channels are managed by their settings: when an intent or a
    materialization commits a new post, either it is queued, and then no other
    post of its media waits, is being sent or was published in the two weeks
    before its instant; or it is a draft with the conflicts it found, and stays
    one, or is cancelled, until a decision on it is committed. -/
theorem repeats_need_a_decision {acts : List Action}
    (run : Run step Managed (initial calendar isTimeZone) acts w) {id p : Uuid}
    {tx : Transaction calendar isTimeZone} {post : Post}
    (open' : w.transactions.get id = some tx) (intent : intends tx.call = true)
    (commit : step w (.commit id) = some v) (new : w.db.posts.get p = none)
    (created : v.db.posts.get p = some post) :
    (post.state = .queued ∧ ∀ q other, q ≠ p → v.db.posts.get q = some other →
      other.mediaId = post.mediaId → other.state ≠ .queued ∧
      (∀ token startedAt, other.state ≠ .sending token startedAt) ∧
      ∀ publishedAt, other.publishedAt = some publishedAt →
        ¬ (post.scheduledAt < publishedAt + 14 * day ∧ publishedAt < post.scheduledAt)) ∨
    (post.state = .draft ∧ (∃ conflicts, post.repeatEvidence = some conflicts ∧ conflicts ≠ []) ∧
      ∀ later u, Run step (fun w act => ¬ Decides p w act) v later u →
        ∀ row, u.db.posts.get p = some row → row.state ≠ .queued) := by
  have inv : Guarded w :=
    run_invariant Guarded (fun inv managed h => inv.step managed h) guarded_initial run
  have locking := inv.locking.step commit
  simp only [step, open', Option.bind_eq_bind, Option.bind_some, Option.some.injEq] at commit
  subst commit
  have writes : Writes tx p post := by
    rcases apply_posts tx w.db p with same | ⟨row, writes, written⟩
    · rw [same, new] at created
      cases created
    · obtain rfl := Option.some.inj (written.symm.trans created)
      exact writes
  cases (writes.intended intent (inv.locking.news id tx open').1).2 with
  | queued state clear =>
    refine Or.inl ⟨state, ?_⟩
    intro q other ne there media
    rw [writes.others w.db ne] at there
    obtain ⟨idle, dates⟩ := inv.guarded id tx p post open' intent writes state q other ne there media
    refine ⟨?_, ?_, dates⟩
    · intro queued
      rw [busy_of_queued queued] at idle
      cases idle
    · intro token startedAt sending
      rw [busy_of_sending sending] at idle
      cases idle
  | drafted state conflicts evidence some =>
    refine Or.inr ⟨state, ⟨conflicts, evidence, some⟩, ?_⟩
    intro later u after row found queued
    obtain ⟨last, there, waits⟩ := undecided_run locking after created
      (Or.inl ⟨state, by rw [evidence]; rfl⟩)
    obtain rfl := Option.some.inj (there.symm.trans found)
    rcases waits with ⟨draft, -⟩ | cancelled
    · rw [queued] at draft
      cases draft
    · rw [queued] at cancelled
      cases cancelled

/-- A video posted at once, and a second intent for it that has read. -/
def sampleRepeat : List Action :=
  [.setMedia 200 sampleMedia,
    .begin 1 (.createChannel ⟨"main", -1001, "UTC", 0, 86400, 30, none, false⟩), .commit 1,
    .begin 2 (.createIntent 200 ⟨.postNow, none, none⟩ "first"), .commit 2,
    .begin 3 (.createIntent 200 ⟨.postNow, none, none⟩ "second")]

theorem sampleRepeat_managed : ∀ act ∈ sampleRepeat,
    ∀ w : World sampleCalendar (fun _ => true), Managed w act := by
  intro act member w id channel same
  subst same
  simp [sampleRepeat] at member

/-- The second intent becomes a draft that waits for a decision. -/
theorem second_intent_needs_a_decision :
    ∃ (w v : World sampleCalendar (fun _ => true)) (post : Post),
      exec step (initial sampleCalendar (fun _ => true)) sampleRepeat = some w ∧
      step w (.commit 3) = some v ∧ v.db.posts.get 3 = some post ∧ post.state = .draft ∧
      ∀ later u, Run step (fun w act => ¬ Decides 3 w act) v later u →
        ∀ row, u.db.posts.get 3 = some row → row.state ≠ .queued := by
  obtain ⟨w, reached⟩ : ∃ w : World sampleCalendar (fun _ => true),
      exec step (initial sampleCalendar (fun _ => true)) sampleRepeat = some w := ⟨_, rfl⟩
  obtain ⟨tx, v, post, open', intent, commit, new, created, draft⟩ : ∃ tx v post,
      w.transactions.get 3 = some tx ∧ intends tx.call = true ∧ step w (.commit 3) = some v ∧
      w.db.posts.get 3 = none ∧ v.db.posts.get 3 = some post ∧ post.state = .draft := by
    cases reached
    exact ⟨_, _, _, rfl, rfl, rfl, rfl, rfl, rfl⟩
  refine ⟨w, v, post, reached, commit, created, draft, ?_⟩
  rcases repeats_need_a_decision (run_of_exec_allowed sampleRepeat_managed reached) open' intent
    commit new created with ⟨queued, -⟩ | ⟨-, -, waits⟩
  · rw [draft] at queued
    cases queued
  · exact waits

end Runs

end Sooqa.Publisher.Concurrent
