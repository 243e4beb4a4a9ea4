import Sooqa.Foundation.Transition
import Sooqa.Publisher.RowWrites

/-!
What the locks give. While a transaction is open, nobody else writes the post
it will write: the row it read is the row it replaces. The invariants of the
publication tables rest on this and on what each call writes.
-/
namespace Sooqa.Publisher.Concurrent
open Foundation Queue

variable {calendar : Calendar} {isTimeZone : String → Bool}

section Steps
variable {w w' : World calendar isTimeZone} {act : Action}

theorem free_of_begin {needed : List Resource} (h : w.free needed = true) {id : Uuid}
    {tx : Transaction calendar isTimeZone} (found : w.transactions.get id = some tx) :
    ∀ resource ∈ needed, resource ∉ tx.locks := by
  intro resource member held
  have row := (Table.mem_rows_iff w.transactions id tx).mpr found
  have clear := List.all_eq_true.mp (List.all_eq_true.mp h (id, tx) row) resource member
  simp [held] at clear

/-- What a step does. -/
inductive Stepped (w w' : World calendar isTimeZone) (act : Action) : Prop where
  | began (id : Uuid) (tx : Transaction calendar isTimeZone) (read : tx.read = w.db)
      (free : ∀ other tx', w.transactions.get other = some tx' →
        ∀ resource ∈ tx.locks, resource ∉ tx'.locks)
      (transactions : w'.transactions = w.transactions.set id tx)
      (posts : w'.db.posts = w.db.posts) (channels : w'.db.channels = w.db.channels)
      (fresh : w.db.fresh < w'.db.fresh)
  | committed (id : Uuid) (tx : Transaction calendar isTimeZone) (which : act = .commit id)
      (found : w.transactions.get id = some tx)
      (transactions : w'.transactions = w.transactions.remove id) (db : w'.db = tx.apply w.db)
  | aborted (id : Uuid) (transactions : w'.transactions = w.transactions.remove id)
      (db : w'.db = w.db)
  | aside (transactions : w'.transactions = w.transactions) (posts : w'.db.posts = w.db.posts)
      (channels : w'.db.channels = w.db.channels ∨ ∃ id channel, act = .setChannel id channel)
      (fresh : w.db.fresh ≤ w'.db.fresh)

theorem step_cases (h : step w act = some w') : Stepped w w' act := by
  cases act with
  | begin id call =>
    simp only [step, begin] at h
    split at h
    · cases h
    · rename_i result ran
      split at h
      · rename_i ready
        cases h
        exact .began id ⟨call, w.db, result, ran⟩ rfl
          (fun other tx' found => free_of_begin ready.1 found) rfl rfl rfl
          (lt_of_lt_of_le (Nat.lt_succ_self _) (le_max_right _ _))
      · cases h
  | commit id =>
    simp only [step, Option.bind_eq_bind, Option.bind_eq_some_iff, Option.some.injEq] at h
    obtain ⟨tx, found, rfl⟩ := h
    exact .committed id tx rfl found rfl rfl
  | abort id =>
    cases h
    exact .aborted id rfl rfl
  | tick elapsed =>
    cases h
    exact .aside rfl rfl (Or.inl rfl) le_rfl
  | setChannel id channel =>
    cases h
    exact .aside rfl rfl (Or.inr ⟨id, channel, rfl⟩) le_rfl
  | setMedia id media =>
    cases h
    exact .aside rfl rfl (Or.inl rfl) le_rfl
  | setIngest id ingest =>
    cases h
    exact .aside rfl rfl (Or.inl rfl) le_rfl
  | setJobs jobs =>
    cases h
    exact .aside rfl rfl (Or.inl rfl) le_rfl
  | drawUuid =>
    cases h
    exact .aside rfl rfl (Or.inl rfl) (Nat.le_succ _)

end Steps

section Writes
variable {tx : Transaction calendar isTimeZone} {db : Db} {p : Uuid} {row : Post}

/-- The transaction will write this row at this post. -/
structure Writes (tx : Transaction calendar isTimeZone) (p : Uuid) (row : Post) : Prop where
  target : tx.target = .post p
  row : tx.result.posts.get p = some row

/-- After a commit each post is the one that was there or the one written. -/
theorem apply_posts (tx : Transaction calendar isTimeZone) (db : Db) (q : Uuid) :
    (tx.apply db).posts.get q = db.posts.get q ∨
      ∃ row, Writes tx q row ∧ (tx.apply db).posts.get q = some row := by
  cases target : tx.target with
  | channel id =>
    left
    simp only [Transaction.apply, target]
    split
    · rfl
    · rfl
  | post p =>
    cases written : tx.result.posts.get p with
    | none =>
      left
      simp [Transaction.apply, target, written]
    | some row =>
      by_cases here : q = p
      · subst here
        right
        exact ⟨row, ⟨target, written⟩, by simp [Transaction.apply, target, written]⟩
      · left
        simp [Transaction.apply, target, written, Table.get_set_ne _ _ here]

theorem Writes.applied (writes : Writes tx p row) (db : Db) :
    (tx.apply db).posts.get p = some row := by
  simp [Transaction.apply, writes.target, writes.row]

theorem Writes.others (writes : Writes tx p row) (db : Db) {q : Uuid} (ne : q ≠ p) :
    (tx.apply db).posts.get q = db.posts.get q := by
  simp [Transaction.apply, writes.target, writes.row, Table.get_set_ne _ _ ne]

theorem apply_fresh (tx : Transaction calendar isTimeZone) (db : Db) :
    (tx.apply db).fresh = db.fresh := by
  simp only [Transaction.apply]
  split
  · rfl
  · split
    · rfl
    · rfl

/-- A call that writes a post inserts it, or locks it with its channel. -/
theorem inserts_or_locks {call : Call} (target : call.target db = .post p) :
    p = db.fresh ∨ call.locks db = Call.postLocks db p := by
  cases call with
  | createPost post key hash =>
    cases target
    exact Or.inl rfl
  | createIntent mediaId intent key =>
    cases target
    exact Or.inl rfl
  | materialize ingestId =>
    cases target
    exact Or.inl rfl
  | createChannel channel => cases target
  | updateChannel id update => cases target
  | _ =>
    cases target
    exact Or.inr rfl

/-- A call on an existing post locks it with its channel. -/
theorem locks_of_found {call : Call} (target : call.target db = .post p)
    (found : db.posts.get p = some row) (new : db.posts.get db.fresh = none) :
    .channel row.channelId ∈ call.locks db ∧ .post p ∈ call.locks db := by
  rcases inserts_or_locks target with rfl | locks
  · rw [new] at found
    cases found
  · rw [locks]
    exact mem_postLocks found

/-- A transaction that writes a post holds it; the row it writes comes from the
    row it read. -/
theorem Writes.held (writes : Writes tx p row) (new : tx.read.posts.get tx.read.fresh = none) :
    .post p ∈ tx.locks ∧
      (tx.read.posts.get p = some row ∨ RowWrite tx.call tx.read p row) := by
  rcases (Call.run_post tx.ran writes.target new).row with same | ⟨other, there, write⟩
  · rw [writes.row] at same
    exact ⟨(locks_of_found writes.target same.symm new).2, Or.inl same.symm⟩
  · obtain rfl := Option.some.inj (writes.row.symm.trans there)
    exact ⟨write.held, Or.inr write⟩

/-- A transaction that leaves a post waiting holds its channel. -/
theorem Writes.locks_channel (writes : Writes tx p row)
    (new : tx.read.posts.get tx.read.fresh = none)
    (busy : row.busy = true) : .channel row.channelId ∈ tx.locks := by
  rcases (writes.held new).2 with there | write
  · exact (locks_of_found writes.target there new).1
  · exact write.locked busy

/-- A transaction that commits with nothing in between leaves the posts its
    call leaves. -/
theorem apply_read (target : tx.target = .post p) (new : tx.read.posts.get tx.read.fresh = none)
    (q : Uuid) : (tx.apply tx.read).posts.get q = tx.result.posts.get q := by
  have write := Call.run_post tx.ran target new
  cases written : tx.result.posts.get p with
  | some row =>
    have writes : Writes tx p row := ⟨target, written⟩
    by_cases here : q = p
    · rw [here, writes.applied, written]
    · rw [writes.others _ here, write.others q here]
  | none =>
    have same : (tx.apply tx.read).posts = tx.read.posts := by
      simp [Transaction.apply, target, written]
    rw [same]
    by_cases here : q = p
    · subst here
      rcases write.row with kept | ⟨row, there, -⟩
      · exact kept.symm
      · rw [written] at there
        cases there
    · exact (write.others q here).symm

end Writes

/-- What the locks keep. -/
structure Locking (w : World calendar isTimeZone) : Prop where
  drawn : ∀ p row, w.db.posts.get p = some row → p < w.db.fresh
  apart : ∀ id other tx tx', w.transactions.get id = some tx →
    w.transactions.get other = some tx' → id ≠ other → ∀ resource ∈ tx.locks, resource ∉ tx'.locks
  news : ∀ id tx, w.transactions.get id = some tx →
    tx.read.posts.get tx.read.fresh = none ∧ tx.read.fresh < w.db.fresh ∧
      ∀ p row, tx.read.posts.get p = some row → p < tx.read.fresh
  settled : ∀ id tx p row, w.transactions.get id = some tx → Writes tx p row →
    w.db.posts.get p = tx.read.posts.get p

section Locking
variable {w w' : World calendar isTimeZone} {act : Action}

/-- Two open transactions write different posts. -/
theorem Locking.writes_apart (inv : Locking w) {id other p q : Uuid}
    {tx tx' : Transaction calendar isTimeZone} {row row' : Post}
    (found : w.transactions.get id = some tx) (there : w.transactions.get other = some tx')
    (ne : id ≠ other) (writes : Writes tx p row) (writes' : Writes tx' q row') : p ≠ q := by
  rintro rfl
  have held := (writes.held (inv.news id tx found).1).1
  have held' := (writes'.held (inv.news other tx' there).1).1
  exact inv.apart id other tx tx' found there ne _ held held'

theorem Writes.drawn (inv : Locking w) {id p : Uuid} {tx : Transaction calendar isTimeZone}
    {row : Post} (found : w.transactions.get id = some tx) (writes : Writes tx p row) :
    p < w.db.fresh := by
  obtain ⟨new, below, old⟩ := inv.news id tx found
  rcases writes.held new with ⟨held, there | write⟩
  · exact lt_trans (old p row there) below
  · cases present : tx.read.posts.get p with
    | some was => exact lt_trans (old p was present) below
    | none =>
      -- Only a call that inserts its post writes one it did not read.
      rcases inserts_or_locks writes.target with rfl | locks
      · exact below
      · simp [Transaction.locks, locks, Call.postLocks, present] at held

theorem transactions_of_remove {id other : Uuid} {tx : Transaction calendar isTimeZone}
    (transactions : w'.transactions = w.transactions.remove id)
    (found : w'.transactions.get other = some tx) :
    other ≠ id ∧ w.transactions.get other = some tx := by
  rw [transactions, Table.get_remove] at found
  split at found
  · cases found
  · exact ⟨‹_›, found⟩

/-- What one step keeps. -/
theorem Locking.step (inv : Locking w) (h : step w act = some w') : Locking w' := by
  cases step_cases h with
  | began id tx read free transactions posts channels fresh =>
    have cases' : ∀ other tx', w'.transactions.get other = some tx' →
        (other = id ∧ tx' = tx) ∨ (other ≠ id ∧ w.transactions.get other = some tx') := by
      intro other tx' found
      rw [transactions, Table.get_set] at found
      split at found
      · exact Or.inl ⟨‹_›, (Option.some.inj found).symm⟩
      · exact Or.inr ⟨‹_›, found⟩
    have absent : w.db.posts.get w.db.fresh = none := by
      cases present : w.db.posts.get w.db.fresh with
      | none => rfl
      | some row => exact absurd (inv.drawn _ row present) (Nat.lt_irrefl _)
    constructor
    · intro p row found
      rw [posts] at found
      exact lt_trans (inv.drawn p row found) fresh
    · intro one other tx₁ tx₂ found there ne resource held held'
      rcases cases' one tx₁ found with ⟨rfl, rfl⟩ | ⟨-, before⟩
      · rcases cases' other tx₂ there with ⟨rfl, rfl⟩ | ⟨-, before'⟩
        · exact ne rfl
        · exact free other tx₂ before' resource held held'
      · rcases cases' other tx₂ there with ⟨rfl, rfl⟩ | ⟨-, before'⟩
        · exact free one tx₁ before resource held' held
        · exact inv.apart one other tx₁ tx₂ before before' ne resource held held'
    · intro other tx' found
      rcases cases' other tx' found with ⟨rfl, rfl⟩ | ⟨-, before⟩
      · rw [read]
        exact ⟨absent, fresh, inv.drawn⟩
      · obtain ⟨new, below, old⟩ := inv.news other tx' before
        exact ⟨new, lt_trans below fresh, old⟩
    · intro other tx' p row found writes
      rw [posts]
      rcases cases' other tx' found with ⟨rfl, rfl⟩ | ⟨-, before⟩
      · rw [read]
      · exact inv.settled other tx' p row before writes
  | committed id tx which found transactions db =>
    have fresh : w'.db.fresh = w.db.fresh := by rw [db, apply_fresh]
    constructor
    · intro p row present
      rw [fresh]
      rw [db] at present
      rcases apply_posts tx w.db p with same | ⟨row', writes, -⟩
      · rw [same] at present
        exact inv.drawn p row present
      · exact writes.drawn inv found
    · intro one other tx₁ tx₂ here there ne
      obtain ⟨-, before⟩ := transactions_of_remove transactions here
      obtain ⟨-, before'⟩ := transactions_of_remove transactions there
      exact inv.apart one other tx₁ tx₂ before before' ne
    · intro other tx' there
      rw [fresh]
      exact inv.news other tx' (transactions_of_remove transactions there).2
    · intro other tx' p row there writes
      obtain ⟨ne, before⟩ := transactions_of_remove transactions there
      have settled := inv.settled other tx' p row before writes
      rw [db]
      rcases apply_posts tx w.db p with same | ⟨row', writes', -⟩
      · rw [same]
        exact settled
      · exact absurd rfl (inv.writes_apart before found ne writes writes')
  | aborted id transactions db =>
    constructor
    · rw [db]
      exact inv.drawn
    · intro one other tx₁ tx₂ here there ne
      obtain ⟨-, before⟩ := transactions_of_remove transactions here
      obtain ⟨-, before'⟩ := transactions_of_remove transactions there
      exact inv.apart one other tx₁ tx₂ before before' ne
    · intro other tx' there
      rw [db]
      exact inv.news other tx' (transactions_of_remove transactions there).2
    · intro other tx' p row there writes
      rw [db]
      exact inv.settled other tx' p row (transactions_of_remove transactions there).2 writes
  | aside transactions posts channels fresh =>
    constructor
    · intro p row present
      rw [posts] at present
      exact lt_of_lt_of_le (inv.drawn p row present) fresh
    · rw [transactions]
      exact inv.apart
    · intro other tx' there
      rw [transactions] at there
      obtain ⟨new, below, old⟩ := inv.news other tx' there
      exact ⟨new, lt_of_lt_of_le below fresh, old⟩
    · intro other tx' p row there writes
      rw [transactions] at there
      rw [posts]
      exact inv.settled other tx' p row there writes

theorem locking_initial : Locking (initial calendar isTimeZone) where
  drawn := fun _ _ found => by cases found
  apart := fun _ _ _ _ found => by cases found
  news := fun _ _ found => by cases found
  settled := fun _ _ _ _ found => by cases found

end Locking

end Sooqa.Publisher.Concurrent
