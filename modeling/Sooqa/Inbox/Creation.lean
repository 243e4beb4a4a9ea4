import Sooqa.Foundation.Transition
import Sooqa.Inbox.LifecycleEffects
import Sooqa.Inbox.Submission

/-!
`create_ingest_at` statement by statement. A call looks its key up, and where
there is no row it is admitted, inserts, and commits, or reads the row that
another call committed first. What is inserted is seen by nobody before the
commit, but an insert of the same key waits for it. Between the statements of
one call the others proceed, and any other transaction commits.
-/
namespace Sooqa.Inbox.Creation
open Foundation Queue
open Submission (Libraries)

inductive CreateError where
  | inbox (error : Error)
  | inputEnvelope (error : String)
  | database
  deriving DecidableEq, Repr

/-- The statement a call issues next, with what it has at hand. -/
inductive Phase where
  | lookup
  | admission
  | insert (id : Uuid) (request : Ingest)
  | reread
  | commit (id : Uuid) (request : Ingest)
  deriving DecidableEq, Repr

def Phase.drawn : Phase → Option (Uuid × Ingest)
  | .insert id request | .commit id request => some (id, request)
  | .lookup | .admission | .reread => none

/-- A call under way. Whether its key had a row when it began is noted for the
    statements about it, the program does not know. -/
structure Call where
  submission : Submission.IngestSubmission
  now : Time
  known : Bool
  phase : Phase

/-- A call that returned. -/
structure Entry where
  submission : Submission.IngestSubmission
  known : Bool
  outcome : Except CreateError CreateIngestResult

structure World where
  db : Db
  calls : Table Nat Call
  log : List Entry

inductive Action where
  | other (db : Db)
  | begin (call : Nat) (submission : Submission.IngestSubmission) (now : Time)
  | lookup (call : Nat)
  | admission (call : Nat) (id : Uuid)
  | insert (call : Nat)
  | reread (call : Nat)
  | commit (call : Nat)
  | fail (call : Nat)

section Others

/-- What no transaction ever changes of an ingest. -/
def identity (request : Ingest) : String × String × IngestKind :=
  (request.inputKey, request.requestHash, request.kind)

def initialJob (id : Uuid) (request : Ingest) : JobKey :=
  .stage (firstStage request.kind) id false

/-- Ingests are inserted by creation alone, never deleted, and keep their
    identity; the first job of an ingest stays. -/
def keeps (db db' : Db) : Bool :=
  (Table.rows db.ingests).all (fun row =>
    (db'.ingests.get row.1).any (fun request => identity request == identity row.2) &&
      (!(db.jobs.get (initialJob row.1 row.2)).isSome ||
        (db'.jobs.get (initialJob row.1 row.2)).isSome)) &&
  (Table.rows db'.ingests).all (fun row => (db.ingests.get row.1).isSome)

end Others

section Statements
variable (libraries : Libraries)

def World.setPhase (w : World) (call : Nat) (record : Call) (phase : Phase) : World :=
  { w with calls := w.calls.set call { record with phase := phase } }

/-- The call returns; what it did not commit is gone. -/
def World.finish (w : World) (call : Nat) (record : Call)
    (outcome : Except CreateError CreateIngestResult) : World :=
  { w with
    calls := w.calls.remove call
    log := ⟨record.submission, record.known, outcome⟩ :: w.log }

/-- A second request with the key is answered with the row or refused. -/
def replay (submission : Submission.IngestSubmission) (id : Uuid) (existing : Ingest) :
    Except CreateError CreateIngestResult :=
  if existing.requestHash = submission.requestHash libraries then .ok ⟨id, existing, false⟩
  else .error (.inbox (.idempotencyConflict submission.inputKey))

def lookupStep (w : World) (call : Nat) (record : Call) : World :=
  match findByInputKey w.db record.submission.inputKey with
  | some (id, existing) => w.finish call record (replay libraries record.submission id existing)
  | none => w.setPhase call record .admission

def admission (db : Db) (now : Time) (submission : Submission.IngestSubmission) (id : Uuid) :
    Except CreateError Ingest := do
  let kept ← (submission.stored libraries).mapError .inputEnvelope
  require (¬ (submission.requestedAction = .queue ∧
    ∃ publishAt ∈ submission.requestedPublishAt, publishAt ≤ now))
    (.inbox .requestedPublishAtNotFuture)
  let channelId ← (requestedChannel db submission.requestedAction).mapError .inbox
  pure { queuedIngest id db.now kept with requestedChannelId := channelId }

/-- A drawn identifier is nobody else's. -/
def World.unused (w : World) (id : Uuid) : Bool :=
  (w.db.ingests.get id).isNone &&
    (Table.rows w.calls).all (fun row => !row.2.phase.drawn.any (fun drawn => drawn.1 == id))

def admitStep (w : World) (call : Nat) (record : Call) (id : Uuid) : World :=
  match admission libraries w.db record.now record.submission id with
  | .ok request => w.setPhase call record (.insert id request)
  | .error error => w.finish call record (.error error)

/-- An uncommitted row with the key. -/
def World.inserting (w : World) (key : String) : Bool :=
  (Table.rows w.calls).any (fun row =>
    (match row.2.phase with | .commit _ _ => true | _ => false) &&
      row.2.submission.inputKey == key)

/-- `ON CONFLICT (input_key) DO NOTHING` sees what is committed by now. -/
def insertStep (w : World) (call : Nat) (record : Call) (id : Uuid) (request : Ingest) : World :=
  match findByInputKey w.db record.submission.inputKey with
  | some _ => w.setPhase call record .reread
  | none => w.setPhase call record (.commit id request)

def rereadStep (w : World) (call : Nat) (record : Call) : World :=
  match findByInputKey w.db record.submission.inputKey with
  | some (id, existing) => w.finish call record (replay libraries record.submission id existing)
  | none => w.finish call record (.error .database)

def created (db : Db) (id : Uuid) (request : Ingest) : Db :=
  insertFirstJob (setIngest db id request) id request

/-- The row and its first job appear together. -/
def commitStep (w : World) (call : Nat) (record : Call) (id : Uuid) (request : Ingest) : World :=
  { w.finish call record (.ok ⟨id, request, true⟩) with
    db := created w.db id request }

def callStep (w : World) (call : Nat) (record : Call) : Action → Option World
  | .lookup _ => if record.phase = .lookup then some (lookupStep libraries w call record) else none
  | .admission _ id =>
    if record.phase = .admission ∧ w.unused id then some (admitStep libraries w call record id) else none
  | .insert _ =>
    match record.phase with
    | .insert id request =>
      if w.inserting record.submission.inputKey then none
      else some (insertStep w call record id request)
    | _ => none
  | .reread _ => if record.phase = .reread then some (rereadStep libraries w call record) else none
  | .commit _ =>
    match record.phase with
    | .commit id request => some (commitStep w call record id request)
    | _ => none
  | .fail _ => some (w.finish call record (.error .database))
  | .other _ | .begin _ _ _ => none

def beginStep (w : World) (call : Nat) (submission : Submission.IngestSubmission) (now : Time) :
    Option World :=
  if (w.calls.get call).isSome then none
  else
    let known := (findByInputKey w.db submission.inputKey).isSome
    some { w with calls := w.calls.set call ⟨submission, now, known, .lookup⟩ }

def step (w : World) (action : Action) : Option World :=
  match action with
  | .other db => if keeps w.db db then some { w with db := db } else none
  | .begin call submission now => beginStep w call submission now
  | .lookup call | .admission call _ | .insert call | .reread call | .commit call | .fail call =>
    (w.calls.get call).bind (fun record => callStep libraries w call record action)

end Statements

section Rows
variable {db db' : Db}

def HasKey (db : Db) (key : String) : Prop :=
  ∃ id request, db.ingests.get id = some request ∧ request.inputKey = key

theorem findByInputKey_some {key : String} {id : Uuid} {request : Ingest}
    (h : findByInputKey db key = some (id, request)) :
    db.ingests.get id = some request ∧ request.inputKey = key := by
  have same := List.find?_some h
  exact ⟨(Table.mem_rows_iff _ _ _).mp (List.mem_of_find?_eq_some h), beq_iff_eq.mp same⟩

theorem findByInputKey_none {key : String} (h : findByInputKey db key = none) :
    ¬ HasKey db key := by
  rintro ⟨id, request, found, same⟩
  have other := List.find?_eq_none.mp h (id, request) ((Table.mem_rows_iff _ _ _).mpr found)
  exact other (beq_iff_eq.mpr same)

/-- Rows stay, as who they are, with their first job. -/
structure Kept (db db' : Db) : Prop where
  row : ∀ id request, db.ingests.get id = some request → ∃ request',
    db'.ingests.get id = some request' ∧ identity request' = identity request
  job : ∀ id request, db.ingests.get id = some request →
    (db.jobs.get (initialJob id request)).isSome → (db'.jobs.get (initialJob id request)).isSome

theorem identity_eq {request request' : Ingest} (same : identity request' = identity request) :
    request'.inputKey = request.inputKey ∧ request'.requestHash = request.requestHash ∧
      request'.kind = request.kind := by
  simp only [identity, Prod.mk.injEq] at same
  exact same

theorem initialJob_eq {request request' : Ingest} (id : Uuid)
    (same : identity request' = identity request) :
    initialJob id request' = initialJob id request := by
  rw [initialJob, initialJob, (identity_eq same).2.2]

theorem kept_of_keeps (h : keeps db db' = true) : Kept db db' := by
  simp only [keeps, Bool.and_eq_true, List.all_eq_true] at h
  have forward := fun id request found =>
    h.1 (id, request) ((Table.mem_rows_iff db.ingests id request).mpr found)
  constructor
  · intro id request found
    obtain ⟨request', found', same⟩ := (Option.any_eq_true _ _).mp (forward id request found).1
    exact ⟨request', found', beq_iff_eq.mp same⟩
  · intro id request found present
    have job := (forward id request found).2
    rw [present] at job
    exact job

/-- Other transactions insert no ingest. -/
theorem old_of_keeps (h : keeps db db' = true) {id : Uuid} {request' : Ingest}
    (found : db'.ingests.get id = some request') : ∃ request,
      db.ingests.get id = some request ∧ identity request' = identity request := by
  have kept := kept_of_keeps h
  simp only [keeps, Bool.and_eq_true, List.all_eq_true] at h
  have present := h.2 (id, request') ((Table.mem_rows_iff _ _ _).mpr found)
  obtain ⟨request, old⟩ := Option.isSome_iff_exists.mp present
  obtain ⟨request'', found'', same⟩ := kept.row id request old
  cases found.symm.trans found''
  exact ⟨request, old, same⟩

theorem Kept.hasKey {key : String} (kept : Kept db db') (has : HasKey db key) : HasKey db' key := by
  obtain ⟨id, request, found, rfl⟩ := has
  obtain ⟨request', found', same⟩ := kept.row id request found
  exact ⟨id, request', found', (identity_eq same).1⟩

theorem hasKey_of_keeps {key : String} (h : keeps db db' = true) (has : HasKey db' key) :
    HasKey db key := by
  obtain ⟨id, request', found, rfl⟩ := has
  obtain ⟨request, old, same⟩ := old_of_keeps h found
  exact ⟨id, request, old, (identity_eq same).1.symm⟩

theorem absent_of_keeps {id : Uuid} (h : keeps db db' = true) (absent : db.ingests.get id = none) :
    db'.ingests.get id = none := by
  by_contra present
  obtain ⟨request', found⟩ := Option.ne_none_iff_exists'.mp present
  obtain ⟨request, old, -⟩ := old_of_keeps h found
  cases absent.symm.trans old

theorem created_ingests (db : Db) (id : Uuid) (request : Ingest) :
    (created db id request).ingests = db.ingests.set id request :=
  (insertFirstJob_enqueues _ _ _).ingests

theorem created_job {id : Uuid} {request : Ingest} (once : request.forceSave = false) :
    ((created db id request).jobs.get (initialJob id request)).isSome := by
  obtain ⟨job, present⟩ := insertFirstJob_present (setIngest db id request) id request
  rw [once] at present
  exact Option.isSome_iff_exists.mpr ⟨job, present⟩

theorem created_kept {id : Uuid} (request : Ingest) (absent : db.ingests.get id = none) :
    Kept db (created db id request) where
  row := by
    intro other old found
    have ne : other ≠ id := by
      intro same
      rw [same, absent] at found
      cases found
    exact ⟨old, by rw [created_ingests, Table.get_set_ne _ _ ne]; exact found, rfl⟩
  job := by
    intro other old _ present
    obtain ⟨job, found⟩ := Option.isSome_iff_exists.mp present
    have kept := (insertFirstJob_enqueues (setIngest db id request) id request).rows.kept found
    exact Option.isSome_iff_exists.mpr ⟨job, kept⟩

theorem created_hasKey {key : String} {id : Uuid} {request : Ingest}
    (has : HasKey (created db id request) key) : HasKey db key ∨ request.inputKey = key := by
  obtain ⟨other, row, found, rfl⟩ := has
  rw [created_ingests] at found
  rcases Table.get_set_cases found with ⟨-, rfl⟩ | ⟨-, old⟩
  · exact Or.inr rfl
  · exact Or.inl ⟨other, row, old, rfl⟩

end Rows

section Invariant
variable (libraries : Libraries)

/-- The errors of a call that found no row and may not insert one. -/
def CreateError.isAdmission : CreateError → Bool
  | .inputEnvelope _ => true
  | .inbox .requestedPublishAtNotFuture => true
  | .inbox .requestedChannelNotConfigured => true
  | .inbox .requestedChannelAmbiguous => true
  | _ => false

/-- What is known of a call between its statements. -/
structure CallState (db : Db) (record : Call) : Prop where
  known : record.known = true → record.phase = .lookup ∧ HasKey db record.submission.inputKey
  drawn : ∀ id request, record.phase.drawn = some (id, request) → db.ingests.get id = none ∧
    request.inputKey = record.submission.inputKey ∧
    request.requestHash = record.submission.requestHash libraries ∧ request.forceSave = false
  free : ∀ id request, record.phase = .commit id request → ¬ HasKey db record.submission.inputKey

/-- Each outcome has its reason in the rows. -/
structure Explained (db : Db) (e : Entry) : Prop where
  answered : ∀ result, e.outcome = .ok result →
    (∃ request, db.ingests.get result.id = some request ∧
      request.inputKey = e.submission.inputKey ∧
      request.requestHash = e.submission.requestHash libraries ∧
      (result.created = true → (db.jobs.get (initialJob result.id request)).isSome)) ∧
    (e.known = true → result.created = false)
  refused : ∀ error, e.outcome = .error error → error = .database ∨
    (error = .inbox (.idempotencyConflict e.submission.inputKey) ∧ ∃ id request,
      db.ingests.get id = some request ∧ request.inputKey = e.submission.inputKey ∧
      request.requestHash ≠ e.submission.requestHash libraries) ∨
    (error.isAdmission = true ∧ e.known = false)

def Entry.created (e : Entry) : Bool :=
  match e.outcome with
  | .ok result => result.created
  | .error _ => false

def Entry.createdFor (key : String) (e : Entry) : Bool :=
  e.created && e.submission.inputKey == key

/-- Two calls drew different identifiers and do not insert the same key. -/
structure Apart (record record' : Call) : Prop where
  drawn : ∀ one two, record.phase.drawn = some one → record'.phase.drawn = some two → one.1 ≠ two.1
  key : ∀ id request id' request', record.phase = .commit id request →
    record'.phase = .commit id' request' → record.submission.inputKey ≠ record'.submission.inputKey

theorem Apart.symm {record record' : Call} (apart : Apart record record') :
    Apart record' record where
  drawn := fun one two here there same => apart.drawn two one there here same.symm
  key := fun _ _ _ _ here there same => apart.key _ _ _ _ there here same.symm

structure Consistent (w : World) : Prop where
  keys : ∀ id id' request request', w.db.ingests.get id = some request →
    w.db.ingests.get id' = some request' → request.inputKey = request'.inputKey → id = id'
  calls : ∀ call record, w.calls.get call = some record → CallState libraries w.db record
  apart : w.calls.PairwiseRows Apart
  explained : ∀ e ∈ w.log, Explained libraries w.db e
  once : ∀ key, (w.log.filter (Entry.createdFor key)).length ≤ 1

/-- No call is under way and none has returned; every key has one row. -/
structure Start (w : World) : Prop where
  idle : w.calls = ∅
  silent : w.log = []
  keys : ∀ id id' request request', w.db.ingests.get id = some request →
    w.db.ingests.get id' = some request' → request.inputKey = request'.inputKey → id = id'

variable {libraries} {w w' : World} {db db' : Db}

theorem consistent_start (start : Start w) : Consistent libraries w where
  keys := start.keys
  calls := by
    intro call record found
    rw [start.idle] at found
    cases found
  apart := by
    intro call call' record record' _ found
    rw [start.idle] at found
    cases found
  explained := by
    rw [start.silent]
    exact fun _ member => absurd member List.not_mem_nil
  once := by
    rw [start.silent]
    exact fun _ => Nat.zero_le 1

theorem Explained.kept {e : Entry} (kept : Kept db db') (explained : Explained libraries db e) :
    Explained libraries db' e where
  answered := by
    intro result answer
    obtain ⟨⟨request, found, key, hash, job⟩, known⟩ := explained.answered result answer
    obtain ⟨request', found', same⟩ := kept.row _ _ found
    obtain ⟨sameKey, sameHash, -⟩ := identity_eq same
    refine ⟨⟨request', found', sameKey.trans key, sameHash.trans hash, ?_⟩, known⟩
    intro created
    rw [initialJob_eq _ same]
    exact kept.job _ _ found (job created)
  refused := by
    intro error refusal
    rcases explained.refused error refusal with failed | ⟨conflict, id, request, found, key, other⟩ |
      early
    · exact Or.inl failed
    · obtain ⟨request', found', same⟩ := kept.row _ _ found
      obtain ⟨sameKey, sameHash, -⟩ := identity_eq same
      exact Or.inr (Or.inl ⟨conflict, id, request', found', sameKey.trans key,
        fun equal => other (sameHash.symm.trans equal)⟩)
    · exact Or.inr (Or.inr early)

theorem consistent_other (consistent : Consistent libraries w) (h : keeps w.db db = true) :
    Consistent libraries { w with db := db } where
  keys := by
    intro id id' request request' found found' same
    obtain ⟨old, was, identity⟩ := old_of_keeps h found
    obtain ⟨old', was', identity'⟩ := old_of_keeps h found'
    exact consistent.keys id id' old old' was was'
      ((identity_eq identity).1.symm.trans (same.trans (identity_eq identity').1))
  calls := by
    intro call record found
    have state := consistent.calls call record found
    exact {
      known := fun known => ⟨(state.known known).1, (kept_of_keeps h).hasKey (state.known known).2⟩
      drawn := fun id request drawn =>
        ⟨absent_of_keeps h (state.drawn id request drawn).1, (state.drawn id request drawn).2⟩
      free := fun id request commit has => state.free id request commit (hasKey_of_keeps h has) }
  apart := consistent.apart
  explained := fun e member => (consistent.explained e member).kept (kept_of_keeps h)
  once := consistent.once

/-- A call goes on to a phase that suits the rows and the other calls. -/
theorem consistent_set {call : Nat} {record : Call} (consistent : Consistent libraries w)
    (state : CallState libraries w.db record)
    (apart : ∀ other record', other ≠ call → w.calls.get other = some record' →
      Apart record record') :
    Consistent libraries { w with calls := w.calls.set call record } where
  keys := consistent.keys
  calls := by
    intro other record' found
    rcases Table.get_set_cases found with ⟨-, rfl⟩ | ⟨-, old⟩
    · exact state
    · exact consistent.calls other record' old
  apart := consistent.apart.set (fun _ _ => Apart.symm) apart
  explained := consistent.explained
  once := consistent.once

/-- A phase that drew nothing is apart from every other. -/
theorem apart_of_undrawn {record record' : Call} (undrawn : record.phase.drawn = none) :
    Apart record record' where
  drawn := by
    intro one two here
    rw [undrawn] at here
    cases here
  key := by
    intro id request id' request' here
    rw [here] at undrawn
    cases undrawn

theorem callState_of_undrawn {record : Call} (undrawn : record.phase.drawn = none)
    (known : record.known = true → record.phase = .lookup ∧ HasKey db record.submission.inputKey) :
    CallState libraries db record where
  known := known
  drawn := by
    intro id request here
    rw [undrawn] at here
    cases here
  free := by
    intro id request here
    rw [here] at undrawn
    cases undrawn

theorem filter_createdFor_cons {e : Entry} {log : List Entry} {key : String}
    (other : e.createdFor key = false) :
    (e :: log).filter (Entry.createdFor key) = log.filter (Entry.createdFor key) :=
  List.filter_cons_of_neg (by simp [other])

/-- A call returns without having created a row. -/
theorem consistent_finish {call : Nat} {record : Call}
    {outcome : Except CreateError CreateIngestResult} (consistent : Consistent libraries w)
    (explained : Explained libraries w.db ⟨record.submission, record.known, outcome⟩)
    (unmade : Entry.created ⟨record.submission, record.known, outcome⟩ = false) :
    Consistent libraries (w.finish call record outcome) where
  keys := consistent.keys
  calls := by
    intro other record' found
    simp only [World.finish, Table.get_remove] at found
    split at found
    · cases found
    · exact consistent.calls other record' found
  apart := consistent.apart.remove call
  explained := by
    intro e member
    rcases List.mem_cons.mp member with rfl | old
    · exact explained
    · exact consistent.explained e old
  once := by
    intro key
    rw [World.finish, filter_createdFor_cons (by rw [Entry.createdFor, unmade]; rfl)]
    exact consistent.once key

theorem explained_failure (db : Db) (record : Call) :
    Explained libraries db ⟨record.submission, record.known, .error .database⟩ where
  answered := by
    intro result answer
    cases answer
  refused := by
    intro error refusal
    cases refusal
    exact Or.inl rfl

/-- The answer taken from a row that has the key. -/
theorem explained_replay {record : Call} {id : Uuid} {existing : Ingest}
    (found : findByInputKey db record.submission.inputKey = some (id, existing)) :
    Explained libraries db
      ⟨record.submission, record.known, replay libraries record.submission id existing⟩ ∧
    Entry.created
      ⟨record.submission, record.known, replay libraries record.submission id existing⟩ = false := by
  obtain ⟨row, key⟩ := findByInputKey_some found
  unfold replay
  split
  · rename_i same
    constructor
    · constructor
      · intro result answer
        cases answer
        exact ⟨⟨existing, row, key, same, fun made => absurd made Bool.false_ne_true⟩, fun _ => rfl⟩
      · intro error refusal
        cases refusal
    · rfl
  · rename_i other
    constructor
    · constructor
      · intro result answer
        cases answer
      · intro error refusal
        cases refusal
        exact Or.inr (Or.inl ⟨rfl, id, existing, row, key, other⟩)
    · rfl

theorem admission_ok {now : Time} {submission : Submission.IngestSubmission} {id : Uuid}
    {request : Ingest} (h : admission libraries db now submission id = .ok request) :
    request.inputKey = submission.inputKey ∧
      request.requestHash = submission.requestHash libraries ∧ request.forceSave = false := by
  simp only [admission, bind_ok, mapError_ok, pure_ok] at h
  obtain ⟨kept, stored, -, -, channelId, -, rfl⟩ := h
  obtain ⟨key, hash, -⟩ := Submission.stored_ok libraries stored
  exact ⟨key, hash, rfl⟩

theorem requestedChannel_error {action : RequestedAction} {error : Error}
    (h : requestedChannel db action = .error error) :
    (CreateError.inbox error).isAdmission = true := by
  unfold requestedChannel at h
  split at h
  · cases h
  · split at h
    · cases h
      rfl
    · cases h
    · cases h
      rfl

theorem admission_error {now : Time} {submission : Submission.IngestSubmission} {id : Uuid}
    {error : CreateError} (h : admission libraries db now submission id = .error error) :
    error.isAdmission = true := by
  simp only [admission, bind_error, mapError_error, require_error] at h
  rcases h with ⟨unread, -, rfl⟩ | ⟨kept, -, ⟨-, rfl⟩ | ⟨-, -, ⟨channel, refused, rfl⟩ | ⟨_, -, done⟩⟩⟩
  · rfl
  · rfl
  · exact requestedChannel_error refused
  · cases done

theorem explained_refusal {record : Call} {error : CreateError} (admission : error.isAdmission = true)
    (late : record.known = false) :
    Explained libraries db ⟨record.submission, record.known, .error error⟩ where
  answered := by
    intro result answer
    cases answer
  refused := by
    intro error' refusal
    cases refusal
    exact Or.inr (Or.inr ⟨admission, late⟩)

theorem commitStep_ingests (w : World) (call : Nat) (record : Call) (id : Uuid) (request : Ingest) :
    (commitStep w call record id request).db.ingests = w.db.ingests.set id request :=
  created_ingests w.db id request

/-- The creation that commits is the first for its key. -/
theorem consistent_commit {call : Nat} {record : Call} {id : Uuid} {request : Ingest}
    (consistent : Consistent libraries w) (found : w.calls.get call = some record)
    (commit : record.phase = .commit id request) :
    Consistent libraries (commitStep w call record id request) := by
  have state := consistent.calls call record found
  have drawn : record.phase.drawn = some (id, request) := by rw [commit]; rfl
  obtain ⟨absent, key, hash, once⟩ := state.drawn id request drawn
  have free := state.free id request commit
  have kept : Kept w.db (commitStep w call record id request).db := created_kept request absent
  have early : record.known = false := by
    by_contra known
    have lookup := (state.known (Bool.eq_true_of_not_eq_false known)).1
    rw [commit] at lookup
    cases lookup
  have alone : ∀ other old, w.db.ingests.get other = some old → old.inputKey ≠ request.inputKey :=
    fun other old row same => free ⟨other, old, row, same.trans key⟩
  constructor
  · intro one two request₁ request₂ found₁ found₂ same
    rw [commitStep_ingests] at found₁ found₂
    rcases Table.get_set_cases found₁ with ⟨rfl, rfl⟩ | ⟨-, old₁⟩
    · rcases Table.get_set_cases found₂ with ⟨rfl, -⟩ | ⟨-, old₂⟩
      · rfl
      · exact absurd same.symm (alone two request₂ old₂)
    · rcases Table.get_set_cases found₂ with ⟨rfl, rfl⟩ | ⟨-, old₂⟩
      · exact absurd same (alone one request₁ old₁)
      · exact consistent.keys one two request₁ request₂ old₁ old₂ same
  · intro other record' found'
    have ne : other ≠ call := by
      rintro rfl
      have gone : (w.calls.remove other).get other = none := Table.get_remove_self _ _
      cases gone.symm.trans found'
    have there : w.calls.get other = some record' :=
      (Table.get_remove_ne w.calls ne).symm.trans found'
    have state' := consistent.calls other record' there
    have apart := consistent.apart call other record record' ne.symm found there
    constructor
    · exact fun known => ⟨(state'.known known).1, kept.hasKey (state'.known known).2⟩
    · intro id' request' drawn'
      have different := apart.drawn _ _ drawn drawn'
      obtain ⟨absent', rest⟩ := state'.drawn id' request' drawn'
      rw [commitStep_ingests, Table.get_set_ne _ _ (Ne.symm different)]
      exact ⟨absent', rest⟩
    · intro id' request' commit' has
      rcases created_hasKey has with old | new
      · exact state'.free id' request' commit' old
      · exact apart.key id request id' request' commit commit' (key.symm.trans new)
  · exact consistent.apart.remove call
  · intro e member
    rcases List.mem_cons.mp member with rfl | old
    · constructor
      · intro result answer
        cases answer
        refine ⟨⟨request, ?_, key, hash, fun _ => created_job once⟩, ?_⟩
        · rw [commitStep_ingests]
          exact Table.get_set_self _ _ _
        · intro known
          exact absurd (early.symm.trans known) Bool.false_ne_true
      · intro error refusal
        cases refusal
    · exact (consistent.explained e old).kept kept
  · intro key'
    by_cases same : record.submission.inputKey = key'
    · have none_before : w.log.filter (Entry.createdFor key') = [] := by
        apply List.filter_eq_nil_iff.mpr
        intro e member made
        simp only [Entry.createdFor, Entry.created, Bool.and_eq_true, beq_iff_eq] at made
        obtain ⟨answer, sameKey⟩ := made
        split at answer
        · rename_i result outcome
          obtain ⟨⟨row, there, rowKey, -⟩, -⟩ :=
            (consistent.explained e member).answered result outcome
          exact free ⟨_, row, there, rowKey.trans (sameKey.trans same.symm)⟩
        · cases answer
      have whole := List.length_filter_le (Entry.createdFor key')
        [⟨record.submission, record.known, .ok ⟨id, request, true⟩⟩]
      calc ((commitStep w call record id request).log.filter (Entry.createdFor key')).length
          = ([⟨record.submission, record.known, .ok ⟨id, request, true⟩⟩].filter
              (Entry.createdFor key') ++ w.log.filter (Entry.createdFor key')).length := by
            rw [← List.filter_append]
            rfl
        _ ≤ 1 := by rw [none_before, List.append_nil]; exact whole
    · have other : Entry.createdFor key'
          ⟨record.submission, record.known, .ok ⟨id, request, true⟩⟩ = false := by
        simp [Entry.createdFor, same]
      exact (congrArg List.length (filter_createdFor_cons other)).trans_le (consistent.once key')

theorem not_inserting {key : String} (free : ¬ w.inserting key = true) {call : Nat} {record : Call}
    (found : w.calls.get call = some record) {id : Uuid} {request : Ingest}
    (commit : record.phase = .commit id request) : record.submission.inputKey ≠ key := by
  intro same
  apply free
  refine List.any_eq_true.mpr ⟨(call, record), (Table.mem_rows_iff _ _ _).mpr found, ?_⟩
  simp [commit, same]

theorem unused_spec {id : Uuid} (unused : w.unused id = true) : w.db.ingests.get id = none ∧
    ∀ call record, w.calls.get call = some record → ∀ drawn, record.phase.drawn = some drawn →
      drawn.1 ≠ id := by
  simp only [World.unused, Bool.and_eq_true, Option.isNone_iff_eq_none, List.all_eq_true] at unused
  refine ⟨unused.1, ?_⟩
  intro call record found drawn here same
  have other := unused.2 (call, record) ((Table.mem_rows_iff _ _ _).mpr found)
  rw [here] at other
  simp [same] at other

/-- A phase other than the lookup is reached only where the key had no row. -/
theorem late_of_phase {record : Call} (state : CallState libraries db record)
    (phase : record.phase ≠ .lookup) : record.known = false := by
  by_contra known
  exact phase (state.known (Bool.eq_true_of_not_eq_false known)).1

theorem known_of_late {record : Call} (late : record.known = false) (phase : Phase) :
    record.known = true → phase = .lookup ∧ HasKey db record.submission.inputKey := by
  intro known
  rw [late] at known
  cases known

theorem consistent_lookup {call : Nat} {record : Call} (consistent : Consistent libraries w)
    (found : w.calls.get call = some record) :
    Consistent libraries (lookupStep libraries w call record) := by
  have state := consistent.calls call record found
  unfold lookupStep
  split
  · rename_i id existing row
    obtain ⟨explained, unmade⟩ := explained_replay row
    exact consistent_finish consistent explained unmade
  · rename_i none
    have late : record.known = false := by
      by_contra known
      exact findByInputKey_none none (state.known (Bool.eq_true_of_not_eq_false known)).2
    exact consistent_set consistent (callState_of_undrawn rfl (known_of_late late .admission))
      (fun _ _ _ _ => apart_of_undrawn rfl)

theorem consistent_admit {call : Nat} {record : Call} {id : Uuid}
    (consistent : Consistent libraries w) (found : w.calls.get call = some record)
    (phase : record.phase = .admission) (unused : w.unused id = true) :
    Consistent libraries (admitStep libraries w call record id) := by
  have late := late_of_phase (consistent.calls call record found) (by rw [phase]; nofun)
  obtain ⟨absent, others⟩ := unused_spec unused
  unfold admitStep
  split
  · rename_i request admitted
    apply consistent_set consistent
    · constructor
      · exact known_of_late late _
      · intro id' request' drawn
        cases drawn
        exact ⟨absent, admission_ok admitted⟩
      · intro id' request' commit
        cases commit
    · intro other record' _ found'
      constructor
      · intro one two here there
        cases here
        exact Ne.symm (others other record' found' two there)
      · intro id' request' id'' request'' here
        cases here
  · rename_i error refused
    exact consistent_finish consistent (explained_refusal (admission_error refused) late) rfl

theorem consistent_insert {call : Nat} {record : Call} {id : Uuid} {request : Ingest}
    (consistent : Consistent libraries w) (found : w.calls.get call = some record)
    (phase : record.phase = .insert id request)
    (free : ¬ w.inserting record.submission.inputKey = true) :
    Consistent libraries (insertStep w call record id request) := by
  have state := consistent.calls call record found
  have late := late_of_phase state (by rw [phase]; nofun)
  have drawn : record.phase.drawn = some (id, request) := by rw [phase]; rfl
  unfold insertStep
  split
  · exact consistent_set consistent (callState_of_undrawn rfl (known_of_late late .reread))
      (fun _ _ _ _ => apart_of_undrawn rfl)
  · rename_i none
    apply consistent_set consistent
    · constructor
      · exact known_of_late late _
      · intro id' request' here
        cases here
        exact state.drawn id request drawn
      · exact fun _ _ _ => findByInputKey_none none
    · intro other record' ne found'
      have apart := consistent.apart call other record record' ne.symm found found'
      constructor
      · intro one two here there
        cases here
        exact apart.drawn _ two drawn there
      · intro id' request' id'' request'' _ there
        exact Ne.symm (not_inserting free found' there)

theorem consistent_reread {call : Nat} {record : Call} (consistent : Consistent libraries w) :
    Consistent libraries (rereadStep libraries w call record) := by
  unfold rereadStep
  split
  · rename_i id existing row
    obtain ⟨explained, unmade⟩ := explained_replay row
    exact consistent_finish consistent explained unmade
  · exact consistent_finish consistent (explained_failure w.db record) rfl

theorem consistent_begin {call : Nat} {submission : Submission.IngestSubmission} {now : Time}
    (consistent : Consistent libraries w) (h : beginStep w call submission now = some w') :
    Consistent libraries w' := by
  simp only [beginStep, Option.ite_none_left_eq_some, Option.some.injEq] at h
  obtain ⟨-, rfl⟩ := h
  apply consistent_set consistent
  · apply callState_of_undrawn rfl
    intro known
    obtain ⟨⟨id, request⟩, row⟩ := Option.isSome_iff_exists.mp known
    obtain ⟨found, key⟩ := findByInputKey_some row
    exact ⟨rfl, id, request, found, key⟩
  · exact fun _ _ _ _ => apart_of_undrawn rfl

end Invariant

section Steps
variable {libraries : Libraries} {w w' : World}

/-- What a statement of a call does to the world. -/
theorem consistent_callStep {call : Nat} {record : Call} {action : Action}
    (consistent : Consistent libraries w) (found : w.calls.get call = some record)
    (h : callStep libraries w call record action = some w') : Consistent libraries w' := by
  cases action with
  | lookup _ =>
    simp only [callStep, Option.ite_none_right_eq_some, Option.some.injEq] at h
    obtain ⟨-, rfl⟩ := h
    exact consistent_lookup consistent found
  | admission _ id =>
    simp only [callStep, Option.ite_none_right_eq_some, Option.some.injEq] at h
    obtain ⟨⟨phase, unused⟩, rfl⟩ := h
    exact consistent_admit consistent found phase unused
  | insert _ =>
    simp only [callStep] at h
    split at h
    · rename_i id request phase
      simp only [Option.ite_none_left_eq_some, Option.some.injEq] at h
      obtain ⟨free, rfl⟩ := h
      exact consistent_insert consistent found phase free
    · cases h
  | reread _ =>
    simp only [callStep, Option.ite_none_right_eq_some, Option.some.injEq] at h
    obtain ⟨-, rfl⟩ := h
    exact consistent_reread consistent
  | commit _ =>
    simp only [callStep] at h
    split at h
    · rename_i id request phase
      cases h
      exact consistent_commit consistent found phase
    · cases h
  | fail _ =>
    cases h
    exact consistent_finish consistent (explained_failure w.db record) rfl
  | other _ => cases h
  | begin _ _ _ => cases h

theorem consistent_step {action : Action} (consistent : Consistent libraries w)
    (h : step libraries w action = some w') : Consistent libraries w' := by
  have forCall : ∀ call action, (w.calls.get call).bind
      (fun record => callStep libraries w call record action) = some w' →
      Consistent libraries w' := by
    intro call action h
    obtain ⟨record, found, h⟩ := Option.bind_eq_some_iff.mp h
    exact consistent_callStep consistent found h
  cases action with
  | other db =>
    simp only [step, Option.ite_none_right_eq_some, Option.some.injEq] at h
    obtain ⟨kept, rfl⟩ := h
    exact consistent_other consistent kept
  | begin call submission now => exact consistent_begin consistent h
  | lookup call => exact forCall call _ h
  | admission call id => exact forCall call _ h
  | insert call => exact forCall call _ h
  | reread call => exact forCall call _ h
  | commit call => exact forCall call _ h
  | fail call => exact forCall call _ h

theorem consistent_run {start : World} {acts : List Action} (begins : Start start)
    (run : Run (step libraries) Unrestricted start acts w) : Consistent libraries w :=
  run_invariant (Consistent libraries) (fun consistent _ h => consistent_step consistent h)
    (consistent_start begins) run

/-- A creation committed its row and its job, and returned them. -/
structure Committed (w w' : World) (e : Entry) (result : CreateIngestResult) : Prop where
  outcome : e.outcome = .ok result
  made : result.created = true
  log : w'.log = e :: w.log
  absent : w.db.ingests.get result.id = none
  db : w'.db = created w.db result.id result.ingest

theorem setPhase_db (w : World) (call : Nat) (record : Call) (phase : Phase) :
    (w.setPhase call record phase).db = w.db := rfl

theorem finish_db (w : World) (call : Nat) (record : Call)
    (outcome : Except CreateError CreateIngestResult) : (w.finish call record outcome).db = w.db :=
  rfl

/-- Only the commit of a creation writes. -/
theorem callStep_db {call : Nat} {record : Call} {action : Action}
    (consistent : Consistent libraries w) (found : w.calls.get call = some record)
    (h : callStep libraries w call record action = some w') :
    w'.db = w.db ∨ ∃ e result, Committed w w' e result := by
  cases action with
  | lookup _ =>
    simp only [callStep, Option.ite_none_right_eq_some, Option.some.injEq] at h
    obtain ⟨-, rfl⟩ := h
    left
    unfold lookupStep
    split
    · exact finish_db _ _ _ _
    · exact setPhase_db _ _ _ _
  | admission _ id =>
    simp only [callStep, Option.ite_none_right_eq_some, Option.some.injEq] at h
    obtain ⟨-, rfl⟩ := h
    left
    unfold admitStep
    split
    · exact setPhase_db _ _ _ _
    · exact finish_db _ _ _ _
  | insert _ =>
    simp only [callStep] at h
    split at h
    · simp only [Option.ite_none_left_eq_some, Option.some.injEq] at h
      obtain ⟨-, rfl⟩ := h
      left
      unfold insertStep
      split <;> exact setPhase_db _ _ _ _
    · cases h
  | reread _ =>
    simp only [callStep, Option.ite_none_right_eq_some, Option.some.injEq] at h
    obtain ⟨-, rfl⟩ := h
    left
    unfold rereadStep
    split <;> exact finish_db _ _ _ _
  | commit _ =>
    simp only [callStep] at h
    split at h
    · rename_i id request phase
      cases h
      have drawn : record.phase.drawn = some (id, request) := by rw [phase]; rfl
      have absent := ((consistent.calls call record found).drawn id request drawn).1
      exact Or.inr ⟨_, ⟨id, request, true⟩, rfl, rfl, rfl, absent, rfl⟩
    · cases h
  | fail _ =>
    cases h
    exact Or.inl (finish_db _ _ _ _)
  | other _ => cases h
  | begin _ _ _ => cases h

theorem step_db {action : Action} (consistent : Consistent libraries w)
    (h : step libraries w action = some w') :
    (∃ db, action = .other db) ∨ w'.db = w.db ∨ ∃ e result, Committed w w' e result := by
  have forCall : ∀ call action, (w.calls.get call).bind
      (fun record => callStep libraries w call record action) = some w' →
      w'.db = w.db ∨ ∃ e result, Committed w w' e result := by
    intro call action h
    obtain ⟨record, found, h⟩ := Option.bind_eq_some_iff.mp h
    exact callStep_db consistent found h
  cases action with
  | other db => exact Or.inl ⟨db, rfl⟩
  | begin call submission now =>
    simp only [step, beginStep, Option.ite_none_left_eq_some, Option.some.injEq] at h
    obtain ⟨-, rfl⟩ := h
    exact Or.inr (Or.inl rfl)
  | lookup call => exact Or.inr (forCall call _ h)
  | admission call id => exact Or.inr (forCall call _ h)
  | insert call => exact Or.inr (forCall call _ h)
  | reread call => exact Or.inr (forCall call _ h)
  | commit call => exact Or.inr (forCall call _ h)
  | fail call => exact Or.inr (forCall call _ h)

end Steps

section ExactlyOnce
variable (libraries : Libraries)

/-- The one ingest of a key. -/
def IsIngestOf (db : Db) (key hash : String) (id : Uuid) : Prop :=
  (∃ request, db.ingests.get id = some request ∧ request.inputKey = key ∧
    request.requestHash = hash) ∧
  ∀ other request, db.ingests.get other = some request → request.inputKey = key → other = id

/-- The call was turned away because the key belongs to another request. -/
def Entry.Conflicted (e : Entry) : Prop :=
  e.outcome = .error (.inbox (.idempotencyConflict e.submission.inputKey))

structure ExactlyOnce (w : World) : Prop where
  /-- Every ingest returned is the one of its key. -/
  one : ∀ e ∈ w.log, ∀ result, e.outcome = .ok result →
    IsIngestOf w.db e.submission.inputKey (e.submission.requestHash libraries) result.id
  /-- At most one call of a key reports that it created the ingest. -/
  created : ∀ key, (w.log.filter (Entry.createdFor key)).length ≤ 1
  /-- The first job of a created ingest is there. -/
  job : ∀ e ∈ w.log, ∀ result, e.outcome = .ok result → result.created = true →
    ∃ request, w.db.ingests.get result.id = some request ∧
      (w.db.jobs.get (initialJob result.id request)).isSome
  /-- A key that had a row is answered with it or refused, whatever the clock
      and the channels have become. -/
  replayed : ∀ e ∈ w.log, e.known = true → e.outcome ≠ .error .database →
    (∃ result, e.outcome = .ok result ∧ result.created = false) ∨ e.Conflicted
  /-- Another request under a key that has a row is a conflict; one that came
      before the row may have been turned away for itself. -/
  conflicting : ∀ e ∈ w.log, ∀ id request, w.db.ingests.get id = some request →
    request.inputKey = e.submission.inputKey →
    request.requestHash ≠ e.submission.requestHash libraries → e.outcome ≠ .error .database →
    e.Conflicted ∨ (e.known = false ∧ ∃ error, e.outcome = .error error ∧ error.isAdmission = true)
  /-- A conflict is not reported to the request the row belongs to. -/
  conflicted : ∀ e ∈ w.log, e.Conflicted → ∃ id request, w.db.ingests.get id = some request ∧
    request.inputKey = e.submission.inputKey ∧
    request.requestHash ≠ e.submission.requestHash libraries

variable {libraries} {w : World}

theorem Consistent.one (consistent : Consistent libraries w) {e : Entry} (member : e ∈ w.log)
    {result : CreateIngestResult} (answer : e.outcome = .ok result) :
    IsIngestOf w.db e.submission.inputKey (e.submission.requestHash libraries) result.id := by
  obtain ⟨⟨request, found, key, hash, -⟩, -⟩ := (consistent.explained e member).answered result answer
  refine ⟨⟨request, found, key, hash⟩, ?_⟩
  intro other request' found' key'
  exact consistent.keys other result.id request' request found' found (key'.trans key.symm)

theorem exactlyOnce_of_consistent (consistent : Consistent libraries w) :
    ExactlyOnce libraries w where
  one := fun e member result answer => consistent.one member answer
  created := consistent.once
  job := by
    intro e member result answer made
    obtain ⟨⟨request, found, -, -, job⟩, -⟩ :=
      (consistent.explained e member).answered result answer
    exact ⟨request, found, job made⟩
  replayed := by
    intro e member known reached
    have explained := consistent.explained e member
    cases outcome : e.outcome with
    | ok result => exact Or.inl ⟨result, rfl, (explained.answered result outcome).2 known⟩
    | error error =>
      rcases explained.refused error outcome with rfl | ⟨rfl, -⟩ | ⟨-, late⟩
      · exact absurd outcome reached
      · exact Or.inr outcome
      · exact absurd (late.symm.trans known) Bool.false_ne_true
  conflicting := by
    intro e member id request found key other reached
    have explained := consistent.explained e member
    cases outcome : e.outcome with
    | ok result =>
      obtain ⟨⟨row, there, hash⟩, only⟩ := consistent.one member outcome
      cases only id request found key
      cases found.symm.trans there
      exact absurd hash.2 other
    | error error =>
      rcases explained.refused error outcome with rfl | ⟨rfl, -⟩ | ⟨admission, late⟩
      · exact absurd outcome reached
      · exact Or.inl outcome
      · exact Or.inr ⟨late, error, rfl, admission⟩
  conflicted := by
    intro e member conflict
    rcases (consistent.explained e member).refused _ conflict with failed | ⟨-, row⟩ | ⟨never, -⟩
    · cases failed
    · exact row
    · cases never

/-- Two calls answered under one key got the same ingest for the same hash. -/
theorem same_ingest (once : ExactlyOnce libraries w) {e e' : Entry} (member : e ∈ w.log)
    (member' : e' ∈ w.log) {result result' : CreateIngestResult} (answer : e.outcome = .ok result)
    (answer' : e'.outcome = .ok result')
    (key : e.submission.inputKey = e'.submission.inputKey) : result.id = result'.id ∧
      e.submission.requestHash libraries = e'.submission.requestHash libraries := by
  obtain ⟨⟨request, found, here, hash⟩, -⟩ := once.one e member result answer
  obtain ⟨⟨request', found', -, hash'⟩, only'⟩ := once.one e' member' result' answer'
  have same := only' result.id request found (here.trans key)
  rw [same, found'] at found
  cases found
  exact ⟨same, hash.symm.trans hash'⟩

end ExactlyOnce

end Sooqa.Inbox.Creation
