import Mathlib.Data.List.Sort
import Sooqa.Foundation.Text
import Sooqa.Foundation.Transition
import Sooqa.Inbox.Effects

/-!
The failure summary of the dashboard and its acknowledgement. A summary is one
statement over one snapshot. An acknowledgement takes its snapshot first, then
the row locks one after another, each row looked at again as it is by then,
and writes under those locks. Between these steps everything else commits.
-/
namespace Sooqa.Inbox.Failures
open Foundation Queue

/-- What the statements use of the database server: the texts of an identifier
    and of a time in seconds, and the digest. -/
structure Rendering where
  uuidText : Uuid → String
  epochText : Time → String
  md5 : String → String

section Revision

/-- `COALESCE(completed_at, updated_at)`. -/
def failureAt (request : Ingest) : Time := request.completedAt.getD request.updatedAt

def orderById (failures : List (Uuid × Time)) : List (Uuid × Time) :=
  failures.insertionSort (fun a b => a.1 ≤ b.1)

variable (rendering : Rendering)

def failureLine (failure : Uuid × Time) : String :=
  rendering.uuidText failure.1 ++ ":" ++ rendering.epochText failure.2

def revisionText (failures : List (Uuid × Time)) : String :=
  "\n".intercalate ((orderById failures).map (failureLine rendering))

def revision (failures : List (Uuid × Time)) : String :=
  rendering.md5 (revisionText rendering failures)

/-- The texts are those of distinct values and free of the separators; no two
    revision texts share a digest. -/
structure Rendering.Faithful (rendering : Rendering) : Prop where
  uuid : Function.Injective rendering.uuidText
  uuidPlain : ∀ id, ':' ∉ (rendering.uuidText id).toList ∧ '\n' ∉ (rendering.uuidText id).toList
  epoch : Function.Injective rendering.epochText
  epochPlain : ∀ time, '\n' ∉ (rendering.epochText time).toList
  md5 : ∀ failures failures', revision rendering failures = revision rendering failures' →
    revisionText rendering failures = revisionText rendering failures'

end Revision

section World

/-- An acknowledgement under way: the argument, the rows of its snapshot still
    to lock, and the failures kept under their locks. -/
structure Session where
  expectedRevision : String
  waiting : List Uuid
  locked : List (Uuid × Time)
  deriving DecidableEq, Repr

/-- The committed rows with the column `acknowledged_failure_at` beside them,
    which no other statement writes. The log is ours: every failure that was
    ever acknowledged. -/
structure World where
  db : Db
  acknowledged : Table Uuid Time
  sessions : Table Nat Session
  log : List (Uuid × Time)

structure IngestFailureSummary where
  count : Nat
  revision : String
  deriving DecidableEq, Repr

namespace World

def pending (w : World) (id : Uuid) (request : Ingest) : Bool :=
  request.status == .failedTerminal && w.acknowledged.get id != some (failureAt request)

def failures (w : World) : List (Uuid × Time) :=
  ((Table.rows w.db.ingests).filter (fun row => w.pending row.1 row.2)).map
    (fun row => (row.1, failureAt row.2))

def ingestFailureSummary (rendering : Rendering) (w : World) : IngestFailureSummary :=
  ⟨w.failures.length, Failures.revision rendering w.failures⟩

def lockedBy (w : World) (session : Nat) (id : Uuid) : Bool :=
  (w.sessions.get session).any (fun record => record.locked.any (fun failure => failure.1 == id))

def lockedByOther (w : World) (session : Nat) (id : Uuid) : Bool :=
  (Table.rows w.sessions).any (fun row =>
    row.1 != session && row.2.locked.any (fun failure => failure.1 == id))

/-- No transaction writes a row that an acknowledgement has locked. -/
def respectsLocks (w : World) (db : Db) : Bool :=
  (Table.rows w.sessions).all (fun row =>
    row.2.locked.all (fun failure => db.ingests.get failure.1 == w.db.ingests.get failure.1))

end World

inductive Action where
  | commit (db : Db)
  | acknowledge (session : Nat) (expectedRevision : String)
  | lock (session : Nat)
  | finish (session : Nat)
  | abort (session : Nat)

section Acknowledge

def snapshotIds (w : World) : List Uuid := (orderById w.failures).map (·.1)

def startSession (w : World) (session : Nat) (expectedRevision : String) : Option World :=
  if (w.sessions.get session).isSome then none
  else some { w with sessions := w.sessions.set session ⟨expectedRevision, snapshotIds w, []⟩ }

/-- The condition is evaluated again on the row as locked; a row that meets it
    no longer is left out. -/
def relock (w : World) (record : Session) (id : Uuid) (rest : List Uuid) : Session :=
  match (w.db.ingests.get id).filter (w.pending id) with
  | some request =>
    { record with waiting := rest, locked := record.locked ++ [(id, failureAt request)] }
  | none => { record with waiting := rest }

def lockNext (w : World) (session : Nat) : Option World := do
  let record ← w.sessions.get session
  match record.waiting with
  | [] => none
  | id :: rest =>
    if w.lockedByOther session id then none
    else some { w with sessions := w.sessions.set session (relock w record id rest) }

/-- `snapshot.count = 0 OR snapshot.revision = $1`. -/
def Session.matches (rendering : Rendering) (record : Session) : Bool :=
  record.locked.isEmpty || revision rendering record.locked == record.expectedRevision

def setAcknowledged (acknowledged : Table Uuid Time) (failures : List (Uuid × Time)) :
    Table Uuid Time :=
  failures.foldl (fun table failure => table.set failure.1 failure.2) acknowledged

def finishSession (rendering : Rendering) (w : World) (session : Nat) : Option (World × Bool) := do
  let record ← w.sessions.get session
  if record.waiting ≠ [] then none
  else
    let closed := { w with sessions := w.sessions.remove session }
    if record.matches rendering then
      some ({ closed with
        acknowledged := setAcknowledged w.acknowledged record.locked
        log := w.log ++ record.locked }, true)
    else some (closed, false)

end Acknowledge

def step (rendering : Rendering) (w : World) : Action → Option World
  | .commit db => if w.respectsLocks db then some { w with db := db } else none
  | .acknowledge session expectedRevision => startSession w session expectedRevision
  | .lock session => lockNext w session
  | .finish session => (finishSession rendering w session).map (·.1)
  | .abort session => some { w with sessions := w.sessions.remove session }

/-- No acknowledgement is under way, and the log knows those of the past. -/
structure Start (w : World) : Prop where
  idle : w.sessions = ∅
  logged : ∀ id time, w.acknowledged.get id = some time → (id, time) ∈ w.log

end World

section Readable
variable {rendering : Rendering}

theorem orderById_perm (failures : List (Uuid × Time)) :
    (orderById failures).Perm failures :=
  List.perm_insertionSort _ failures

theorem failureLine_toList (failure : Uuid × Time) :
    (failureLine rendering failure).toList =
      (rendering.uuidText failure.1).toList ++ ':' :: (rendering.epochText failure.2).toList := by
  rw [failureLine, String.toList_append, String.toList_append, List.append_assoc]
  rfl

/-- A line tells which ingest failed, and when. -/
theorem failureLine_injective (faithful : rendering.Faithful) :
    Function.Injective (failureLine rendering) := by
  intro failure failure' same
  have texts : (rendering.uuidText failure.1).toList ++ ':' :: (rendering.epochText failure.2).toList =
      (rendering.uuidText failure'.1).toList ++ ':' :: (rendering.epochText failure'.2).toList := by
    rw [← failureLine_toList, ← failureLine_toList, same]
  obtain ⟨ids, times⟩ := field_injective (faithful.uuidPlain failure.1).1
    (faithful.uuidPlain failure'.1).1 texts
  exact Prod.ext (faithful.uuid (String.toList_inj.mp ids))
    (faithful.epoch (String.toList_inj.mp times))

theorem failureLine_plain (faithful : rendering.Faithful) (failure : Uuid × Time) :
    '\n' ∉ (failureLine rendering failure).toList ∧ (failureLine rendering failure).toList ≠ [] := by
  rw [failureLine_toList]
  constructor
  · intro member
    rcases List.mem_append.mp member with inId | later
    · exact (faithful.uuidPlain failure.1).2 inId
    · rcases List.mem_cons.mp later with colon | inTime
      · exact absurd colon (by decide)
      · exact faithful.epochPlain failure.2 inTime
  · intro empty
    exact absurd (List.append_eq_nil_iff.mp empty).2 (List.cons_ne_nil _ _)

/-- A revision determines the failures it was computed from. -/
theorem revision_injective (faithful : rendering.Faithful) {failures failures' : List (Uuid × Time)}
    (same : revision rendering failures = revision rendering failures') :
    failures.Perm failures' := by
  have texts := congrArg String.toList (faithful.md5 failures failures' same)
  rw [revisionText, revisionText, String.toList_intercalate, String.toList_intercalate] at texts
  have plain : ∀ failures : List (Uuid × Time),
      ∀ line ∈ ((orderById failures).map (failureLine rendering)).map String.toList,
        '\n' ∉ line ∧ line ≠ [] := by
    intro failures line member
    obtain ⟨text, inTexts, rfl⟩ := List.mem_map.mp member
    obtain ⟨failure, -, rfl⟩ := List.mem_map.mp inTexts
    exact failureLine_plain faithful failure
  have lines := lines_injective (plain failures) (plain failures') texts
  have characters : Function.Injective String.toList := fun _ _ h => String.toList_inj.mp h
  have ordered := List.map_injective_iff.mpr (failureLine_injective faithful)
    (List.map_injective_iff.mpr characters lines)
  exact (ordered ▸ (orderById_perm failures).symm).trans (orderById_perm failures')

end Readable

section Acknowledged

theorem get_setAcknowledged_of_not_mem {id : Uuid} {failures : List (Uuid × Time)}
    (acknowledged : Table Uuid Time) (absent : ∀ time, (id, time) ∉ failures) :
    (setAcknowledged acknowledged failures).get id = acknowledged.get id := by
  induction failures generalizing acknowledged with
  | nil => rfl
  | cons failure rest ih =>
    have other : id ≠ failure.1 := fun same =>
      absent failure.2 (by rw [same]; exact List.mem_cons_self)
    have later := ih (acknowledged.set failure.1 failure.2)
      (fun time member => absent time (List.mem_cons_of_mem _ member))
    exact later.trans (Table.get_set_ne acknowledged failure.2 other)

theorem get_setAcknowledged_of_mem {id : Uuid} {time : Time} {failures : List (Uuid × Time)}
    (acknowledged : Table Uuid Time) (only : ∀ other, (id, other) ∈ failures → other = time)
    (member : (id, time) ∈ failures) :
    (setAcknowledged acknowledged failures).get id = some time := by
  induction failures generalizing acknowledged with
  | nil => cases member
  | cons failure rest ih =>
    by_cases later : (id, time) ∈ rest
    · exact ih _ (fun other h => only other (List.mem_cons_of_mem _ h)) later
    · have here : failure = (id, time) := by
        rcases List.mem_cons.mp member with first | inRest
        · exact first.symm
        · exact absurd inRest later
      have absent : ∀ other, (id, other) ∉ rest := by
        intro other h
        exact later (only other (List.mem_cons_of_mem _ h) ▸ h)
      have kept := get_setAcknowledged_of_not_mem
        (acknowledged.set failure.1 failure.2) absent
      rw [here] at kept
      rw [here]
      exact kept.trans (Table.get_set_self acknowledged id time)

end Acknowledged

section Invariant
variable {rendering : Rendering} {w w' : World}

theorem mem_failures {id : Uuid} {time : Time} : (id, time) ∈ w.failures ↔
    ∃ request, w.db.ingests.get id = some request ∧ request.status = .failedTerminal ∧
      failureAt request = time ∧ w.acknowledged.get id ≠ some time := by
  simp only [World.failures, List.mem_map, List.mem_filter, World.pending, Bool.and_eq_true,
    beq_iff_eq, bne_iff_ne, Prod.exists, Prod.mk.injEq, Table.mem_rows_iff]
  constructor
  · rintro ⟨key, request, ⟨found, failed, fresh⟩, rfl, rfl⟩
    exact ⟨request, found, failed, rfl, fresh⟩
  · rintro ⟨request, found, failed, rfl, fresh⟩
    exact ⟨id, request, ⟨found, failed, fresh⟩, rfl, rfl⟩

/-- An ingest has one failure at most. -/
theorem failures_unique {id : Uuid} {time time' : Time} (one : (id, time) ∈ w.failures)
    (two : (id, time') ∈ w.failures) : time' = time := by
  obtain ⟨request, found, -, rfl, -⟩ := mem_failures.mp one
  obtain ⟨request', found', -, rfl, -⟩ := mem_failures.mp two
  cases found.symm.trans found'
  rfl

theorem mem_failures_of_same {failure : Uuid × Time}
    (row : w'.db.ingests.get failure.1 = w.db.ingests.get failure.1)
    (mark : w'.acknowledged.get failure.1 = w.acknowledged.get failure.1)
    (member : failure ∈ w.failures) : failure ∈ w'.failures := by
  obtain ⟨request, found, failed, time, fresh⟩ := mem_failures.mp member
  exact mem_failures.mpr ⟨request, row.trans found, failed, time, by rw [mark]; exact fresh⟩

def Separate (record record' : Session) : Prop :=
  ∀ failure ∈ record.locked, ∀ failure' ∈ record'.locked, failure.1 ≠ failure'.1

theorem Separate.symm {record record' : Session} (separate : Separate record record') :
    Separate record' record := fun failure member failure' member' same =>
  separate failure' member' failure member same.symm

/-- What an acknowledgement holds locked is a pending failure still, and no
    other one holds it; the log is complete. -/
structure Held (w : World) : Prop where
  current : ∀ session record, w.sessions.get session = some record →
    ∀ failure ∈ record.locked, failure ∈ w.failures
  separate : w.sessions.PairwiseRows Separate
  logged : ∀ id time, w.acknowledged.get id = some time → (id, time) ∈ w.log

theorem held_start (start : Start w) : Held w where
  current := by
    intro session record found
    rw [start.idle] at found
    cases found
  separate := by
    intro session session' record record' _ found
    rw [start.idle] at found
    cases found
  logged := start.logged

theorem held_commit {db : Db} (held : Held w) (respects : w.respectsLocks db = true) :
    Held { w with db := db } where
  current := by
    intro session record found failure member
    have kept := List.all_eq_true.mp (List.all_eq_true.mp respects (session, record)
      ((Table.mem_rows_iff _ _ _).mpr found)) failure member
    exact mem_failures_of_same (beq_iff_eq.mp kept) rfl (held.current session record found failure member)
  separate := held.separate
  logged := held.logged

/-- A session that starts or goes on holding only what passes both tests. -/
theorem held_set {session : Nat} {record : Session} (held : Held w)
    (current : ∀ failure ∈ record.locked, failure ∈ w.failures)
    (alone : ∀ other record', other ≠ session → w.sessions.get other = some record' →
      Separate record record') :
    Held { w with sessions := w.sessions.set session record } where
  current := by
    intro other record' found
    rcases Table.get_set_cases found with ⟨-, rfl⟩ | ⟨-, old⟩
    · exact current
    · exact held.current other record' old
  separate := held.separate.set (fun _ _ => Separate.symm) alone
  logged := held.logged

theorem held_remove (session : Nat) (held : Held w) :
    Held { w with sessions := w.sessions.remove session } where
  current := by
    intro other record found
    simp only [Table.get_remove] at found
    split at found
    · cases found
    · exact held.current other record found
  separate := held.separate.remove session
  logged := held.logged

/-- The re-evaluated row joins the locked ones as the failure it is now. -/
theorem relock_locked {record : Session} {id : Uuid} {rest : List Uuid} {failure : Uuid × Time}
    (member : failure ∈ (relock w record id rest).locked) :
    failure ∈ record.locked ∨ (failure.1 = id ∧ failure ∈ w.failures) := by
  unfold relock at member
  cases row : (w.db.ingests.get id).filter (w.pending id) with
  | none =>
    rw [row] at member
    exact Or.inl member
  | some request =>
    rw [row] at member
    rcases List.mem_append.mp member with old | new
    · exact Or.inl old
    · obtain ⟨found, pending⟩ := Option.filter_eq_some_iff.mp row
      simp only [World.pending, Bool.and_eq_true, beq_iff_eq, bne_iff_ne] at pending
      rw [List.mem_singleton.mp new]
      exact Or.inr ⟨rfl, mem_failures.mpr ⟨request, found, pending.1, rfl, pending.2⟩⟩

theorem not_lockedByOther {session other : Nat} {id : Uuid} {record : Session}
    (free : ¬ w.lockedByOther session id = true) (ne : other ≠ session)
    (found : w.sessions.get other = some record) : ∀ failure ∈ record.locked, failure.1 ≠ id := by
  intro failure member same
  refine free (List.any_eq_true.mpr ⟨(other, record), (Table.mem_rows_iff _ _ _).mpr found, ?_⟩)
  rw [Bool.and_eq_true]
  exact ⟨bne_iff_ne.mpr ne, List.any_eq_true.mpr ⟨failure, member, beq_iff_eq.mpr same⟩⟩

theorem lockNext_ok {session : Nat} (h : lockNext w session = some w') :
    ∃ record id rest, w.sessions.get session = some record ∧
      ¬ w.lockedByOther session id = true ∧
      w' = { w with sessions := w.sessions.set session (relock w record id rest) } := by
  simp only [lockNext, Option.bind_eq_bind, Option.bind_eq_some_iff] at h
  obtain ⟨record, found, h⟩ := h
  split at h
  · cases h
  · rename_i id rest _
    split at h
    · cases h
    · rename_i free
      cases h
      exact ⟨record, id, rest, found, free, rfl⟩

theorem finishSession_ok {session : Nat} {answer : Bool}
    (h : finishSession rendering w session = some (w', answer)) :
    ∃ record, w.sessions.get session = some record ∧ record.matches rendering = answer ∧
      w' = { w with
        sessions := w.sessions.remove session
        acknowledged :=
          if answer then setAcknowledged w.acknowledged record.locked else w.acknowledged
        log := if answer then w.log ++ record.locked else w.log } := by
  simp only [finishSession, Option.bind_eq_bind, Option.bind_eq_some_iff] at h
  obtain ⟨record, found, h⟩ := h
  split at h
  · cases h
  · split at h
    · rename_i hit
      cases h
      exact ⟨record, found, hit, rfl⟩
    · rename_i miss
      cases h
      exact ⟨record, found, Bool.not_eq_true _ ▸ miss, rfl⟩

theorem finish_ok {session : Nat} (h : step rendering w (.finish session) = some w') :
    ∃ answer, finishSession rendering w session = some (w', answer) := by
  obtain ⟨⟨done, answer⟩, finished, rfl⟩ := Option.map_eq_some_iff.mp h
  exact ⟨answer, finished⟩

/-- Acknowledging what one session holds leaves what the others hold pending. -/
theorem held_acknowledged {session : Nat} {record : Session} (held : Held w)
    (found : w.sessions.get session = some record) :
    Held { w with
      sessions := w.sessions.remove session
      acknowledged := setAcknowledged w.acknowledged record.locked
      log := w.log ++ record.locked } where
  current := by
    intro other record' found' failure member
    have ne : other ≠ session := by
      intro same
      rw [same, Table.get_remove_self] at found'
      cases found'
    rw [Table.get_remove_ne _ ne] at found'
    have absent : ∀ time, (failure.1, time) ∉ record.locked := fun time inside =>
      held.separate session other record record' ne.symm found found' _ inside failure member rfl
    exact mem_failures_of_same (w := w) rfl (get_setAcknowledged_of_not_mem _ absent)
      (held.current other record' found' failure member)
  separate := (held_remove session held).separate
  logged := by
    intro id time marked
    by_cases inside : ∃ time', (id, time') ∈ record.locked
    · obtain ⟨time', member⟩ := inside
      have current := held.current session record found
      rw [get_setAcknowledged_of_mem _ (fun other h =>
        failures_unique (current _ member) (current _ h)) member] at marked
      cases marked
      exact List.mem_append_right _ member
    · rw [get_setAcknowledged_of_not_mem _ (not_exists.mp inside)] at marked
      exact List.mem_append_left _ (held.logged id time marked)

theorem held_step {action : Action} (held : Held w)
    (h : step rendering w action = some w') : Held w' := by
  cases action with
  | commit db =>
    simp only [step, Option.ite_none_right_eq_some, Option.some.injEq] at h
    obtain ⟨respects, rfl⟩ := h
    exact held_commit held respects
  | acknowledge session expectedRevision =>
    simp only [step, startSession, Option.ite_none_left_eq_some, Option.some.injEq] at h
    obtain ⟨-, rfl⟩ := h
    exact held_set held (fun _ member => absurd member List.not_mem_nil)
      (fun _ _ _ _ _ member => absurd member List.not_mem_nil)
  | lock session =>
    obtain ⟨record, id, rest, found, free, rfl⟩ := lockNext_ok h
    apply held_set held
    · intro failure member
      rcases relock_locked member with old | ⟨-, new⟩
      · exact held.current session record found failure old
      · exact new
    · intro other record' ne found' failure member failure' member' same
      rcases relock_locked member with old | ⟨new, -⟩
      · exact held.separate session other record record' ne.symm found found' _ old _ member' same
      · exact not_lockedByOther free ne found' failure' member' (same.symm.trans new)
  | finish session =>
    obtain ⟨answer, finished⟩ := finish_ok h
    obtain ⟨record, found, -, rfl⟩ := finishSession_ok finished
    cases answer with
    | true => exact held_acknowledged held found
    | false => exact held_remove session held
  | abort session =>
    cases h
    exact held_remove session held

theorem held_run {start : World} {acts : List Action} (begins : Start start)
    (run : Run (step rendering) Unrestricted start acts w) : Held w :=
  run_invariant Held (fun held _ h => held_step held h) (held_start begins) run

end Invariant

section Exactness
variable {rendering : Rendering} {w w' : World}

/-- Each of these failures was pending and is acknowledged with its time; no
    other ingest is touched. -/
structure AcknowledgedExactly (failures : List (Uuid × Time)) (w w' : World) : Prop where
  each : ∀ failure ∈ failures, failure ∈ w.failures ∧
    w'.acknowledged.get failure.1 = some failure.2
  others : ∀ id, (∀ time, (id, time) ∉ failures) →
    w'.acknowledged.get id = w.acknowledged.get id

/-- The locked failures are those of the summary when the revisions agree. -/
theorem finish_exact {session : Nat} {record : Session} {read : World}
    (faithful : rendering.Faithful) (held : Held w)
    (found : w.sessions.get session = some record)
    (expected : record.expectedRevision = (read.ingestFailureSummary rendering).revision)
    (h : step rendering w (.finish session) = some w') :
    w'.db = w.db ∧ (w'.acknowledged = w.acknowledged ∨ AcknowledgedExactly read.failures w w') := by
  obtain ⟨answer, finished⟩ := finish_ok h
  obtain ⟨record', found', matched, rfl⟩ := finishSession_ok finished
  cases found.symm.trans found'
  refine ⟨rfl, ?_⟩
  cases answer with
  | false => exact Or.inl rfl
  | true =>
    simp only [Session.matches, Bool.or_eq_true, List.isEmpty_iff, beq_iff_eq] at matched
    rcases matched with none | same
    · rw [none]
      exact Or.inl rfl
    · have perm := revision_injective faithful (same.trans expected)
      have current := held.current session record found
      refine Or.inr ⟨?_, ?_⟩
      · intro failure member
        have inside := perm.mem_iff.mpr member
        exact ⟨current failure inside, get_setAcknowledged_of_mem _
          (fun _ other => failures_unique (current _ inside) (current _ other)) inside⟩
      · intro id absent
        exact get_setAcknowledged_of_not_mem _ (fun time inside =>
          absent time (perm.mem_iff.mp inside))

theorem acknowledged_of_step {action : Action} (h : step rendering w action = some w') :
    w'.acknowledged = w.acknowledged ∨ ∃ session, action = .finish session := by
  cases action with
  | commit db =>
    simp only [step, Option.ite_none_right_eq_some, Option.some.injEq] at h
    obtain ⟨-, rfl⟩ := h
    exact Or.inl rfl
  | acknowledge session expectedRevision =>
    simp only [step, startSession, Option.ite_none_left_eq_some, Option.some.injEq] at h
    obtain ⟨-, rfl⟩ := h
    exact Or.inl rfl
  | lock session =>
    obtain ⟨record, id, rest, -, -, rfl⟩ := lockNext_ok h
    exact Or.inl rfl
  | finish session => exact Or.inr ⟨session, rfl⟩
  | abort session =>
    cases h
    exact Or.inl rfl

theorem failure_pending {id : Uuid} {request : Ingest} (held : Held w)
    (found : w.db.ingests.get id = some request) (failed : request.status = .failedTerminal)
    (new : (id, failureAt request) ∉ w.log) : (id, failureAt request) ∈ w.failures :=
  mem_failures.mpr ⟨request, found, failed, rfl, fun marked => new (held.logged _ _ marked)⟩

/-- A stage that fails for good stamps the ingest with the time of the failure. -/
theorem failIngestStep_failed {db db' : Db} {id : Uuid} {errorCode errorMessage : String}
    {guard : IngestFailureGuard} {answer : Ingest} (changed : db' ≠ db)
    (h : failIngestStep db id .failedTerminal errorCode errorMessage guard = .ok (db', answer)) :
    ∃ request, db'.ingests.get id = some request ∧ request.status = .failedTerminal ∧
      failureAt request = db.now := by
  simp only [failIngestStep, bind_ok, require_ok] at h
  obtain ⟨-, -, request, -, h⟩ := h
  split at h
  · cases h
    exact absurd rfl changed
  · simp only [bind_ok, pure_ok, Prod.mk.injEq] at h
    obtain ⟨moved, along, rfl, -⟩ := h
    have row := transitionTo_ok along
    subst row
    exact ⟨_, Table.get_set_self _ _ _, rfl, rfl⟩

theorem acknowledgement_is_exact (faithful : rendering.Faithful) {start : World}
    {acts : List Action} (begins : Start start)
    (run : Run (step rendering) Unrestricted start acts w) :
    (∀ (read : World) session record w', w.sessions.get session = some record →
      record.expectedRevision = (read.ingestFailureSummary rendering).revision →
      step rendering w (.finish session) = some w' →
      w'.db = w.db ∧
        (w'.acknowledged = w.acknowledged ∨ AcknowledgedExactly read.failures w w')) ∧
    (∀ action w', step rendering w action = some w' →
      w'.acknowledged = w.acknowledged ∨ ∃ session, action = .finish session) ∧
    (∀ id request, w.db.ingests.get id = some request → request.status = .failedTerminal →
      (id, failureAt request) ∉ w.log → (id, failureAt request) ∈ w.failures) ∧
    (∀ id errorCode errorMessage guard db' answer w',
      failIngestStep w.db id .failedTerminal errorCode errorMessage guard = .ok (db', answer) →
      db' ≠ w.db → step rendering w (.commit db') = some w' →
      (id, w.db.now) ∉ w.log → (id, w.db.now) ∈ w'.failures) := by
  have held := held_run begins run
  refine ⟨fun _ _ _ _ found expected h => finish_exact faithful held found expected h,
    fun _ _ h => acknowledged_of_step h, fun _ _ found failed new =>
      failure_pending held found failed new, ?_⟩
  intro id errorCode errorMessage guard db' answer w' failing changed h new
  obtain ⟨request, found, failed, time⟩ := failIngestStep_failed changed failing
  have after := held_step held h
  simp only [step, Option.ite_none_right_eq_some, Option.some.injEq] at h
  obtain ⟨-, rfl⟩ := h
  rw [← time] at new ⊢
  exact failure_pending after found failed new

/-- The server's text for the zero of the sample; elsewhere any distinct ones. -/
def sampleText (zero : String) : Nat → String
  | 0 => zero
  | n + 1 => String.ofList (List.replicate (n + 1) '1')

theorem sampleText_plain {zero : String} {c : Char} (free : c ∉ zero.toList) (other : c ≠ '1') :
    ∀ n, c ∉ (sampleText zero n).toList
  | 0 => free
  | n + 1 => fun member => other (by
      rw [sampleText, String.toList_ofList] at member
      exact (List.mem_replicate.mp member).2)

theorem sampleText_injective {zero : String} (mark : '0' ∈ zero.toList) :
    Function.Injective (sampleText zero) := by
  have apart : ∀ n, sampleText zero (n + 1) ≠ zero := by
    intro n same
    rw [← same, sampleText, String.toList_ofList] at mark
    exact absurd (List.mem_replicate.mp mark).2 (by decide)
  intro a b same
  cases a with
  | zero =>
    cases b with
    | zero => rfl
    | succ b => exact absurd same.symm (apart b)
  | succ a =>
    cases b with
    | zero => exact absurd same (apart a)
    | succ b => exact List.replicate_left_injective _ (String.ofList_injective same)

/-- The one failure of the sample: its text and the digest of that text. -/
def sampleLine : String := "00000000-0000-0000-0000-000000000000:0.000000"

def sampleRevision : String := "16b502c7b1d510865ad3142e584c72a1"

def sampleDigest (text : String) : String :=
  if text = sampleLine then sampleRevision else "-" ++ text

theorem sampleDigest_injective : Function.Injective sampleDigest := by
  have apart : ∀ text, "-" ++ text ≠ sampleRevision := by
    intro text same
    have first := congrArg List.head? (congrArg String.toList same)
    rw [String.toList_append] at first
    exact absurd first (by decide : some '-' ≠ sampleRevision.toList.head?)
  intro text text' same
  unfold sampleDigest at same
  split at same
  · rename_i line
    split at same
    · rename_i line'
      exact line.trans line'.symm
    · exact absurd same.symm (apart text')
  · split at same
    · exact absurd same (apart text)
    · exact String.append_right_inj "-" |>.mp same

def sampleRendering : Rendering :=
  ⟨sampleText "00000000-0000-0000-0000-000000000000", sampleText "0.000000", sampleDigest⟩

theorem sampleRendering_faithful : sampleRendering.Faithful where
  uuid := sampleText_injective (by decide)
  uuidPlain := fun id => ⟨sampleText_plain (by decide) (by decide) id,
    sampleText_plain (by decide) (by decide) id⟩
  epoch := sampleText_injective (by decide)
  epochPlain := sampleText_plain (by decide) (by decide)
  md5 := fun _ _ same => sampleDigest_injective same

def sampleFailed : Ingest :=
  { queuedIngest 0 0 ⟨.url, "https://example.com/cat.mp4", none, none, none, none, none, [], .save,
      none, none, none, "hash"⟩ with
    status := .failedTerminal
    completedAt := some 0 }

def sampleStart : World :=
  ⟨{ Db.empty with ingests := Table.set ∅ 0 sampleFailed }, ∅, ∅, []⟩

theorem sample_acknowledged : ∃ w w',
    Run (step sampleRendering) Unrestricted sampleStart
      [.acknowledge 0 (sampleStart.ingestFailureSummary sampleRendering).revision, .lock 0] w ∧
    step sampleRendering w (.finish 0) = some w' ∧
    AcknowledgedExactly [(0, 0)] w w' ∧ w'.failures = [] := by
  have digest : (sampleStart.ingestFailureSummary sampleRendering).revision = sampleRevision :=
    (by decide : revision sampleRendering [(0, 0)] = sampleRevision)
  have begins : Start sampleStart := ⟨rfl, nofun⟩
  obtain ⟨w, ran, found, acknowledged, db⟩ : ∃ w, exec (step sampleRendering) sampleStart
      [.acknowledge 0 sampleRevision, .lock 0] = some w ∧
      w.sessions.get 0 = some ⟨sampleRevision, [], [(0, 0)]⟩ ∧
      w.acknowledged = ∅ ∧ w.db = sampleStart.db := ⟨_, rfl, rfl, rfl, rfl⟩
  have run := run_of_exec ran
  have matched : Session.matches sampleRendering ⟨sampleRevision, [], [(0, 0)]⟩ = true := by decide
  have finished : step sampleRendering w (.finish 0) = some { w with
      sessions := w.sessions.remove 0
      acknowledged := setAcknowledged w.acknowledged [(0, 0)]
      log := w.log ++ [(0, 0)] } := by
    simp [step, finishSession, found, matched]
  refine ⟨w, _, digest ▸ run, finished, ?_, ?_⟩
  · rcases ((acknowledgement_is_exact sampleRendering_faithful begins run).1 sampleStart 0 _ _ found
      digest.symm finished).2 with unchanged | exactly
    · rw [acknowledged] at unchanged
      exact absurd (congrArg (Table.get · 0) unchanged)
        (by decide : (setAcknowledged ∅ [(0, 0)]).get 0 ≠ (∅ : Table Uuid Time).get 0)
    · exact exactly
  · simp only [World.failures, World.pending, db, acknowledged]
    rfl

end Exactness

end Sooqa.Inbox.Failures
