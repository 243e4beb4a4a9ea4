import Sooqa.Inbox.Workspaces

/-!
The operator's decision on a pending duplicate. What decides it stays readable
from the row: an accepted duplicate keeps its marker and its media through
every result of its storage, a forced save keeps its flag. So each later call
is answered from the row alone, whatever state the ingest has reached.
-/
namespace Sooqa.Inbox
open Foundation Queue Worker
open Library (SameRequest Linked)

section Answers
variable {db db' : Db} {id mediaId : Uuid} {row : Ingest}

/-- The row of an accepted duplicate. -/
structure AcceptedRow (mediaId : Uuid) (row : Ingest) : Prop where
  decision : row.data.duplicateDecision = some mediaId
  media : row.mediaId = some mediaId
  unforced : row.forceSave = false

theorem acceptDuplicate_replays (found : db.ingests.get id = some row)
    (accepted : AcceptedRow mediaId row) :
    acceptDuplicate db id mediaId = .ok (db, ⟨row, true⟩) := by
  simp [acceptDuplicate, loadRequest, expect, found, accepted.decision, accepted.media,
    accepted.unforced, require, bind, Except.bind, pure, Except.pure]

theorem acceptDuplicate_loses (found : db.ingests.get id = some row)
    (accepted : AcceptedRow mediaId row) {other : Uuid} (ne : other ≠ mediaId) :
    acceptDuplicate db id other = .error (.duplicateDecisionNotAllowed row.status) := by
  have differs : ¬ (row.forceSave = false ∧ row.mediaId = some mediaId ∧ mediaId = other) :=
    fun all => ne all.2.2.symm
  simp only [acceptDuplicate, loadRequest, expect, found, accepted.decision, require,
    if_neg differs, bind, Except.bind]

/-- A forced save leaves no duplicate to accept. -/
theorem acceptDuplicate_too_late (found : db.ingests.get id = some row)
    (forced : row.forceSave = true) (ended : row.status ≠ .duplicatePending) :
    acceptDuplicate db id mediaId = .error (.duplicateDecisionNotAllowed row.status) := by
  cases decision : row.data.duplicateDecision with
  | some accepted =>
    have differs : ¬ (row.forceSave = false ∧ row.mediaId = some accepted ∧ accepted = mediaId) :=
      fun all => Bool.noConfusion (forced.symm.trans all.1)
    simp only [acceptDuplicate, loadRequest, expect, found, decision, require, if_neg differs,
      bind, Except.bind]
  | none =>
    simp only [acceptDuplicate, loadRequest, expect, found, decision, decideDuplicate, require,
      if_neg ended, bind, Except.bind]

theorem forceSave_loses (found : db.ingests.get id = some row) (unforced : row.forceSave = false)
    (ended : row.status ≠ .duplicatePending) :
    forceSave db id = .error (.forceSaveNotAllowed row.status) := by
  simp [forceSave, loadRequest, expect, found, ended, unforced, require, bind, Except.bind]

/-- A repeated forced save is answered from the row or refused; it writes
    nothing. -/
theorem forceSave_replays (found : db.ingests.get id = some row) (forced : row.forceSave = true)
    (ended : row.status ≠ .duplicatePending) :
    forceSave db id = .ok (db, ⟨row, false⟩) ∨
      forceSave db id = .error (.forceSaveNotAllowed row.status) := by
  cases underWay : forceSaveUnderWay row.status with
  | true =>
    left
    simp [forceSave, loadRequest, expect, found, ended, forced, underWay, require, bind, Except.bind,
      pure, Except.pure]
  | false =>
    right
    simp [forceSave, loadRequest, expect, found, ended, underWay, require, bind, Except.bind]

end Answers

section Effects
variable {db db' : Db} {id mediaId : Uuid}

/-- An accept that takes effect leaves its marker. -/
theorem acceptDuplicate_decides {result : AcceptDuplicateResult}
    (h : acceptDuplicate db id mediaId = .ok (db', result)) (decides : result.replayed = false) :
    ∃ request, db.ingests.get id = some request ∧ request.status = .duplicatePending ∧
      db'.ingests.get id = some result.ingest ∧ SameRequest request result.ingest ∧
      result.ingest.data.duplicateDecision = some mediaId ∧
      result.ingest.mediaId = some mediaId := by
  simp only [acceptDuplicate, bind_ok] at h
  obtain ⟨request, found, h⟩ := h
  split at h
  · simp only [bind_ok, pure_ok, Prod.mk.injEq] at h
    obtain ⟨-, -, -, rfl⟩ := h
    cases decides
  · simp only [bind_ok, pure_ok, Prod.mk.injEq] at h
    obtain ⟨⟨decided, accepted⟩, decision, rfl, rfl⟩ := h
    have effect := decideDuplicate_ok (loadRequest_ok found) decision
    refine ⟨request, loadRequest_ok found, effect.pending, effect.write.here, effect.same, ?_⟩
    simp only [decideDuplicate, bind_ok, pure_ok, Prod.mk.injEq] at decision
    obtain ⟨-, -, _, -, -, -, _, -, -, -, row, built, -, rfl⟩ := decision
    simp only [acceptedIngest, bind_ok] at built
    obtain ⟨storing, moved, built⟩ := built
    obtain rfl := transitionTo_ok moved
    split at built
    · simp only [bind_ok, pure_ok] at built
      obtain ⟨completed, again, rfl⟩ := built
      obtain rfl := transitionTo_ok again
      exact ⟨rfl, rfl⟩
    · simp only [pure_ok] at built
      subst built
      exact ⟨rfl, rfl⟩

/-- A forced save that takes effect leaves its flag. -/
theorem forceSave_decides {result : ForceSaveResult} (h : forceSave db id = .ok (db', result))
    (decides : result.resumed = true) :
    db'.ingests.get id = some result.ingest ∧ result.ingest.forceSave = true := by
  simp only [forceSave, bind_ok] at h
  obtain ⟨request, found, h⟩ := h
  split at h
  · simp only [bind_ok, pure_ok, Prod.mk.injEq] at h
    obtain ⟨resumed, moved, rfl, rfl⟩ := h
    refine ⟨?_, by rw [transitionTo_ok moved]; rfl⟩
    rw [(insertFirstJob_enqueues _ _ _).ingests]
    exact Table.get_set_self _ _ _
  · simp only [bind_ok, pure_ok, Prod.mk.injEq] at h
    obtain ⟨-, -, -, rfl⟩ := h
    cases decides

/-- What keeps an accepted duplicate as it is, in one step. -/
theorem AcceptedRow.kept {request row : Ingest} (accepted : AcceptedRow mediaId request)
    (same : SameRequest request row) (media : row.mediaId = request.mediaId)
    (data : row.data = request.data) : AcceptedRow mediaId row :=
  ⟨data ▸ accepted.decision, media.trans accepted.media, same.forceSave.trans accepted.unforced⟩

end Effects

section Runs
variable {calendar : Publisher.Calendar} {w w' : World} {id mediaId : Uuid}

/-- An accepted duplicate stays one, in the workspace it had. -/
theorem accepted_kept (inv : Pipeline w) {acts : List Action}
    (run : Run (step calendar) Unrestricted w acts w') {request : Ingest}
    (found : w.db.ingests.get id = some request) (accepted : AcceptedRow mediaId request) :
    ∃ row, w'.db.ingests.get id = some row ∧ AcceptedRow mediaId row ∧
      row.workspaceId = request.workspaceId := by
  induction run generalizing request with
  | nil s => exact ⟨request, found, accepted, rfl⟩
  | cons ok first tail ih =>
    obtain ⟨moves, -⟩ := step_moves inv first
    have linked : request.mediaId.isSome = true := by rw [accepted.media]; rfl
    obtain ⟨row, here, same, media, data⟩ :=
      (moves.views id).keeps_linked (inv.flow id request found) found linked
    obtain ⟨last, there, kept, workspace⟩ :=
      ih (inv.step first) here (accepted.kept same media data)
    exact ⟨last, there, kept, workspace.trans same.workspaceId⟩

/-- A forced save stays one, in the workspace it drew. -/
theorem forced_kept (inv : Pipeline w) {acts : List Action}
    (run : Run (step calendar) Unrestricted w acts w') {request : Ingest}
    (found : w.db.ingests.get id = some request) (forced : request.forceSave = true) :
    ∃ row, w'.db.ingests.get id = some row ∧ row.forceSave = true ∧
      row.workspaceId = request.workspaceId := by
  induction run generalizing request with
  | nil s => exact ⟨request, found, forced, rfl⟩
  | cons ok first tail ih =>
    obtain ⟨moves, -⟩ := step_moves inv first
    obtain ⟨row, here, earlier⟩ := moves.later inv found
    have stays := earlier.forced forced
    obtain ⟨last, there, kept, workspace⟩ := ih (inv.step first) here stays
    exact ⟨last, there, kept, workspace.trans (earlier.workspaceId (stays.trans forced.symm))⟩

theorem Pipeline.after (inv : Pipeline w) {acts : List Action}
    (run : Run (Inbox.step calendar) Unrestricted w acts w') : Pipeline w' :=
  run_invariant Pipeline (fun inv _ h => inv.step h) inv run

/-- At most one decision on a pending duplicate takes effect. After an accept
    that did, in every later state the same accept is answered as a replay, and
    every other accept and every forced save is refused. After a forced save
    that did, every accept is refused and a repeated forced save writes
    nothing. The decision, the flag and the workspace stay what it made them. -/
theorem duplicate_decision_is_exclusive {acts later : List Action} {act : Action} {v : World}
    (before : Run (step calendar) Unrestricted initial acts w)
    (one : step calendar w act = some v) (after : Run (step calendar) Unrestricted v later w') :
    (∀ result, act = .acceptDuplicate id mediaId →
      acceptDuplicate w.db id mediaId = .ok (v.db, result) → result.replayed = false →
      ∃ row, w'.db.ingests.get id = some row ∧ row.data.duplicateDecision = some mediaId ∧
        row.mediaId = some mediaId ∧ row.forceSave = false ∧
        row.workspaceId = result.ingest.workspaceId ∧
        acceptDuplicate w'.db id mediaId = .ok (w'.db, ⟨row, true⟩) ∧
        (∀ other, other ≠ mediaId →
          acceptDuplicate w'.db id other = .error (.duplicateDecisionNotAllowed row.status)) ∧
        forceSave w'.db id = .error (.forceSaveNotAllowed row.status)) ∧
    (∀ result, act = .forceSave id → forceSave w.db id = .ok (v.db, result) →
      result.resumed = true →
      ∃ row, w'.db.ingests.get id = some row ∧ row.forceSave = true ∧
        row.workspaceId = result.ingest.workspaceId ∧
        (∀ other, acceptDuplicate w'.db id other =
          .error (.duplicateDecisionNotAllowed row.status)) ∧
        (forceSave w'.db id = .ok (w'.db, ⟨row, false⟩) ∨
          forceSave w'.db id = .error (.forceSaveNotAllowed row.status))) := by
  have inv := Pipeline.run before
  have next := inv.step one
  have last := next.after after
  refine ⟨?_, ?_⟩
  · intro result _ decides fresh
    obtain ⟨request, found, pending, here, same, decision, media⟩ :=
      acceptDuplicate_decides decides fresh
    have unforced : result.ingest.forceSave = false :=
      same.forceSave.trans ((inv.flow id request found).pending pending)
    obtain ⟨row, there, accepted, workspace⟩ :=
      accepted_kept next after here ⟨decision, media, unforced⟩
    have ended : row.status ≠ .duplicatePending := by
      intro pending
      have unlinked := (last.flow id row there).pending_unlinked pending
      rw [accepted.media] at unlinked
      cases unlinked
    exact ⟨row, there, accepted.decision, accepted.media, accepted.unforced, workspace,
      acceptDuplicate_replays there accepted,
      fun other ne => acceptDuplicate_loses there accepted ne,
      forceSave_loses there accepted.unforced ended⟩
  · intro result _ decides fresh
    obtain ⟨here, forced⟩ := forceSave_decides decides fresh
    obtain ⟨row, there, stays, workspace⟩ := forced_kept next after here forced
    have ended : row.status ≠ .duplicatePending := by
      intro pending
      have unforced := (last.flow id row there).pending pending
      rw [stays] at unforced
      cases unforced
    exact ⟨row, there, stays, workspace, fun other => acceptDuplicate_too_late there stays ended,
      forceSave_replays there stays ended⟩

/-- A pending duplicate accepted and then uploaded: the accept is still
    answered as a replay. -/
theorem duplicate_decision_after_accept :
    ∃ w v result, exec (step Publisher.sampleCalendar) initial
        (.setMedia 7 Publisher.sampleMedia :: sampleDuplicate) = some w ∧
      step Publisher.sampleCalendar w (.acceptDuplicate 0 7) = some v ∧
      acceptDuplicate w.db 0 7 = .ok (v.db, result) ∧ result.replayed = false ∧
      ∃ row, v.db.ingests.get 0 = some row ∧
        forceSave v.db 0 = .error (.forceSaveNotAllowed row.status) := by
  obtain ⟨w, reached⟩ : ∃ w, exec (step Publisher.sampleCalendar) initial
      (.setMedia 7 Publisher.sampleMedia :: sampleDuplicate) = some w := ⟨_, rfl⟩
  obtain ⟨v, result, one, decides, fresh⟩ : ∃ v result,
      step Publisher.sampleCalendar w (.acceptDuplicate 0 7) = some v ∧
      acceptDuplicate w.db 0 7 = .ok (v.db, result) ∧ result.replayed = false := by
    cases reached
    exact ⟨_, _, rfl, rfl, rfl⟩
  obtain ⟨row, there, -, -, -, -, -, -, refused⟩ :=
    (duplicate_decision_is_exclusive (run_of_exec reached) one (.nil v)).1 result rfl decides fresh
  exact ⟨w, v, result, reached, one, decides, fresh, row, there, refused⟩

end Runs

end Sooqa.Inbox
