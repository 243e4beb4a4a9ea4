import Sooqa.Storage.Effects

/-!
Every way the storage columns of a media change, with the attempt, the operator
or the recovery that changes them.
-/
namespace Sooqa.Storage
open Foundation Queue Library Worker

/-- Why a row changed, reservations and their release apart. -/
inductive Cause (w : World) (act : Action) (m : Uuid) (c c' : StorageColumns) : Prop where
  | renewed (token : Uuid) (outcome : CallOutcome) (attempt : Attempt) (ownerToken : Uuid)
      (acts : act = .renew token outcome) (found : w.attempts.get token = some attempt)
      (owns : attempt.phase.owner = some ownerToken) (here : attempt.mediaId = m)
      (held : c.storageToken = some ownerToken) (moved : c' = c.owned ownerToken w.db.now)
  | stored (token : Uuid) (outcome : CallOutcome) (attempt : Attempt) (ownerToken : Uuid)
      (attachment : StorageUploadAttachment)
      (acts : act = .call token outcome ∨ act = .cancel token outcome)
      (found : w.attempts.get token = some attempt)
      (waits : attempt.phase = .completing ownerToken attachment) (here : attempt.mediaId = m)
      (held : c.storageToken = some ownerToken) (pending : c.storageState = .pending)
      (moved : c' = c.stored attachment)
  | marked (token : Uuid) (outcome : CallOutcome) (attempt : Attempt) (ownerToken : Uuid)
      (acts : act = .call token outcome) (found : w.attempts.get token = some attempt)
      (owns : attempt.phase.owner = some ownerToken) (here : attempt.mediaId = m)
      (held : c.storageToken = some ownerToken) (ends : Ends .unknown c c')
  | missed (token : Uuid) (outcome : CallOutcome) (attempt : Attempt) (error : StorageUploadError)
      (acts : act = .call token outcome) (found : w.attempts.get token = some attempt)
      (waits : attempt.phase = .failing error) (here : attempt.mediaId = m)
      (terminal : attempt.terminal error = true) (ends : Ends .missing c c')
  | settled (token : Uuid) (heartbeatLost : Bool) (outcome : CallOutcome)
      (acts : act = .finish token heartbeatLost outcome) (ends : Ends .unknown c c')
  | recovered (id : JobId) (expected : JobCommand) (acts : act = .recover id expected)
      (moved : c' = c.cleared .unknown)
  | declared (force : Bool) (acts : act = .markUnknown m force) (moved : c' = c.cleared .unknown)
  | attached (generation : Nat) (attachment : StorageUploadAttachment)
      (acts : act = .attach m generation attachment) (current : c.storageGeneration = generation)
      (unknown : c.storageState = .unknown) (moved : c' = c.stored attachment)
  | reset (acts : act = .reset m) (free : c.storageToken = none) (moved : c' = c.reopened)

/-- What a step does to the media: rows change for a cause, one is reserved or
    released by its owner, or one is inserted. -/
inductive Move (w : World) (act : Action) (db : Db) : Prop where
  | shifted (shifts : Shifts (Cause w act) w.db db)
  | reserved (token : Uuid) (outcome : CallOutcome) (attempt : Attempt) (row : Media)
      (acts : act = .call token outcome) (found : w.attempts.get token = some attempt)
      (waits : attempt.phase = .reserving) (there : w.db.media.get attempt.mediaId = some row)
      (pending : row.storageState = .pending) (current : row.storageGeneration = attempt.generation)
      (free : row.storageToken = none)
      (written : db = { setMedia w.db attempt.mediaId (reservedMedia w.db.now w.db.fresh row) with
        fresh := w.db.fresh + 1 })
  | released (token : Uuid) (outcome : CallOutcome) (attempt : Attempt) (ownerToken : Uuid)
      (error : StorageUploadError) (ignored : Bool) (row : Media) (acts : act = .call token outcome)
      (found : w.attempts.get token = some attempt)
      (waits : attempt.phase = .releasing ownerToken error ignored)
      (there : w.db.media.get attempt.mediaId = some row)
      (held : row.storageToken = some ownerToken)
      (written : db = setMedia w.db attempt.mediaId (clearedReservation w.db.now .pending row))
  | created (media : Media) (acts : act = .createMedia media)
      (columns : storageColumns media = .inserted)
      (written : db = { setMedia w.db w.db.fresh media with fresh := w.db.fresh + 1 })

section Advances
variable {db db' : Db}

/-- The generation is the same with its state and token, or closed; or a later
    one is open and free. -/
def Advances (c c' : StorageColumns) : Prop :=
  (c'.storageGeneration = c.storageGeneration ∧ c'.storageState = c.storageState ∧
    c'.storageToken = c.storageToken) ∨
  (c'.storageGeneration = c.storageGeneration ∧ c'.storageState ≠ .pending ∧
    c'.storageToken = none) ∨
  (c.storageGeneration < c'.storageGeneration ∧ c'.storageToken = none)

theorem Advances.refl (c : StorageColumns) : Advances c c := Or.inl ⟨rfl, rfl, rfl⟩

theorem advances_cleared {c : StorageColumns} {state : MediaStorageState}
    (closed : state ≠ .pending) : Advances c (c.cleared state) := Or.inr (Or.inl ⟨rfl, closed, rfl⟩)

theorem advances_stored (c : StorageColumns) (attachment : StorageUploadAttachment) :
    Advances c (c.stored attachment) :=
  Or.inr (Or.inl ⟨rfl, (by intro same; cases same), rfl⟩)

theorem Ends.advances {c c' : StorageColumns} {state : MediaStorageState} (h : Ends state c c')
    (closed : state ≠ .pending) : Advances c c' := by
  rw [h.2]
  exact advances_cleared closed

theorem Cause.advances {w : World} {act : Action} {m : Uuid} {c c' : StorageColumns}
    (h : Cause w act m c c') : Advances c c' := by
  cases h with
  | renewed _ _ _ _ _ _ _ _ held moved => exact Or.inl (by rw [moved, held]; exact ⟨rfl, rfl, rfl⟩)
  | stored _ _ _ _ attachment _ _ _ _ _ _ moved => exact moved ▸ advances_stored c attachment
  | marked _ _ _ _ _ _ _ _ _ ends => exact ends.advances (by decide)
  | missed _ _ _ _ _ _ _ _ _ ends => exact ends.advances (by decide)
  | settled _ _ _ _ ends => exact ends.advances (by decide)
  | recovered _ _ _ moved => exact moved ▸ advances_cleared (by decide)
  | declared _ _ moved => exact moved ▸ advances_cleared (by decide)
  | attached _ attachment _ _ _ moved => exact moved ▸ advances_stored c attachment
  | reset _ _ moved => exact Or.inr (Or.inr (by rw [moved]; exact ⟨Nat.lt_succ_self _, rfl⟩))

/-- A row that still shows a token afterwards has not moved. -/
theorem Advances.token {c c' : StorageColumns} {token : Uuid} (advances : Advances c c')
    (held : c'.storageToken = some token) :
    c'.storageGeneration = c.storageGeneration ∧ c'.storageState = c.storageState ∧
      c.storageToken = some token := by
  rcases advances with ⟨generation, state, same⟩ | ⟨-, -, none⟩ | ⟨-, none⟩
  · exact ⟨generation, state, same ▸ held⟩
  · rw [none] at held
    cases held
  · rw [none] at held
    cases held

theorem Advances.generation {c c' : StorageColumns} (advances : Advances c c') :
    c.storageGeneration ≤ c'.storageGeneration := by
  rcases advances with ⟨same, -⟩ | ⟨same, -⟩ | ⟨later, -⟩
  · exact le_of_eq same.symm
  · exact le_of_eq same.symm
  · exact le_of_lt later

/-- A row afterwards was there before. -/
theorem Shifts.back {m : Uuid} {c' : StorageColumns} (h : Shifts (fun _ => Advances) db db')
    (found : columnsOf db' m = some c') : ∃ c, columnsOf db m = some c ∧ Advances c c' := by
  rcases h.rows m with same | ⟨c, written, before, after, advances⟩
  · exact ⟨c', same ▸ found, .refl c'⟩
  · rw [after] at found
    cases found
    exact ⟨c, before, advances⟩

theorem Shifts.forth {m : Uuid} {c : StorageColumns} (h : Shifts (fun _ => Advances) db db')
    (found : columnsOf db m = some c) : ∃ c', columnsOf db' m = some c' ∧ Advances c c' := by
  rcases h.rows m with same | ⟨old, c', before, after, advances⟩
  · exact ⟨c, same ▸ found, .refl c⟩
  · rw [before] at found
    cases found
    exact ⟨c', after, advances⟩

theorem Shifts.advances {w : World} {act : Action} (h : Shifts (Cause w act) db db') :
    Shifts (fun _ => Advances) db db' := h.weaken (fun _ _ _ cause => cause.advances)

end Advances

section Steps
variable {w w' : World} {act : Action} {db : Db} {token : Uuid} {attempt : Attempt}

theorem Move.quiet (h : Shifts Still w.db db) : Move w act db :=
  .shifted (h.weaken (fun _ _ _ moved => moved.elim))

theorem Move.same (media : db.media = w.db.media) (fresh : w.db.fresh ≤ db.fresh)
    (uploads : KeepsUploads w.db.jobs db.jobs) : Move w act db :=
  .quiet (.of_media media fresh uploads)

theorem Move.refl (w : World) (act : Action) : Move w act w.db := .quiet (.refl _)

/-- A call leaves the database alone or commits its result. -/
theorem Move.conclude {ε α : Type} {outcome : CallOutcome} {lost : ε}
    {result : Except ε (Db × α)} {next : Except ε α → Phase} {phase : Phase}
    (h : outcome.conclude w.db lost result next = (db, phase))
    (write : ∀ db answer, result = .ok (db, answer) → Move w act db) : Move w act db := by
  rcases outcome.conclude_cases w.db lost result next with
    ⟨error, same⟩ | ⟨t, answer, ok, same | same⟩
  · rw [same] at h
    cases h
    exact .refl w act
  · rw [same] at h
    cases h
    exact write _ _ ok
  · rw [same] at h
    cases h
    exact write _ _ ok

theorem Move.committed {ε α : Type} {result : Except ε (Db × α)}
    (write : ∀ db answer, result = .ok (db, answer) → Move w act db) :
    Move w act (committed w.db result) := by
  rcases committed_cases w.db result with same | ⟨answer, ok⟩
  · rw [same]
    exact .refl w act
  · exact write _ answer ok

theorem completion_move {ownerToken : Uuid} {attachment : StorageUploadAttachment}
    {outcome : CallOutcome} (acts : act = .call token outcome ∨ act = .cancel token outcome)
    (found : w.attempts.get token = some attempt)
    (waits : attempt.phase = .completing ownerToken attachment) {receipt : Except Error StorageReceipt}
    (ok : completeStorageUpload w.db attempt.mediaId ownerToken attachment = .ok (db, receipt)) :
    Move w act db := by
  refine .shifted ((completeStorageUpload_shifts ok).weaken ?_)
  rintro m c c' ⟨rfl, held, pending, moved⟩
  exact .stored token outcome attempt ownerToken attachment acts found waits rfl held pending moved

theorem call_move (found : w.attempts.get token = some attempt) {outcome : CallOutcome}
    {phase : Phase} (h : attempt.call w.db outcome = some (db, phase)) :
    Move w (.call token outcome) db := by
  unfold Attempt.call at h
  split at h
  · cases h
    exact .refl _ _
  · cases h
    exact .refl _ _
  · rename_i waits
    refine .conclude (Option.some.inj h) (fun t answer ok => ?_)
    rcases reserveStorageUpload_ok ok with ⟨rfl, -⟩ | ⟨row, there, pending, current, free, written, -⟩
    · exact .refl _ _
    · exact .reserved token outcome attempt row rfl found waits there pending current free written
  · rename_i waits
    exact .conclude (Option.some.inj h) (fun _ _ ok => completion_move (Or.inl rfl) found waits ok)
  · rename_i ownerToken error ignored waits
    refine .conclude (Option.some.inj h) (fun t answer ok => ?_)
    rcases releaseStorageUpload_ok ok with rfl | ⟨row, there, held, written⟩
    · exact .refl _ _
    · exact .released token outcome attempt ownerToken error ignored row rfl found waits there held
        written
  · rename_i ownerToken error waits
    refine .conclude (Option.some.inj h) (fun _ _ ok =>
      .shifted ((markOwnedUploadUnknown_shifts ok).weaken ?_))
    rintro m c c' ⟨rfl, held, pending, moved⟩
    exact .marked token outcome attempt ownerToken rfl found (by rw [waits]; rfl) rfl held
      ⟨pending, moved⟩
  · refine .conclude (Option.some.inj h) (fun _ _ ok => ?_)
    cases ok
    exact .quiet (completeStorageForMedia_shifts _ _)
  · rename_i error waits
    refine .conclude (Option.some.inj h) (fun _ _ ok =>
      .shifted ((failStorageForMedia_shifts ok).weaken ?_))
    rintro m c c' ⟨rfl, status, ends⟩
    refine .missed token outcome attempt error rfl found waits rfl ?_ ends
    unfold Attempt.failureStatus at status
    split at status
    · rename_i terminal
      exact terminal
    · cases status
  · cases h

theorem renew_move (found : w.attempts.get token = some attempt) {outcome : CallOutcome}
    {phase : Phase} (h : attempt.renew w.db outcome = some (db, phase)) :
    Move w (.renew token outcome) db := by
  unfold Attempt.renew at h
  split at h
  · rename_i ownerToken metadata waits
    refine .conclude (Option.some.inj h) (fun _ _ ok =>
      .shifted ((renewStorageUpload_shifts ok).weaken ?_))
    rintro m c c' ⟨rfl, held, moved⟩
    exact .renewed token outcome attempt ownerToken rfl found (by rw [waits]; rfl) rfl held moved
  · cases h

theorem cancel_move (found : w.attempts.get token = some attempt) {outcome : CallOutcome}
    (h : cancel w token attempt outcome = some w') : Move w (.cancel token outcome) w'.db := by
  unfold cancel at h
  split at h
  · cases h
    exact .refl _ _
  · cases h
    exact .refl _ _
  · rename_i ownerToken attachment waits
    cases h
    simp only [World.advance]
    split
    · exact .committed (fun _ _ ok => completion_move (Or.inr rfl) found waits ok)
    · exact .refl _ _
  · cases h

theorem finish_move {heartbeatLost : Bool} {outcome : CallOutcome}
    (h : attempt.finish heartbeatLost w.db = some db) :
    Move w (.finish token heartbeatLost outcome) db := by
  unfold Attempt.finish at h
  split at h
  · split at h
    · split at h <;> cases h
      · rename_i completed
        exact .same rfl le_rfl (.of_complete completed)
      · exact .refl _ _
    · split at h <;> cases h
      · refine .committed (fun _ _ ok => .shifted ((settleStorageJob_shifts ok).weaken ?_))
        intro m c c' ends
        exact .settled token heartbeatLost outcome rfl ends
      · exact .refl _ _
  · cases h

theorem claim_move {worker : String} {leaseDuration : Time} {key : JobKey}
    (h : claimJob w worker leaseDuration key = some w') :
    Move w (.claimJob worker leaseDuration key) w'.db := by
  unfold claimJob at h
  split at h
  · rename_i claimed
    split at h
    · cases h
      exact .same rfl (Nat.le_succ _) (.of_claim claimed)
    · cases h
  · cases h

theorem prune_move {key : JobKey} {cutoff : Time} (h : prune w.db key cutoff = some db) :
    Move w (.prune key cutoff) db := by
  unfold prune at h
  split at h
  · split at h
    · cases h
      exact .same rfl le_rfl (.delete _ _)
    · cases h
  · cases h

theorem stageFails_db {error : StorageUploadError}
    (h : stageFails w token attempt error = some w') : w'.db = w.db := by
  unfold stageFails at h
  split at h
  · split at h <;> cases h
    rfl
  · cases h

theorem dispatch_db (h : dispatch w token attempt = some w') : w'.db = w.db := by
  unfold dispatch at h
  split at h <;> cases h
  rfl

theorem answer_db {response : Response} (h : answer w token attempt response = some w') :
    w'.db = w.db := by
  unfold answer at h
  split at h
  · split at h <;> cases h <;> rfl
  · cases h

theorem step_move (h : step w act = some w') : Move w act w'.db := by
  cases act with
  | claimJob worker leaseDuration key => exact claim_move h
  | heartbeat token leaseDuration =>
    simp only [step, Option.bind_eq_bind, Option.bind_eq_some_iff] at h
    obtain ⟨attempt, -, h⟩ := h
    split at h <;> cases h
    · rename_i beat
      exact .same rfl le_rfl (.of_heartbeat beat)
    · exact .refl _ _
  | call token outcome =>
    simp only [step, Option.bind_eq_bind, Option.bind_eq_some_iff, Option.some.injEq] at h
    obtain ⟨attempt, found, ⟨db, phase⟩, called, rfl⟩ := h
    exact call_move found called
  | check token fault =>
    simp only [step, Option.bind_eq_bind, Option.bind_eq_some_iff, Option.some.injEq] at h
    obtain ⟨attempt, found, phase, -, rfl⟩ := h
    exact .refl _ _
  | stageFails token error =>
    simp only [step, Option.bind_eq_bind, Option.bind_eq_some_iff] at h
    obtain ⟨attempt, -, h⟩ := h
    rw [stageFails_db h]
    exact .refl _ _
  | cancel token outcome =>
    simp only [step, Option.bind_eq_bind, Option.bind_eq_some_iff] at h
    obtain ⟨attempt, found, h⟩ := h
    exact cancel_move found h
  | dispatch token =>
    simp only [step, Option.bind_eq_bind, Option.bind_eq_some_iff] at h
    obtain ⟨attempt, -, h⟩ := h
    rw [dispatch_db h]
    exact .refl _ _
  | renew token outcome =>
    simp only [step, Option.bind_eq_bind, Option.bind_eq_some_iff, Option.some.injEq] at h
    obtain ⟨attempt, found, ⟨db, phase⟩, renewed, rfl⟩ := h
    exact renew_move found renewed
  | answer token response =>
    simp only [step, Option.bind_eq_bind, Option.bind_eq_some_iff] at h
    obtain ⟨attempt, -, h⟩ := h
    rw [answer_db h]
    exact .refl _ _
  | finish token heartbeatLost outcome =>
    simp only [step, Option.bind_eq_bind, Option.bind_eq_some_iff, Option.some.injEq] at h
    obtain ⟨attempt, -, db, finished, rfl⟩ := h
    simp only [World.retire]
    split
    · exact finish_move finished
    · exact .refl _ _
  | crash token =>
    simp only [step, Option.bind_eq_bind, Option.bind_eq_some_iff, Option.some.injEq] at h
    obtain ⟨attempt, -, rfl⟩ := h
    exact .refl _ _
  | recover id expected =>
    cases h
    refine .committed (fun _ _ ok => .shifted ((recoverStorageJob_shifts ok).weaken ?_))
    intro m c c' moved
    exact .recovered id expected rfl moved
  | prune key cutoff =>
    simp only [step, Option.bind_eq_bind, Option.bind_eq_some_iff, Option.some.injEq] at h
    obtain ⟨db, pruned, rfl⟩ := h
    exact prune_move pruned
  | markUnknown mediaId force =>
    cases h
    refine .committed (fun _ _ ok => .shifted ((markStorageUploadUnknown_shifts ok).weaken ?_))
    rintro m c c' ⟨rfl, moved⟩
    exact .declared force rfl moved
  | reset mediaId =>
    cases h
    refine .committed (fun _ _ ok => .shifted ((resetStorageUpload_shifts ok).weaken ?_))
    rintro m c c' ⟨rfl, free, moved⟩
    exact .reset rfl free moved
  | attach mediaId generation attachment =>
    cases h
    refine .committed (fun _ _ ok => .shifted ((attachStorageUpload_shifts ok).weaken ?_))
    rintro m c c' ⟨rfl, current, unknown, moved⟩
    exact .attached generation attachment rfl current unknown moved
  | tick elapsed =>
    cases h
    exact .same rfl le_rfl (.refl _)
  | createMedia media =>
    simp only [step] at h
    split at h
    · rename_i columns
      cases h
      exact .created media rfl columns rfl
    · cases h
  | editMedia id media =>
    simp only [step] at h
    split at h
    · rename_i same
      cases h
      simp only [Option.any_eq_true, beq_iff_eq] at same
      obtain ⟨row, found, columns⟩ := same
      refine .quiet ⟨fun m => Or.inl ?_, le_rfl, fun _ _ there => Or.inl there⟩
      rw [columnsOf_setMedia]
      split
      · rename_i here
        rw [here, columnsOf_found found, columns]
      · rfl
    · cases h
  | enqueueUpload mediaId generation =>
    simp only [step] at h
    split at h
    · rename_i reached
      cases h
      simp only [Option.any_eq_true, decide_eq_true_eq] at reached
      obtain ⟨row, found, reached⟩ := reached
      exact .quiet (enqueueStorageUpload_shifts found reached)
    · cases h
  | setIngest id ingest =>
    cases h
    exact .same rfl le_rfl (.refl _)
  | putForeignJob job =>
    simp only [step] at h
    split at h
    · cases h
    · rename_i foreign
      cases h
      exact .same rfl le_rfl (.put (fun upload => absurd upload foreign))
  | deleteForeignJob key =>
    simp only [step] at h
    split at h
    · cases h
    · cases h
      exact .same rfl le_rfl (.delete _ _)
  | drawUuid =>
    cases h
    exact .same rfl (Nat.le_succ _) (.refl _)

end Steps

end Sooqa.Storage
