import Sooqa.Storage.Dispatch

/-!
One upload for each decision of the operator. A reservation follows its upload
from unsent to sent, and keeps the generation it was made in; the generation of
a row moves on with a reset only. So two uploads of one media that Telegram has
not refused have a reset between their reservations.
-/
namespace Sooqa.Storage
open Foundation Queue Library Worker

/-- What a reservation can become. -/
def ReservationState.follows : ReservationState → ReservationState → Bool
  | .unsent, _ | .sent, .sent | .sent, .refused | .refused, .refused | .abandoned, .abandoned => true
  | _, _ => false

theorem ReservationState.follows_refl (state : ReservationState) : state.follows state = true := by
  cases state <;> rfl

theorem ReservationState.follows_trans {first second third : ReservationState}
    (one : first.follows second = true) (other : second.follows third = true) :
    first.follows third = true := by
  revert one other
  cases first <;> cases second <;> cases third <;> decide

/-- The reservation at a later time. -/
structure Reservation.Later (before after : Reservation) : Prop where
  media : after.mediaId = before.mediaId
  generation : after.generation = before.generation
  state : before.state.follows after.state = true

theorem Reservation.Later.refl (reservation : Reservation) : reservation.Later reservation :=
  ⟨rfl, rfl, reservation.state.follows_refl⟩

theorem Reservation.Later.trans {first second third : Reservation} (one : first.Later second)
    (other : second.Later third) : first.Later third where
  media := other.media.trans one.media
  generation := other.generation.trans one.generation
  state := ReservationState.follows_trans one.state other.state

/-- One that lives was alive before. -/
theorem Reservation.Later.live {before after : Reservation} (later : before.Later after)
    (lives : after.Live) : before.Live := by
  have follows := later.state
  unfold Reservation.Live at *
  rcases lives with state | state <;> rw [state] at follows
  · cases kind : before.state <;> simp [kind, ReservationState.follows] at follows ⊢
  · cases kind : before.state <;> simp [kind, ReservationState.follows] at follows ⊢

section Steps
variable {u w w' x : World} {act : Action} {token m : Uuid} {attempt : Attempt}

/-- What a step does to the record of one reservation. -/
inductive Records (w w' : World) (ownerToken : Uuid) : Prop where
  | kept (same : w'.reservations.get ownerToken = w.reservations.get ownerToken)
  | noted (reservation after : Reservation)
      (known : w.reservations.get ownerToken = some reservation)
      (moved : w'.reservations.get ownerToken = some after) (later : reservation.Later after)
  | granted (reservation : Reservation) (c : StorageColumns)
      (new : w.reservations.get ownerToken = none)
      (made : w'.reservations.get ownerToken = some reservation)
      (row : columnsOf w'.db reservation.mediaId = some c)
      (current : c.storageGeneration = reservation.generation)

/-- An attempt takes its own reservation on. -/
theorem Guarded.records_noted (inv : Guarded w) (found : w.attempts.get token = some attempt)
    {ownerToken : Uuid} (owns : attempt.phase.owner = some ownerToken) {state : ReservationState}
    (follows : ∀ before : ReservationState, attempt.phase.expects before = true →
      before.follows state = true)
    (written : w'.reservations = w.noted ownerToken state) (other : Uuid) : Records w w' other := by
  obtain ⟨reservation, known, -, -, -, before⟩ := inv.working token attempt ownerToken found owns
  have noted : w.noted ownerToken state =
      w.reservations.set ownerToken { reservation with state := state } := by
    simp only [World.noted, known]
  by_cases same : other = ownerToken
  · subst same
    refine .noted reservation { reservation with state := state } known ?_ ⟨rfl, rfl, follows _ before⟩
    rw [written, noted, Table.get_set_self]
  · apply Records.kept
    rw [written, noted, Table.get_set_ne _ _ same]

theorem Guarded.records_call (inv : Guarded w) {outcome : CallOutcome} {db : Db} {phase : Phase}
    (h : attempt.call w.db outcome = some (db, phase)) (other : Uuid) :
    Records w { w.advance token attempt db phase with
      reservations := reserving w token attempt phase } other := by
  by_cases waits : attempt.phase = .reserving
  · rw [Attempt.call, waits] at h
    have lost : ∀ error, (attempt.afterReserve (.error error)).owner = none :=
      fun error => conclude_owner attempt (persistenceError error)
    have free : phase.owner = none → Records w { w.advance token attempt db phase with
        reservations := reserving w token attempt phase } other := by
      intro none
      apply Records.kept
      exact congrArg (·.get other) (reserving_same (Or.inr none))
    rcases outcome.conclude_cases w.db .database
        (reserveStorageUpload w.db attempt.mediaId attempt.generation) attempt.afterReserve with
      ⟨error, same⟩ | ⟨t, answer, ok, same | same⟩
    · cases same.symm.trans (Option.some.inj h)
      exact free (lost error)
    · cases same.symm.trans (Option.some.inj h)
      rcases reserveStorageUpload_ok ok with ⟨rfl, refused⟩ |
        ⟨row, present, pending, current, unowned, rfl, rfl⟩
      · rcases afterReserve_cases attempt (.ok answer) with ⟨ownerToken, metadata, granted, -⟩ | none
        · cases granted
          exact absurd rfl (refused ownerToken metadata)
        · exact free none
      · have written : reserving w token attempt (attempt.afterReserve
            (.ok (.reserved w.db.fresh (captionMetadataOf row)))) =
            w.reservations.set w.db.fresh
              ⟨attempt.mediaId, attempt.generation, token, .unsent⟩ := by
          unfold reserving
          rw [waits]
          rfl
        by_cases same : other = w.db.fresh
        · subst same
          refine .granted ⟨attempt.mediaId, attempt.generation, token, .unsent⟩
            (storageColumns (reservedMedia w.db.now w.db.fresh row)) ?_ ?_ ?_ current
          · cases known : w.reservations.get w.db.fresh with
            | none => rfl
            | some reservation => exact absurd (inv.reserved.drawn _ _ known) (lt_irrefl _)
          · rw [written, Table.get_set_self]
          · exact (columnsOf_setMedia _ _ _ _).trans (if_pos rfl)
        · apply Records.kept
          rw [written, Table.get_set_ne _ _ same]
    · cases same.symm.trans (Option.some.inj h)
      exact free (lost _)
  · apply Records.kept
    exact congrArg (·.get other) (reserving_same (Or.inl waits))

theorem Guarded.records (inv : Guarded w) (h : Storage.step w act = some w') (other : Uuid) :
    Records w w' other := by
  cases act with
  | claimJob worker leaseDuration key =>
    simp only [Storage.step, claimJob] at h
    split at h
    · split at h <;> cases h
      exact .kept rfl
    · cases h
  | heartbeat token leaseDuration =>
    simp only [Storage.step, Option.bind_eq_bind, Option.bind_eq_some_iff] at h
    obtain ⟨attempt, -, h⟩ := h
    split at h <;> cases h <;> exact .kept rfl
  | call token outcome =>
    simp only [Storage.step, Option.bind_eq_bind, Option.bind_eq_some_iff, Option.some.injEq] at h
    obtain ⟨attempt, -, ⟨db, phase⟩, called, rfl⟩ := h
    exact inv.records_call called other
  | stageFails token error =>
    simp only [Storage.step, Option.bind_eq_bind, Option.bind_eq_some_iff, Storage.stageFails] at h
    obtain ⟨attempt, found, h⟩ := h
    split at h
    · rename_i ownerToken metadata waits
      split at h <;> cases h
      refine inv.records_noted found (by rw [waits]; rfl) (fun before expected => ?_) rfl other
      rw [waits] at expected
      rw [eq_of_beq expected]
      rfl
    · cases h
  | cancel token outcome =>
    simp only [Storage.step, Option.bind_eq_bind, Option.bind_eq_some_iff, Storage.cancel] at h
    obtain ⟨attempt, found, h⟩ := h
    split at h
    · rename_i ownerToken metadata waits
      cases h
      refine inv.records_noted found (by rw [waits]; rfl) (fun before expected => ?_) rfl other
      rw [waits] at expected
      rw [eq_of_beq expected]
      rfl
    · cases h
      exact .kept rfl
    · cases h
      exact .kept rfl
    · cases h
  | dispatch token =>
    simp only [Storage.step, Option.bind_eq_bind, Option.bind_eq_some_iff, Storage.dispatch] at h
    obtain ⟨attempt, found, h⟩ := h
    split at h
    · rename_i ownerToken metadata waits
      cases h
      refine inv.records_noted found (by rw [waits]; rfl) (fun before expected => ?_) rfl other
      rw [waits] at expected
      rw [eq_of_beq expected]
      rfl
    · cases h
  | answer token response =>
    simp only [Storage.step, Option.bind_eq_bind, Option.bind_eq_some_iff, Storage.answer] at h
    obtain ⟨attempt, found, h⟩ := h
    split at h
    · rename_i ownerToken metadata waits
      split at h
      · cases h
        exact .kept rfl
      · cases h
        exact .kept rfl
      · cases h
        refine inv.records_noted found (by rw [waits]; rfl) (fun before expected => ?_) rfl other
        rw [waits] at expected
        rw [eq_of_beq expected]
        rfl
    · cases h
  | check token fault | renew token outcome | finish token heartbeatLost outcome | crash token
  | prune key cutoff =>
    simp only [Storage.step, Option.bind_eq_bind, Option.bind_eq_some_iff, Option.some.injEq] at h
    obtain ⟨attempt, -, h⟩ := h
    first
      | (cases h; exact .kept rfl)
      | (obtain ⟨-, -, rfl⟩ := h; exact .kept rfl)
  | createMedia media | editMedia id media | enqueueUpload mediaId generation | putForeignJob job
  | deleteForeignJob key =>
    simp only [Storage.step] at h
    split at h <;> cases h
    exact .kept rfl
  | recover id expected | markUnknown mediaId force | reset mediaId
  | attach mediaId generation attachment | tick elapsed | setIngest id ingest | drawUuid =>
    cases h
    exact .kept rfl

/-- The generation of a row moves on with a reset only. -/
theorem Cause.generation {c c' : StorageColumns} (h : Cause w act m c c') :
    c'.storageGeneration = c.storageGeneration ∨ act = .reset m := by
  cases h with
  | reset acts => exact Or.inr acts
  | renewed _ _ _ _ _ _ _ _ _ moved => exact Or.inl (by rw [moved]; rfl)
  | stored _ _ _ _ _ _ _ _ _ _ _ moved => exact Or.inl (by rw [moved]; rfl)
  | marked _ _ _ _ _ _ _ _ _ ends => exact Or.inl (by rw [ends.2]; rfl)
  | missed _ _ _ _ _ _ _ _ _ ends => exact Or.inl (by rw [ends.2]; rfl)
  | settled _ _ _ _ ends => exact Or.inl (by rw [ends.2]; rfl)
  | recovered _ _ _ moved => exact Or.inl (by rw [moved]; rfl)
  | declared _ _ moved => exact Or.inl (by rw [moved]; rfl)
  | attached _ _ _ _ _ moved => exact Or.inl (by rw [moved]; rfl)

theorem columnsOf_rewritten {db : Db} {n : Uuid} {row row' : Media} {c : StorageColumns}
    (there : db.media.get n = some row) (found : columnsOf db m = some c)
    (same : row'.storageGeneration = row.storageGeneration) :
    ∃ c', columnsOf (setMedia db n row') m = some c' ∧
      c'.storageGeneration = c.storageGeneration := by
  rw [columnsOf_setMedia]
  split
  · rename_i here
    rw [here, columnsOf_found there] at found
    cases found
    exact ⟨_, rfl, same⟩
  · exact ⟨c, found, rfl⟩

theorem Guarded.generation_kept (inv : Guarded w) (h : Storage.step w act = some w')
    (quiet : act ≠ .reset m) {c : StorageColumns} (found : columnsOf w.db m = some c) :
    ∃ c', columnsOf w'.db m = some c' ∧ c'.storageGeneration = c.storageGeneration := by
  cases step_move h with
  | shifted shifts =>
    rcases shifts.rows m with same | ⟨old, c', before, after, cause⟩
    · exact ⟨c, same.trans found, rfl⟩
    · rw [found] at before
      cases before
      exact ⟨c', after, cause.generation.resolve_right quiet⟩
  | reserved _ _ _ row _ _ _ there _ _ _ written =>
    rw [written]
    exact columnsOf_rewritten there found rfl
  | released _ _ _ _ _ _ row _ _ _ there _ written =>
    rw [written]
    exact columnsOf_rewritten there found rfl
  | created media _ _ written =>
    have old : m ≠ w.db.fresh := ne_of_lt (inv.reserved.rows m c found)
    rw [written]
    exact ⟨c, ((columnsOf_setMedia _ _ _ _).trans (if_neg old)).trans found, rfl⟩

/-- The reservations of a media made since a state are of the row's generation. -/
def Level (u : World) (m : Uuid) (w : World) : Prop :=
  ∀ ownerToken reservation, u.reservations.get ownerToken = none →
    w.reservations.get ownerToken = some reservation → reservation.mediaId = m →
    ∃ c, columnsOf w.db m = some c ∧ c.storageGeneration = reservation.generation

theorem Level.step (level : Level u m w) (inv : Guarded w) (quiet : act ≠ .reset m)
    (h : Storage.step w act = some w') : Level u m w' := by
  intro ownerToken reservation new made here
  have still : ∀ before, w.reservations.get ownerToken = some before → before.mediaId = m →
      before.generation = reservation.generation →
      ∃ c, columnsOf w'.db m = some c ∧ c.storageGeneration = reservation.generation := by
    intro before known there same
    obtain ⟨c, found, current⟩ := level ownerToken before new known there
    obtain ⟨c', after, kept⟩ := inv.generation_kept h quiet found
    exact ⟨c', after, kept.trans (current.trans same)⟩
  cases inv.records h ownerToken with
  | kept same =>
    rw [same] at made
    exact still reservation made here rfl
  | noted before after known moved later =>
    rw [moved] at made
    cases made
    exact still before known (later.media.symm.trans here) later.generation.symm
  | granted reservation' c _ made' row current =>
    rw [made'] at made
    cases made
    exact ⟨c, here ▸ row, current⟩

theorem Level.run (inv : Guarded u) {acts : List Action} (quiet : .reset m ∉ acts)
    (run : Run Storage.step Unrestricted u acts w) : Level u m w := by
  have calm : ∀ act ∈ acts, ∀ s : World, (fun _ a => a ≠ Action.reset m) s act := by
    rintro act member - rfl
    exact quiet member
  have start : Level u m u := by
    intro ownerToken reservation new made
    rw [new] at made
    cases made
  have both := run_invariant (fun s => Guarded s ∧ Level u m s)
    (fun both allowed taken => ⟨both.1.step taken, both.2.step both.1 allowed taken⟩)
    ⟨inv, start⟩ (run_of_exec_allowed calm (exec_of_run run))
  exact both.2

theorem Guarded.later_step (inv : Guarded w) (h : Storage.step w act = some w') {ownerToken : Uuid}
    {reservation : Reservation} (known : w.reservations.get ownerToken = some reservation) :
    ∃ after, w'.reservations.get ownerToken = some after ∧ reservation.Later after := by
  cases inv.records h ownerToken with
  | kept same => exact ⟨reservation, same.trans known, .refl reservation⟩
  | noted before after known' moved later =>
    rw [known] at known'
    cases known'
    exact ⟨after, moved, later⟩
  | granted _ _ new =>
    rw [known] at new
    cases new

/-- A reservation stays in the record. -/
theorem Guarded.later (inv : Guarded w) {acts : List Action}
    (run : Run Storage.step Unrestricted w acts w') {ownerToken : Uuid} {reservation : Reservation}
    (known : w.reservations.get ownerToken = some reservation) :
    ∃ after, w'.reservations.get ownerToken = some after ∧ reservation.Later after := by
  induction run generalizing reservation with
  | nil s => exact ⟨reservation, known, .refl reservation⟩
  | cons ok first tail ih =>
    obtain ⟨next, known', later⟩ := inv.later_step first known
    obtain ⟨after, known'', later'⟩ := ih (inv.step first) known'
    exact ⟨after, known'', later.trans later'⟩

/-- Wherever the run has made both reservations, it has reset the media in between. -/
def ResetBetween (acts : List Action) (w : World) (m first second : Uuid) : Prop :=
  ∀ before between after u x, acts = before ++ between ++ after →
    Run step Unrestricted initial before u → Run step Unrestricted u between x →
    Run step Unrestricted x after w → u.reservations.get first = none →
    u.reservations.get second = none → (x.reservations.get first).isSome →
    (x.reservations.get second).isSome → .reset m ∈ between

theorem reset_between {acts : List Action} {first second : Uuid} {one other : Reservation}
    (apart : first ≠ second) (knownOne : w.reservations.get first = some one)
    (knownOther : w.reservations.get second = some other) (liveOne : one.Live)
    (liveOther : other.Live) (media : one.mediaId = other.mediaId) :
    ResetBetween acts w one.mediaId first second := by
  intro before between after u x _ start run rest newOne newOther thereOne thereOther
  by_contra quiet
  have guarded := guarded_run start
  have guarded' := guarded_run (run_append start run)
  obtain ⟨one', madeOne⟩ := Option.isSome_iff_exists.mp thereOne
  obtain ⟨other', madeOther⟩ := Option.isSome_iff_exists.mp thereOther
  obtain ⟨_, known, laterOne⟩ := guarded'.later rest madeOne
  cases knownOne.symm.trans known
  obtain ⟨_, known, laterOther⟩ := guarded'.later rest madeOther
  cases knownOther.symm.trans known
  -- Both are of the generation that the row has had since.
  have level := Level.run guarded quiet run
  obtain ⟨c, found, current⟩ := level first one' newOne madeOne laterOne.media.symm
  obtain ⟨c', found', current'⟩ :=
    level second other' newOther madeOther (laterOther.media.symm.trans media.symm)
  cases found.symm.trans found'
  exact apart (guarded'.reserved.single first second one' other' madeOne madeOther
    (laterOne.live liveOne) (laterOther.live liveOther)
    (laterOne.media.symm.trans (media.trans laterOther.media)) (current.symm.trans current'))

end Steps

section Claims
variable {w w' : World} {act : Action} {m : Uuid} {c c' : StorageColumns}

/-- A row becomes ready by the upload that owns it, or attached by the operator. -/
theorem ready_by_owner (inv : Guarded w) (h : step w act = some w')
    (before : columnsOf w.db m = some c) (after : columnsOf w'.db m = some c')
    (open_ : c.storageState ≠ .ready) (ready : c'.storageState = .ready) :
    (∃ generation attachment, act = .attach m generation attachment) ∨
      ∃ token outcome attempt ownerToken attachment,
        (act = .call token outcome ∨ act = .cancel token outcome) ∧
        w.attempts.get token = some attempt ∧
        attempt.phase = .completing ownerToken attachment ∧ attempt.mediaId = m ∧
        c.storageToken = some ownerToken := by
  have rewritten : ∀ {n : Uuid} {row row' : Media}, w.db.media.get n = some row →
      row'.storageState ≠ .ready ∨ row'.storageState = row.storageState →
      columnsOf (setMedia w.db n row') m = some c' → False := by
    intro n row row' there kept written
    rw [columnsOf_setMedia] at written
    split at written
    · rename_i here
      subst here
      rw [columnsOf_found there] at before
      cases before
      cases written
      rcases kept with other | same
      · exact other ready
      · exact open_ (same.symm.trans ready)
    · rw [before] at written
      cases written
      exact open_ ready
  cases step_move h with
  | shifted shifts =>
    rcases shifts.rows m with same | ⟨old, new, was, is, cause⟩
    · rw [same, before] at after
      cases after
      exact absurd ready open_
    · rw [before] at was
      cases was
      rw [after] at is
      cases is
      cases cause with
      | stored token outcome attempt ownerToken attachment acts found waits here held _ _ =>
        exact Or.inr ⟨token, outcome, attempt, ownerToken, attachment, acts, found, waits, here,
          held⟩
      | attached generation attachment acts => exact Or.inl ⟨generation, attachment, acts⟩
      | renewed _ _ _ _ _ _ _ _ _ moved =>
        rw [moved] at ready
        exact absurd ready open_
      | marked _ _ _ _ _ _ _ _ _ ends => rw [ends.2] at ready; cases ready
      | missed _ _ _ _ _ _ _ _ _ ends => rw [ends.2] at ready; cases ready
      | settled _ _ _ _ ends => rw [ends.2] at ready; cases ready
      | recovered _ _ _ moved => rw [moved] at ready; cases ready
      | declared _ _ moved => rw [moved] at ready; cases ready
      | reset _ _ moved => rw [moved] at ready; cases ready
  | reserved _ _ attempt row _ _ _ there _ _ _ written =>
    rw [written] at after
    have moved : columnsOf (setMedia w.db attempt.mediaId
        (reservedMedia w.db.now w.db.fresh row)) m = some c' := after
    have kept : (reservedMedia w.db.now w.db.fresh row).storageState = row.storageState := rfl
    exact (rewritten there (Or.inr kept) moved).elim
  | released _ _ _ _ _ _ row _ _ _ there _ written =>
    rw [written] at after
    exact (rewritten there (Or.inl (by intro state; cases state)) after).elim
  | created media _ _ written =>
    have old : m ≠ w.db.fresh := ne_of_lt (inv.reserved.rows m c before)
    rw [written] at after
    have same := ((columnsOf_setMedia w.db w.db.fresh media m).trans (if_neg old)).symm.trans after
    cases before.symm.trans same
    exact absurd ready open_

/-- A reservation that was sent and not refused holds its row until a reset. -/
theorem sent_holds {u : World} {acts : List Action} {ownerToken : Uuid} {reservation : Reservation}
    (inv : Guarded u) (run : Run step Unrestricted u acts w)
    (new : u.reservations.get ownerToken = none)
    (known : w.reservations.get ownerToken = some reservation) (sent : reservation.state = .sent)
    (quiet : .reset reservation.mediaId ∉ acts) :
    ∃ c, columnsOf w.db reservation.mediaId = some c ∧
      c.storageGeneration = reservation.generation ∧
      (c.storageState ≠ .pending ∨ c.storageToken = some ownerToken) := by
  obtain ⟨c, found, current⟩ := Level.run inv quiet run ownerToken reservation new known rfl
  have guarded := run_invariant Guarded (fun inv _ taken => inv.step taken) inv run
  obtain ⟨c', found', taken⟩ :=
    guarded.reserved.taken ownerToken reservation known (Or.inr sent)
  cases found.symm.trans found'
  exact ⟨c, found, current, taken.2 current⟩

/-- The reservation that an attempt sends has not been sent before. -/
theorem dispatch_owner (inv : Guarded w) {token : Uuid} {attempt : Attempt}
    (found : w.attempts.get token = some attempt) (h : step w (.dispatch token) = some w') :
    ∃ ownerToken reservation, attempt.phase.owner = some ownerToken ∧
      w.reservations.get ownerToken = some reservation ∧ reservation.state = .unsent ∧
      reservation.mediaId = attempt.mediaId ∧
      w'.reservations.get ownerToken = some { reservation with state := .sent } := by
  simp only [Storage.step, Option.bind_eq_bind, Option.bind_eq_some_iff, Storage.dispatch] at h
  obtain ⟨attempt', found', h⟩ := h
  cases found.symm.trans found'
  split at h
  · rename_i ownerToken metadata waits
    cases h
    have owns : attempt.phase.owner = some ownerToken := by rw [waits]; rfl
    obtain ⟨reservation, known, -, media, -, expected⟩ := inv.working token attempt _ found owns
    rw [waits] at expected
    refine ⟨ownerToken, reservation, owns, known, eq_of_beq expected, media, ?_⟩
    simp only [World.noted, known, Table.get_set_self]
  · cases h

/-- At most one upload for each decision of the operator: a token means a pending
    row, which only its holder makes ready by an upload; two uploads that were sent
    have a reset between their reservations, unless the earlier one was refused; and
    one that was sent and not refused leaves no free pending row before a reset. -/
theorem one_upload_per_decision {acts : List Action} (run : Run step Unrestricted initial acts w) :
    (∀ m c token, columnsOf w.db m = some c → c.storageToken = some token →
      c.storageState = .pending) ∧
    (∀ act w' m c c', step w act = some w' → columnsOf w.db m = some c →
      columnsOf w'.db m = some c' → c.storageState ≠ .ready → c'.storageState = .ready →
      (∃ generation attachment, act = .attach m generation attachment) ∨
        ∃ token outcome attempt ownerToken attachment,
          (act = .call token outcome ∨ act = .cancel token outcome) ∧
          w.attempts.get token = some attempt ∧
          attempt.phase = .completing ownerToken attachment ∧ attempt.mediaId = m ∧
          c.storageToken = some ownerToken) ∧
    (∀ token w' later v token' v' one other, step w (.dispatch token) = some w' →
      Run step Unrestricted w' later v → step v (.dispatch token') = some v' →
      w.attempts.get token = some one → v.attempts.get token' = some other →
      one.mediaId = other.mediaId →
      ∃ first second, one.phase.owner = some first ∧ other.phase.owner = some second ∧
        first ≠ second ∧
        ((∃ reservation, v.reservations.get first = some reservation ∧
            reservation.state = .refused) ∨
          ResetBetween (acts ++ .dispatch token :: later) v one.mediaId first second)) ∧
    (∀ before after u ownerToken reservation, acts = before ++ after →
      Run step Unrestricted initial before u → Run step Unrestricted u after w →
      u.reservations.get ownerToken = none →
      w.reservations.get ownerToken = some reservation → reservation.state = .sent →
      .reset reservation.mediaId ∉ after →
      ∃ c, columnsOf w.db reservation.mediaId = some c ∧
        c.storageGeneration = reservation.generation ∧
        (c.storageState ≠ .pending ∨ c.storageToken = some ownerToken)) := by
  have inv := guarded_run run
  refine ⟨fun m c token found held => (inv.reserved.held m c token found held).1,
    fun act w' m c c' h before after => ready_by_owner inv h before after, ?_, ?_⟩
  · intro token w' later v token' v' one other sends rest sends' found found' same
    have inv' := inv.step sends
    have inv'' := run_invariant Guarded (fun inv _ taken => inv.step taken) inv' rest
    obtain ⟨first, reservation, owns, known, unsent, media, sent⟩ := dispatch_owner inv found sends
    obtain ⟨second, reservation', owns', known', unsent', media', -⟩ :=
      dispatch_owner inv'' found' sends'
    obtain ⟨now, there, later⟩ := inv'.later rest sent
    have apart : first ≠ second := by
      rintro rfl
      cases there.symm.trans known'
      have follows := later.state
      rw [unsent'] at follows
      cases follows
    refine ⟨first, second, owns, owns', apart, ?_⟩
    cases state : now.state with
    | refused => exact Or.inl ⟨now, there, state⟩
    | sent =>
      right
      have here : now.mediaId = one.mediaId := later.media.trans media
      rw [← here]
      exact reset_between apart there known' (Or.inr state) (Or.inl unsent')
        (here.trans (same.trans media'.symm))
    | unsent =>
      have follows := later.state
      rw [state] at follows
      cases follows
    | abandoned =>
      have follows := later.state
      rw [state] at follows
      cases follows
  · intro before after u ownerToken reservation _ start rest new known sent quiet
    exact sent_holds (guarded_run start) rest new known sent quiet

/-- A canonical file that waits for its upload. -/
def sampleWaiting : Media :=
  { Publisher.sampleMedia with
    storageState := .pending
    canonicalSha256 := some "00"
    localWorkPath := some (0, "canonical.mp4")
    telegramStorageChatId := none
    telegramStorageMessageId := none
    telegramFileId := none
    storageGeneration := 0
    storedAt := none }

def sampleReserve (token generation : Nat) : List Action :=
  [.claimJob "worker" minute (.uploadStorage 0 generation), .call token .answered,
    .call token .answered, .check token none, .call token .answered]

/-- While the first attempt is about to send, the operator gives its upload up
    and resets the media; a second attempt reserves it. -/
def sampleOvertaken : List Action :=
  [.createMedia sampleWaiting, .enqueueUpload 0 0] ++ sampleReserve 2 0 ++
    [.markUnknown 0 true, .reset 0] ++ sampleReserve 5 1

/-- While the upload is in flight, the operator gives it up and attaches its message. -/
def sampleAttached : List Action :=
  [.createMedia sampleWaiting, .enqueueUpload 0 0] ++ sampleReserve 2 0 ++
    [.dispatch 2, .markUnknown 0 true, .attach 0 0 ⟨-5, 7, some "file", none, none⟩,
      .answer 2 (.ambiguous "timeout"), .call 2 .answered]

/-- The second upload is sent before the first one, the reset before both. -/
theorem overtaken_uploads_have_a_reset :
    ∃ w w' v', exec step initial sampleOvertaken = some w ∧ step w (.dispatch 5) = some w' ∧
      step w' (.dispatch 2) = some v' ∧
      ResetBetween (sampleOvertaken ++ [.dispatch 5]) w' 0 6 3 := by
  obtain ⟨w, w', v', one, other, sent, reached, first, second, found, found', there, there', owns,
      owns', known, state⟩ : ∃ w w' v' one other sent,
      exec step initial sampleOvertaken = some w ∧
      step w (.dispatch 5) = some w' ∧ step w' (.dispatch 2) = some v' ∧
      w.attempts.get 5 = some one ∧ w'.attempts.get 2 = some other ∧ one.mediaId = 0 ∧
      other.mediaId = 0 ∧ one.phase.owner = some 6 ∧ other.phase.owner = some 3 ∧
      w'.reservations.get 6 = some sent ∧ sent.state = .sent :=
    ⟨_, _, _, _, _, _, rfl, rfl, rfl, rfl, rfl, rfl, rfl, rfl, rfl, rfl, rfl⟩
  obtain ⟨first', second', is, is', -, outcome⟩ :=
    (one_upload_per_decision (run_of_exec reached)).2.2.1 5 w' [] w' 2 v' one other first (.nil w')
      second found found' (there.trans there'.symm)
  cases owns.symm.trans is
  cases owns'.symm.trans is'
  rcases outcome with ⟨refused, known', state'⟩ | reset
  · cases known.symm.trans known'
    cases state.symm.trans state'
  · rw [there] at reset
    exact ⟨w, w', v', reached, first, second, reset⟩

/-- No reset lies between the two uploads, and the earlier one was not refused;
    and an upload whose outcome is unknown ends with a media that is ready. -/
theorem resets_precede_both_uploads :
    (∃ w w' v' one other sent, exec step initial sampleOvertaken = some w ∧
      step w (.dispatch 5) = some w' ∧ step w' (.dispatch 2) = some v' ∧
      w.attempts.get 5 = some one ∧ w'.attempts.get 2 = some other ∧
      one.mediaId = other.mediaId ∧ one.phase.owner = some 6 ∧
      v'.reservations.get 6 = some sent ∧ sent.state = .sent) ∧
    ∃ w attempt sent row, exec step initial sampleAttached = some w ∧
      (∀ m, .reset m ∉ sampleAttached) ∧ w.attempts.get 2 = some attempt ∧
      (∃ result, attempt.phase = .returned result) ∧ w.reservations.get 3 = some sent ∧
      sent.state = .sent ∧ w.db.media.get 0 = some row ∧ row.storageState = .ready := by
  constructor
  · exact ⟨_, _, _, _, _, _, rfl, rfl, rfl, rfl, rfl, rfl, rfl, rfl, rfl⟩
  · refine ⟨_, _, _, _, rfl, ?_, rfl, ⟨_, rfl⟩, rfl, rfl, rfl, rfl⟩
    intro m
    simp [sampleAttached, sampleReserve]

end Claims
end Sooqa.Storage
