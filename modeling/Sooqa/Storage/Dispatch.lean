import Sooqa.Storage.Causes

/-!
At most one upload of a generation has an effect. A reservation whose upload
was sent, or may still be, keeps its generation taken: the row holds its token,
has left `pending_storage`, or has opened a later generation. So the row is
never free for a second reservation.
-/
namespace Sooqa.Storage
open Foundation Queue Library Worker

/-- The upload of this reservation was sent or may still be, and Telegram has
    not refused it. -/
def Reservation.Live (reservation : Reservation) : Prop :=
  reservation.state = .unsent ∨ reservation.state = .sent

/-- The generation is not free for anyone but the owner of this token. -/
def Taken (c : StorageColumns) (generation : Nat) (ownerToken : Uuid) : Prop :=
  generation ≤ c.storageGeneration ∧ (c.storageGeneration = generation →
    c.storageState ≠ .pending ∨ c.storageToken = some ownerToken)

/-- What the rows and the reservations know of each other. -/
structure Reserved (db : Db) (reservations : Table Uuid Reservation) : Prop where
  held : ∀ m c token, columnsOf db m = some c → c.storageToken = some token →
    c.storageState = .pending ∧ token < db.fresh
  rows : ∀ m c, columnsOf db m = some c → m < db.fresh
  drawn : ∀ ownerToken reservation, reservations.get ownerToken = some reservation →
    ownerToken < db.fresh
  taken : ∀ ownerToken reservation, reservations.get ownerToken = some reservation →
    reservation.Live → ∃ c, columnsOf db reservation.mediaId = some c ∧
      Taken c reservation.generation ownerToken
  single : ∀ first second one other, reservations.get first = some one →
    reservations.get second = some other → one.Live → other.Live →
    one.mediaId = other.mediaId → one.generation = other.generation → first = second
  bound : ∀ ownerToken reservation m c, reservations.get ownerToken = some reservation →
    columnsOf db m = some c → c.storageToken = some ownerToken →
    m = reservation.mediaId ∧ c.storageGeneration = reservation.generation
  enqueued : ∀ m generation, (db.jobs.get (.uploadStorage m generation)).isSome = true →
    ∃ c, columnsOf db m = some c ∧ generation ≤ c.storageGeneration

/-- The states a reservation can be in while its attempt is in this phase. -/
def Phase.expects : Phase → ReservationState → Bool
  | .reserved _ _, state => state == .unsent
  | .uploading _ _, state | .completing _ _, state | .marking _ _, state => state == .sent
  | .releasing _ _ _, state => state == .refused || state == .abandoned
  | _, _ => true

/-- Every attempt that works with a reservation is the one it was granted to. -/
def Working (attempts : Table Uuid Attempt) (reservations : Table Uuid Reservation) : Prop :=
  ∀ token attempt ownerToken, attempts.get token = some attempt →
    attempt.phase.owner = some ownerToken →
    ∃ reservation, reservations.get ownerToken = some reservation ∧ reservation.attempt = token ∧
      reservation.mediaId = attempt.mediaId ∧ reservation.generation = attempt.generation ∧
      attempt.phase.expects reservation.state = true

section Rows
variable {db db' : Db} {reservations : Table Uuid Reservation}

theorem Taken.advances {c c' : StorageColumns} {generation : Nat} {ownerToken : Uuid}
    (taken : Taken c generation ownerToken) (advances : Advances c c') :
    Taken c' generation ownerToken := by
  obtain ⟨reached, here⟩ := taken
  rcases advances with ⟨same, state, token⟩ | ⟨same, closed, -⟩ | ⟨later, -⟩
  · refine ⟨same ▸ reached, fun current => ?_⟩
    rw [state, token]
    exact here (same ▸ current)
  · exact ⟨same ▸ reached, fun _ => Or.inl closed⟩
  · exact ⟨by omega, fun current => by omega⟩

/-- Transactions that keep, close or open generations. -/
theorem Reserved.settles (inv : Reserved db reservations)
    (h : Shifts (fun _ => Advances) db db') : Reserved db' reservations where
  held := by
    intro m c' token found shown
    obtain ⟨c, before, advances⟩ := h.back found
    obtain ⟨-, state, kept⟩ := advances.token shown
    obtain ⟨pending, drawn⟩ := inv.held m c token before kept
    exact ⟨state.trans pending, lt_of_lt_of_le drawn h.fresh⟩
  rows := by
    intro m c' found
    obtain ⟨c, before, -⟩ := h.back found
    exact lt_of_lt_of_le (inv.rows m c before) h.fresh
  drawn := fun ownerToken reservation known =>
    lt_of_lt_of_le (inv.drawn ownerToken reservation known) h.fresh
  taken := by
    intro ownerToken reservation known live
    obtain ⟨c, before, taken⟩ := inv.taken ownerToken reservation known live
    obtain ⟨c', after, advances⟩ := h.forth before
    exact ⟨c', after, taken.advances advances⟩
  single := inv.single
  bound := by
    intro ownerToken reservation m c' known found shown
    obtain ⟨c, before, advances⟩ := h.back found
    obtain ⟨generation, -, kept⟩ := advances.token shown
    obtain ⟨same, bound⟩ := inv.bound ownerToken reservation m c known before kept
    exact ⟨same, generation.trans bound⟩
  enqueued := by
    intro m generation there
    rcases h.uploads m generation there with before | reached
    · obtain ⟨c, found, reached⟩ := inv.enqueued m generation before
      obtain ⟨c', after, advances⟩ := h.forth found
      exact ⟨c', after, le_trans reached advances.generation⟩
    · exact reached

/-- The columns of a row, rewritten, and of the others. -/
theorem columnsOf_setMedia_cases {id m : Uuid} {row : Media} {c : StorageColumns}
    (h : columnsOf (setMedia db id row) m = some c) :
    (m = id ∧ c = storageColumns row) ∨ (m ≠ id ∧ columnsOf db m = some c) := by
  rw [columnsOf_setMedia] at h
  split at h
  · rename_i same
    cases h
    exact Or.inl ⟨same, rfl⟩
  · rename_i other
    exact Or.inr ⟨other, h⟩

/-- A row rewritten in its generation leaves the uploads where they were. -/
theorem Reserved.reached (inv : Reserved db reservations) {m n : Uuid} {row row' : Media}
    {generation : Nat} (found : db.media.get m = some row)
    (same : row'.storageGeneration = row.storageGeneration)
    (there : (db.jobs.get (.uploadStorage n generation)).isSome = true) :
    ∃ c, columnsOf (setMedia db m row') n = some c ∧ generation ≤ c.storageGeneration := by
  obtain ⟨c, before, reached⟩ := inv.enqueued n generation there
  rw [columnsOf_setMedia]
  split
  · rename_i here
    rw [here, columnsOf_found found] at before
    cases before
    exact ⟨_, rfl, le_of_le_of_eq reached same.symm⟩
  · exact ⟨c, before, reached⟩

/-- The owner of a reservation that has no effect gives it back. -/
theorem Reserved.release (inv : Reserved db reservations) {m ownerToken : Uuid} {row : Media}
    {reservation : Reservation} (known : reservations.get ownerToken = some reservation)
    (dead : ¬ reservation.Live) (found : db.media.get m = some row)
    (held : row.storageToken = some ownerToken) :
    Reserved (setMedia db m (clearedReservation db.now .pending row)) reservations where
  held := by
    intro other c token there shown
    rcases columnsOf_setMedia_cases there with ⟨-, rfl⟩ | ⟨-, before⟩
    · cases shown
    · exact inv.held other c token before shown
  rows := by
    intro other c there
    rcases columnsOf_setMedia_cases there with ⟨rfl, -⟩ | ⟨-, before⟩
    · exact inv.rows other _ (columnsOf_found found)
    · exact inv.rows other c before
  drawn := inv.drawn
  taken := by
    intro other known' there live
    obtain ⟨c, before, taken⟩ := inv.taken other known' there live
    by_cases same : known'.mediaId = m
    · refine ⟨storageColumns (clearedReservation db.now .pending row), ?_, ?_⟩
      · rw [columnsOf_setMedia, if_pos same]
      rw [same, columnsOf_found found] at before
      cases before
      refine ⟨taken.1, fun current => ?_⟩
      rcases taken.2 current with closed | owned
      · have pending := (inv.held m _ ownerToken (columnsOf_found found) held).1
        exact absurd pending closed
      · have one : ownerToken = other := by
          rw [show (storageColumns row).storageToken = row.storageToken from rfl, held] at owned
          exact Option.some.inj owned
        rw [one] at known
        rw [known] at there
        cases there
        exact absurd live dead
    · refine ⟨c, ?_, taken⟩
      rw [columnsOf_setMedia, if_neg same]
      exact before
  single := inv.single
  bound := by
    intro other known' n c there written shown
    rcases columnsOf_setMedia_cases written with ⟨-, rfl⟩ | ⟨-, before⟩
    · cases shown
    · exact inv.bound other known' n c there before shown
  enqueued := fun _ _ there => inv.reached found rfl there

/-- A free pending row takes a fresh token. -/
theorem Reserved.reserve (inv : Reserved db reservations) {m : Uuid} {row : Media}
    (found : db.media.get m = some row) (pending : row.storageState = .pending)
    (free : row.storageToken = none) :
    Reserved { setMedia db m (reservedMedia db.now db.fresh row) with fresh := db.fresh + 1 }
      reservations where
  held := by
    intro other c token there shown
    rcases columnsOf_setMedia_cases there with ⟨-, rfl⟩ | ⟨-, before⟩
    · cases shown
      exact ⟨pending, Nat.lt_succ_self _⟩
    · obtain ⟨state, drawn⟩ := inv.held other c token before shown
      exact ⟨state, Nat.lt_succ_of_lt drawn⟩
  rows := by
    intro other c there
    rcases columnsOf_setMedia_cases there with ⟨rfl, -⟩ | ⟨-, before⟩
    · exact Nat.lt_succ_of_lt (inv.rows other _ (columnsOf_found found))
    · exact Nat.lt_succ_of_lt (inv.rows other c before)
  drawn := fun ownerToken reservation known =>
    Nat.lt_succ_of_lt (inv.drawn ownerToken reservation known)
  taken := by
    intro other reservation known live
    obtain ⟨c, before, taken⟩ := inv.taken other reservation known live
    by_cases same : reservation.mediaId = m
    · refine ⟨storageColumns (reservedMedia db.now db.fresh row), ?_, ?_⟩
      · exact (columnsOf_setMedia db m _ _).trans (if_pos same)
      rw [same, columnsOf_found found] at before
      cases before
      refine ⟨taken.1, fun current => ?_⟩
      rcases taken.2 current with closed | owned
      · exact absurd pending closed
      · rw [show (storageColumns row).storageToken = row.storageToken from rfl, free] at owned
        cases owned
    · exact ⟨c, ((columnsOf_setMedia db m _ _).trans (if_neg same)).trans before, taken⟩
  single := inv.single
  bound := by
    intro other reservation n c known there shown
    rcases columnsOf_setMedia_cases there with ⟨-, rfl⟩ | ⟨-, before⟩
    · cases shown
      exact absurd (inv.drawn _ _ known) (lt_irrefl _)
    · exact inv.bound other reservation n c known before shown
  enqueued := fun _ _ there => inv.reached found rfl there

/-- The reservation enters the record. No live one has its generation. -/
theorem Reserved.grant (inv : Reserved db reservations) {m ownerToken token : Uuid}
    {c : StorageColumns} (new : reservations.get ownerToken = none)
    (found : columnsOf db m = some c) (held : c.storageToken = some ownerToken)
    (only : ∀ n c', columnsOf db n = some c' → c'.storageToken = some ownerToken → n = m) :
    Reserved db (reservations.set ownerToken ⟨m, c.storageGeneration, token, .unsent⟩) where
  held := inv.held
  rows := inv.rows
  drawn := by
    intro other reservation known
    rcases Table.get_set_cases known with ⟨rfl, -⟩ | ⟨-, before⟩
    · exact (inv.held m c other found held).2
    · exact inv.drawn other reservation before
  taken := by
    intro other reservation known live
    rcases Table.get_set_cases known with ⟨rfl, rfl⟩ | ⟨-, before⟩
    · exact ⟨c, found, le_rfl, fun _ => Or.inr held⟩
    · exact inv.taken other reservation before live
  single := by
    have lone : ∀ other reservation, reservations.get other = some reservation →
        reservation.Live → reservation.mediaId = m →
        reservation.generation ≠ c.storageGeneration := by
      intro other reservation known live same current
      obtain ⟨c', there, -, taken⟩ := inv.taken other reservation known live
      rw [same, found] at there
      cases there
      rcases taken current.symm with closed | owned
      · exact closed (inv.held m c ownerToken found held).1
      · rw [held] at owned
        cases owned
        rw [new] at known
        cases known
    intro first second one other knownOne knownOther liveOne liveOther media generation
    rcases Table.get_set_cases knownOne with ⟨rfl, rfl⟩ | ⟨-, beforeOne⟩
    · rcases Table.get_set_cases knownOther with ⟨rfl, -⟩ | ⟨-, beforeOther⟩
      · rfl
      · exact absurd generation.symm (lone second other beforeOther liveOther media.symm)
    · rcases Table.get_set_cases knownOther with ⟨rfl, rfl⟩ | ⟨-, beforeOther⟩
      · exact absurd generation (lone first one beforeOne liveOne media)
      · exact inv.single first second one other beforeOne beforeOther liveOne liveOther media
          generation
  bound := by
    intro other reservation n c' known there shown
    rcases Table.get_set_cases known with ⟨rfl, rfl⟩ | ⟨-, before⟩
    · have same := only n c' there shown
      rw [same, found] at there
      cases there
      exact ⟨same, rfl⟩
    · exact inv.bound other reservation n c' before there shown
  enqueued := inv.enqueued

/-- A reservation moves on; none comes back to life. -/
theorem Reserved.note (inv : Reserved db reservations) {ownerToken : Uuid}
    {reservation : Reservation} {state : ReservationState}
    (known : reservations.get ownerToken = some reservation)
    (calm : Reservation.Live { reservation with state := state } → reservation.Live) :
    Reserved db (reservations.set ownerToken { reservation with state := state }) := by
  have back : ∀ other moved,
      (reservations.set ownerToken { reservation with state := state }).get other = some moved →
      ∃ old, reservations.get other = some old ∧ moved.mediaId = old.mediaId ∧
        moved.generation = old.generation ∧ (moved.Live → old.Live) := by
    intro other moved there
    rcases Table.get_set_cases there with ⟨rfl, rfl⟩ | ⟨-, before⟩
    · exact ⟨reservation, known, rfl, rfl, calm⟩
    · exact ⟨moved, before, rfl, rfl, id⟩
  constructor
  case held => exact inv.held
  case rows => exact inv.rows
  case drawn =>
    intro other moved there
    obtain ⟨old, before, -⟩ := back other moved there
    exact inv.drawn other old before
  case taken =>
    intro other moved there live
    obtain ⟨old, before, media, generation, lives⟩ := back other moved there
    rw [media, generation]
    exact inv.taken other old before (lives live)
  case single =>
    intro first second one other thereOne thereOther liveOne liveOther media generation
    obtain ⟨old, before, mediaOne, generationOne, livesOne⟩ := back first one thereOne
    obtain ⟨old', before', mediaOther, generationOther, livesOther⟩ := back second other thereOther
    apply inv.single first second old old' before before' (livesOne liveOne) (livesOther liveOther)
    · rw [← mediaOne, media, mediaOther]
    · rw [← generationOne, generation, generationOther]
  case bound =>
    intro other moved n c there found shown
    obtain ⟨old, before, media, generation, -⟩ := back other moved there
    rw [media, generation]
    exact inv.bound other old n c before found shown
  case enqueued => exact inv.enqueued

/-- A row is inserted under an identifier that no row has. -/
theorem Reserved.create (inv : Reserved db reservations) {media : Media}
    (columns : storageColumns media = .inserted) :
    Reserved { setMedia db db.fresh media with fresh := db.fresh + 1 } reservations where
  held := by
    intro m c token there shown
    rcases columnsOf_setMedia_cases there with ⟨-, rfl⟩ | ⟨-, before⟩
    · rw [columns] at shown
      cases shown
    · obtain ⟨pending, drawn⟩ := inv.held m c token before shown
      exact ⟨pending, Nat.lt_succ_of_lt drawn⟩
  rows := by
    intro m c there
    rcases columnsOf_setMedia_cases there with ⟨rfl, -⟩ | ⟨-, before⟩
    · exact Nat.lt_succ_self _
    · exact Nat.lt_succ_of_lt (inv.rows m c before)
  drawn := fun ownerToken reservation known =>
    Nat.lt_succ_of_lt (inv.drawn ownerToken reservation known)
  taken := by
    intro ownerToken reservation known live
    obtain ⟨c, before, taken⟩ := inv.taken ownerToken reservation known live
    have old : reservation.mediaId ≠ db.fresh := ne_of_lt (inv.rows _ c before)
    exact ⟨c, ((columnsOf_setMedia db _ _ _).trans (if_neg old)).trans before, taken⟩
  single := inv.single
  bound := by
    intro ownerToken reservation m c known there shown
    rcases columnsOf_setMedia_cases there with ⟨-, rfl⟩ | ⟨-, before⟩
    · rw [columns] at shown
      cases shown
    · exact inv.bound ownerToken reservation m c known before shown
  enqueued := by
    intro m generation there
    obtain ⟨c, before, reached⟩ := inv.enqueued m generation there
    have old : m ≠ db.fresh := ne_of_lt (inv.rows m c before)
    exact ⟨c, ((columnsOf_setMedia db _ _ _).trans (if_neg old)).trans before, reached⟩

end Rows

section Attempts
variable {attempts : Table Uuid Attempt} {reservations : Table Uuid Reservation}
  {token : Uuid} {attempt : Attempt}

/-- The attempt moves on with its reservation or without one. -/
theorem Working.set (inv : Working attempts reservations) {moved : Attempt}
    (goes : ∀ ownerToken, moved.phase.owner = some ownerToken →
      ∃ reservation, reservations.get ownerToken = some reservation ∧
        reservation.attempt = token ∧ reservation.mediaId = moved.mediaId ∧
        reservation.generation = moved.generation ∧
        moved.phase.expects reservation.state = true) :
    Working (attempts.set token moved) reservations := by
  intro other found ownerToken there owns
  rcases Table.get_set_cases there with ⟨rfl, rfl⟩ | ⟨-, before⟩
  · exact goes ownerToken owns
  · exact inv other found ownerToken before owns

theorem Working.free (inv : Working attempts reservations) {moved : Attempt}
    (none : moved.phase.owner = none) : Working (attempts.set token moved) reservations :=
  inv.set (fun ownerToken owns => by rw [none] at owns; cases owns)

theorem Working.remove (inv : Working attempts reservations) (token : Uuid) :
    Working (attempts.remove token) reservations := by
  intro other found ownerToken there owns
  rw [Table.get_remove] at there
  split at there
  · cases there
  · exact inv other found ownerToken there owns

/-- The attempt moves on and its reservation with it. -/
theorem Working.note (inv : Working attempts reservations) {ownerToken : Uuid}
    {reservation : Reservation} {state : ReservationState} {moved : Attempt}
    (known : reservations.get ownerToken = some reservation) (granted : reservation.attempt = token)
    (media : reservation.mediaId = moved.mediaId)
    (generation : reservation.generation = moved.generation)
    (owns : moved.phase.owner = some ownerToken) (expects : moved.phase.expects state = true) :
    Working (attempts.set token moved)
      (reservations.set ownerToken { reservation with state := state }) := by
  intro other found held there holds
  rcases Table.get_set_cases there with ⟨rfl, rfl⟩ | ⟨apart, before⟩
  · rw [owns] at holds
    cases holds
    exact ⟨_, Table.get_set_self _ _ _, granted, media, generation, expects⟩
  · obtain ⟨old, present, grantee, rest⟩ := inv other found held before holds
    have differs : held ≠ ownerToken := by
      intro same
      rw [same, known] at present
      cases present
      exact apart (grantee.symm.trans granted)
    exact ⟨old, (Table.get_set_ne _ _ differs).trans present, grantee, rest⟩

/-- A reservation is granted to the attempt under a new token. -/
theorem Working.grant (inv : Working attempts reservations) {ownerToken : Uuid}
    (metadata : StorageCaptionMetadata) (new : reservations.get ownerToken = none) :
    Working (attempts.set token { attempt with phase := .reserved ownerToken metadata })
      (reservations.set ownerToken ⟨attempt.mediaId, attempt.generation, token, .unsent⟩) := by
  intro other found held there holds
  rcases Table.get_set_cases there with ⟨rfl, rfl⟩ | ⟨-, before⟩
  · cases holds
    exact ⟨_, Table.get_set_self _ _ _, rfl, rfl, rfl, rfl⟩
  · obtain ⟨old, present, rest⟩ := inv other found held before holds
    have differs : held ≠ ownerToken := by
      intro same
      rw [same, new] at present
      cases present
    exact ⟨old, (Table.get_set_ne _ _ differs).trans present, rest⟩

end Attempts

section Steps
variable {w w' : World} {act : Action} {token : Uuid} {attempt : Attempt}

structure Guarded (w : World) : Prop where
  reserved : Reserved w.db w.reservations
  working : Working w.attempts w.reservations

theorem conclude_owner (attempt : Attempt) (error : StorageUploadError) :
    (attempt.conclude error).owner = none := by
  unfold Attempt.conclude
  split <;> try rfl
  split <;> rfl

theorem afterFind_owner (attempt : Attempt) (row : Option Media) :
    (attempt.afterFind row).owner = none := by
  cases row with
  | none => exact conclude_owner attempt (.mediaMissing attempt.mediaId)
  | some row => rfl

theorem afterReceipt_owner (attempt : Attempt) (row : Media)
    (answer : Except Error (Option StorageReceipt)) : (attempt.afterReceipt row answer).owner = none := by
  unfold Attempt.afterReceipt
  split
  · rfl
  · rfl
  · exact conclude_owner _ _

theorem afterRelease_owner (attempt : Attempt) (error : StorageUploadError) (ignored : Bool)
    (answer : Except Error Unit) : (attempt.afterRelease error ignored answer).owner = none := by
  unfold Attempt.afterRelease
  split <;> exact conclude_owner _ _

theorem afterMark_owner (attempt : Attempt) (error : StorageUploadError)
    (answer : Except Error Unit) : (attempt.afterMark error answer).owner = none := by
  unfold Attempt.afterMark
  split <;> exact conclude_owner _ _

theorem afterStored_owner (answer : Except Inbox.Error Unit) :
    (Attempt.afterStored answer).owner = none := by
  unfold Attempt.afterStored
  split <;> rfl

theorem afterFailure_owner (attempt : Attempt) (error : StorageUploadError)
    (answer : Except Inbox.Error Unit) : (attempt.afterFailure error answer).owner = none := by
  unfold Attempt.afterFailure
  split <;> rfl

/-- A reservation that is answered with anything but a grant names no token. -/
theorem afterReserve_cases (attempt : Attempt) (answer : Except Error StorageUploadReservation) :
    (∃ ownerToken metadata, answer = .ok (.reserved ownerToken metadata) ∧
      attempt.afterReserve answer = .reserved ownerToken metadata) ∨
    (attempt.afterReserve answer).owner = none := by
  unfold Attempt.afterReserve
  split
  · rename_i ownerToken metadata
    exact Or.inl ⟨ownerToken, metadata, rfl, rfl⟩
  · exact Or.inr rfl
  all_goals exact Or.inr (conclude_owner _ _)

theorem read_owner {α : Type} (outcome : CallOutcome) (value : α) (lost : Phase) (next : α → Phase)
    (lostFree : lost.owner = none) (free : ∀ value, (next value).owner = none) :
    (afterRead outcome value lost next).owner = none := by
  cases outcome with
  | answered => exact free value
  | notApplied => exact lostFree
  | answerLost => exact lostFree

/-- A call leads where its answer, or its missing one, does. -/
theorem conclude_phase {ε α : Type} {db db' : Db} {outcome : CallOutcome} {lost : ε}
    {result : Except ε (Db × α)} {next : Except ε α → Phase} {phase : Phase}
    (h : outcome.conclude db lost result next = (db', phase)) : ∃ answer, phase = next answer := by
  rcases outcome.conclude_cases db lost result next with ⟨error, same⟩ | ⟨t, answer, ok, same | same⟩
  all_goals
    rw [same] at h
    cases h
    exact ⟨_, rfl⟩

/-- What the rows and the reservations know of each other survives every step. -/
theorem Guarded.moved (inv : Guarded w) (move : Move w act w'.db) :
    Reserved w'.db w.reservations := by
  cases move with
  | shifted shifts => exact inv.reserved.settles shifts.advances
  | reserved _ _ _ row _ _ _ there pending _ free written =>
    rw [written]
    exact inv.reserved.reserve there pending free
  | released token _ attempt ownerToken error ignored row _ found waits there held written =>
    obtain ⟨reservation, known, -, -, -, state⟩ :=
      inv.working token attempt ownerToken found (by rw [waits]; rfl)
    have dead : ¬ reservation.Live := by
      rw [waits] at state
      unfold Reservation.Live
      cases kind : reservation.state <;> rw [kind] at state <;> simp [Phase.expects] at state ⊢
    rw [written]
    exact inv.reserved.release known dead there held
  | created media _ columns written =>
    rw [written]
    exact inv.reserved.create columns

/-- The attempt moves on with the reservation it had or without one. -/
theorem Guarded.advance (inv : Guarded w) {db : Db} {phase : Phase}
    (found : w.attempts.get token = some attempt) (reserved : Reserved db w.reservations)
    (goes : phase.owner = none ∨ (phase.owner = attempt.phase.owner ∧
      ∀ state, attempt.phase.expects state = true → phase.expects state = true)) :
    Guarded (w.advance token attempt db phase) where
  reserved := reserved
  working := by
    rcases goes with none | ⟨same, expects⟩
    · exact inv.working.free none
    · refine inv.working.set (fun ownerToken owns => ?_)
      obtain ⟨reservation, known, granted, media, generation, state⟩ :=
        inv.working token attempt ownerToken found (same.symm.trans owns)
      exact ⟨reservation, known, granted, media, generation, expects _ state⟩

/-- The attempt takes its reservation to a new state. -/
theorem Guarded.note (inv : Guarded w) (found : w.attempts.get token = some attempt)
    {ownerToken : Uuid} (owns : attempt.phase.owner = some ownerToken) {phase : Phase}
    {state : ReservationState} (keeps : phase.owner = some ownerToken)
    (expects : phase.expects state = true)
    (calm : ∀ before : ReservationState, attempt.phase.expects before = true →
      (state = .unsent ∨ state = .sent) → (before = .unsent ∨ before = .sent)) :
    Guarded { w.advance token attempt w.db phase with
      reservations := w.noted ownerToken state } := by
  obtain ⟨reservation, known, granted, media, generation, before⟩ :=
    inv.working token attempt ownerToken found owns
  have noted : w.noted ownerToken state =
      w.reservations.set ownerToken { reservation with state := state } := by
    simp only [World.noted, known]
  rw [noted]
  exact ⟨inv.reserved.note known (calm reservation.state before),
    inv.working.note known granted media generation keeps expects⟩

theorem reserving_same {phase : Phase} (other : attempt.phase ≠ .reserving ∨ phase.owner = none) :
    reserving w token attempt phase = w.reservations := by
  unfold reserving
  split
  · rename_i ownerToken metadata waits
    rcases other with elsewhere | free
    · exact absurd waits elsewhere
    · cases free
  · rfl

/-- A reservation call: the grant enters the record with its answer. -/
theorem Guarded.call_reserve (inv : Guarded w) (found : w.attempts.get token = some attempt)
    (waits : attempt.phase = .reserving) {outcome : CallOutcome} {db : Db} {phase : Phase}
    (reserved : Reserved db w.reservations)
    (h : outcome.conclude w.db .database
      (reserveStorageUpload w.db attempt.mediaId attempt.generation) attempt.afterReserve =
        (db, phase)) :
    Guarded { w.advance token attempt db phase with
      reservations := reserving w token attempt phase } := by
  have kept : phase.owner = none → Guarded { w.advance token attempt db phase with
      reservations := reserving w token attempt phase } := by
    intro free
    rw [reserving_same (Or.inr free)]
    exact inv.advance found reserved (Or.inl free)
  have lost : ∀ error, (attempt.afterReserve (.error error)).owner = none :=
    fun error => conclude_owner attempt (persistenceError error)
  rcases outcome.conclude_cases w.db .database
      (reserveStorageUpload w.db attempt.mediaId attempt.generation) attempt.afterReserve with
    ⟨error, same⟩ | ⟨t, answer, ok, same | same⟩
  · rw [same] at h
    cases h
    exact kept (lost error)
  · rw [same] at h
    cases h
    rcases reserveStorageUpload_ok ok with ⟨rfl, refused⟩ |
      ⟨row, present, pending, current, free, rfl, rfl⟩
    · rcases afterReserve_cases attempt (.ok answer) with ⟨ownerToken, metadata, granted, -⟩ | none
      · cases granted
        exact absurd rfl (refused ownerToken metadata)
      · exact kept none
    · have new : w.reservations.get w.db.fresh = none := by
        cases known : w.reservations.get w.db.fresh with
        | none => rfl
        | some reservation => exact absurd (inv.reserved.drawn _ _ known) (lt_irrefl _)
      have only : ∀ n c', columnsOf { setMedia w.db attempt.mediaId
            (reservedMedia w.db.now w.db.fresh row) with fresh := w.db.fresh + 1 } n = some c' →
          c'.storageToken = some w.db.fresh → n = attempt.mediaId := by
        intro n c' there shown
        rcases columnsOf_setMedia_cases there with ⟨same, -⟩ | ⟨-, before⟩
        · exact same
        · exact absurd (inv.reserved.held n c' _ before shown).2 (lt_irrefl _)
      have columns : columnsOf { setMedia w.db attempt.mediaId
            (reservedMedia w.db.now w.db.fresh row) with fresh := w.db.fresh + 1 } attempt.mediaId =
          some (storageColumns (reservedMedia w.db.now w.db.fresh row)) :=
        (columnsOf_setMedia _ _ _ _).trans (if_pos rfl)
      have granted : Reserved _ (w.reservations.set w.db.fresh
          ⟨attempt.mediaId, row.storageGeneration, token, .unsent⟩) :=
        reserved.grant new columns rfl only
      rw [current] at granted
      rw [show reserving w token attempt (attempt.afterReserve
          (.ok (.reserved w.db.fresh (captionMetadataOf row)))) =
        w.reservations.set w.db.fresh ⟨attempt.mediaId, attempt.generation, token, .unsent⟩ by
          unfold reserving
          rw [waits]
          rfl]
      exact ⟨granted, inv.working.grant _ new⟩
  · rw [same] at h
    cases h
    exact kept (lost _)

theorem Guarded.call (inv : Guarded w) (found : w.attempts.get token = some attempt)
    {outcome : CallOutcome} {db : Db} {phase : Phase} (reserved : Reserved db w.reservations)
    (h : attempt.call w.db outcome = some (db, phase)) :
    Guarded { w.advance token attempt db phase with
      reservations := reserving w token attempt phase } := by
  by_cases waits : attempt.phase = .reserving
  · rw [Attempt.call, waits] at h
    exact inv.call_reserve found waits reserved (Option.some.inj h)
  · rw [reserving_same (Or.inl waits)]
    apply inv.advance found reserved
    unfold Attempt.call at h
    split at h
    · cases h
      exact Or.inl (read_owner _ _ _ _ (conclude_owner _ _) (afterFind_owner _))
    · cases h
      exact Or.inl (read_owner _ _ _ _ (conclude_owner _ _) (afterReceipt_owner _ _))
    · rename_i here
      exact absurd here waits
    · rename_i ownerToken attachment completes
      obtain ⟨answer, rfl⟩ := conclude_phase (Option.some.inj h)
      unfold Attempt.afterCompletion
      split
      · exact Or.inl rfl
      all_goals
        rw [completes]
        exact Or.inr ⟨rfl, fun _ sent => sent⟩
    · obtain ⟨answer, rfl⟩ := conclude_phase (Option.some.inj h)
      exact Or.inl (afterRelease_owner _ _ _ _)
    · obtain ⟨answer, rfl⟩ := conclude_phase (Option.some.inj h)
      exact Or.inl (afterMark_owner _ _ _)
    · obtain ⟨answer, rfl⟩ := conclude_phase (Option.some.inj h)
      exact Or.inl (afterStored_owner _)
    · obtain ⟨answer, rfl⟩ := conclude_phase (Option.some.inj h)
      exact Or.inl (afterFailure_owner _ _ _)
    · cases h

theorem Guarded.stageFails (inv : Guarded w) (found : w.attempts.get token = some attempt)
    {error : StorageUploadError} (h : stageFails w token attempt error = some w') : Guarded w' := by
  unfold Storage.stageFails at h
  split at h
  · rename_i ownerToken metadata waits
    split at h
    · cases h
      exact inv.note found (by rw [waits]; rfl) rfl rfl
        (fun _ _ lives => by rcases lives with same | same <;> cases same)
    · cases h
  · cases h

theorem Guarded.cancel (inv : Guarded w) (found : w.attempts.get token = some attempt)
    {outcome : CallOutcome} (reserved : Reserved w'.db w.reservations)
    (h : cancel w token attempt outcome = some w') : Guarded w' := by
  unfold Storage.cancel at h
  split at h
  · rename_i ownerToken metadata waits
    cases h
    exact inv.note found (by rw [waits]; rfl) rfl rfl
      (fun _ _ lives => by rcases lives with same | same <;> cases same)
  · rename_i ownerToken metadata waits
    cases h
    apply inv.advance found reserved
    rw [waits]
    exact Or.inr ⟨rfl, fun _ sent => sent⟩
  · rename_i ownerToken attachment waits
    cases h
    apply inv.advance found reserved
    rw [waits]
    exact Or.inr ⟨rfl, fun _ sent => sent⟩
  · cases h

theorem Guarded.dispatch (inv : Guarded w) (found : w.attempts.get token = some attempt)
    (h : dispatch w token attempt = some w') : Guarded w' := by
  unfold Storage.dispatch at h
  split at h
  · rename_i ownerToken metadata waits
    cases h
    refine inv.note found (by rw [waits]; rfl) rfl rfl (fun before expected _ => ?_)
    rw [waits] at expected
    exact Or.inl (eq_of_beq expected)
  · cases h

theorem Guarded.answer (inv : Guarded w) (found : w.attempts.get token = some attempt)
    {response : Response} (h : answer w token attempt response = some w') : Guarded w' := by
  unfold Storage.answer at h
  split at h
  · rename_i ownerToken metadata waits
    split at h
    · cases h
      apply inv.advance found inv.reserved
      rw [waits]
      exact Or.inr ⟨rfl, fun _ sent => sent⟩
    · cases h
      apply inv.advance found inv.reserved
      rw [waits]
      exact Or.inr ⟨rfl, fun _ sent => sent⟩
    · cases h
      exact inv.note found (by rw [waits]; rfl) rfl rfl
        (fun _ _ lives => by rcases lives with same | same <;> cases same)
  · cases h

theorem Guarded.renew (inv : Guarded w) (found : w.attempts.get token = some attempt)
    {outcome : CallOutcome} {db : Db} {phase : Phase} (reserved : Reserved db w.reservations)
    (h : attempt.renew w.db outcome = some (db, phase)) :
    Guarded (w.advance token attempt db phase) := by
  unfold Attempt.renew at h
  split at h
  · rename_i ownerToken metadata waits
    apply inv.advance found reserved
    obtain ⟨answer, rfl⟩ := conclude_phase (Option.some.inj h)
    rw [waits]
    unfold Attempt.afterRenewal
    split <;> exact Or.inr ⟨rfl, fun _ sent => sent⟩
  · cases h

theorem Guarded.claim (inv : Guarded w) {worker : String} {leaseDuration : Time} {key : JobKey}
    (reserved : Reserved w'.db w.reservations)
    (h : claimJob w worker leaseDuration key = some w') : Guarded w' := by
  unfold claimJob at h
  split at h
  · split at h
    · cases h
      exact ⟨reserved, inv.working.free rfl⟩
    · cases h
  · cases h

theorem check_owner {fault : Option StorageUploadError} {phase : Phase}
    (h : attempt.check fault = some phase) : phase.owner = none := by
  unfold Attempt.check at h
  split at h
  · split at h <;> cases h
    cases fault with
    | none => rfl
    | some error => exact conclude_owner attempt error
  · cases h

theorem Guarded.step (inv : Guarded w) (h : step w act = some w') : Guarded w' := by
  have reserved := inv.moved (step_move h)
  cases act with
  | claimJob worker leaseDuration key => exact inv.claim reserved h
  | heartbeat token leaseDuration =>
    simp only [Storage.step, Option.bind_eq_bind, Option.bind_eq_some_iff] at h
    obtain ⟨attempt, -, h⟩ := h
    split at h <;> cases h <;> exact ⟨reserved, inv.working⟩
  | call token outcome =>
    simp only [Storage.step, Option.bind_eq_bind, Option.bind_eq_some_iff, Option.some.injEq] at h
    obtain ⟨attempt, found, ⟨db, phase⟩, called, rfl⟩ := h
    exact inv.call found reserved called
  | check token fault =>
    simp only [Storage.step, Option.bind_eq_bind, Option.bind_eq_some_iff, Option.some.injEq] at h
    obtain ⟨attempt, found, phase, checked, rfl⟩ := h
    exact inv.advance found reserved (Or.inl (check_owner checked))
  | stageFails token error =>
    simp only [Storage.step, Option.bind_eq_bind, Option.bind_eq_some_iff] at h
    obtain ⟨attempt, found, h⟩ := h
    exact inv.stageFails found h
  | cancel token outcome =>
    simp only [Storage.step, Option.bind_eq_bind, Option.bind_eq_some_iff] at h
    obtain ⟨attempt, found, h⟩ := h
    exact inv.cancel found reserved h
  | dispatch token =>
    simp only [Storage.step, Option.bind_eq_bind, Option.bind_eq_some_iff] at h
    obtain ⟨attempt, found, h⟩ := h
    exact inv.dispatch found h
  | renew token outcome =>
    simp only [Storage.step, Option.bind_eq_bind, Option.bind_eq_some_iff, Option.some.injEq] at h
    obtain ⟨attempt, found, ⟨db, phase⟩, renewed, rfl⟩ := h
    exact inv.renew found reserved renewed
  | answer token response =>
    simp only [Storage.step, Option.bind_eq_bind, Option.bind_eq_some_iff] at h
    obtain ⟨attempt, found, h⟩ := h
    exact inv.answer found h
  | finish token heartbeatLost outcome =>
    simp only [Storage.step, Option.bind_eq_bind, Option.bind_eq_some_iff, Option.some.injEq] at h
    obtain ⟨attempt, -, db, -, rfl⟩ := h
    exact ⟨reserved, inv.working.remove token⟩
  | crash token =>
    simp only [Storage.step, Option.bind_eq_bind, Option.bind_eq_some_iff, Option.some.injEq] at h
    obtain ⟨attempt, -, rfl⟩ := h
    exact ⟨reserved, inv.working.remove token⟩
  | prune key cutoff =>
    simp only [Storage.step, Option.bind_eq_bind, Option.bind_eq_some_iff, Option.some.injEq] at h
    obtain ⟨db, -, rfl⟩ := h
    exact ⟨reserved, inv.working⟩
  | createMedia media | editMedia id media | enqueueUpload mediaId generation | putForeignJob job
  | deleteForeignJob key =>
    simp only [Storage.step] at h
    split at h <;> cases h
    exact ⟨reserved, inv.working⟩
  | recover id expected | markUnknown mediaId force | reset mediaId | attach mediaId generation attachment
  | tick elapsed | setIngest id ingest | drawUuid =>
    cases h
    exact ⟨reserved, inv.working⟩

theorem guarded_initial : Guarded initial := by
  have noRow : ∀ m c, columnsOf initial.db m ≠ some c := by
    intro m c found
    cases found
  refine ⟨⟨fun m c _ found => absurd found (noRow m c), fun m c found => absurd found (noRow m c),
    ?_, ?_, ?_, fun _ _ m c _ found => absurd found (noRow m c), ?_⟩, ?_⟩
  · intro _ _ known
    cases known
  · intro _ _ known
    cases known
  · intro _ _ _ _ known
    cases known
  · intro _ _ there
    cases there
  · intro _ _ _ found
    cases found

theorem guarded_run {acts : List Action} (run : Run step Unrestricted initial acts w) : Guarded w :=
  run_invariant Guarded (fun inv _ taken => inv.step taken) guarded_initial run

/-- Two uploads of one generation that Telegram has not refused are the same. -/
theorem dispatched_once {acts : List Action} (run : Run step Unrestricted initial acts w)
    {first second : Uuid} {one other : Reservation} (knownOne : w.reservations.get first = some one)
    (knownOther : w.reservations.get second = some other) (sentOne : one.state = .sent)
    (sentOther : other.state = .sent) (media : one.mediaId = other.mediaId)
    (generation : one.generation = other.generation) : first = second :=
  (guarded_run run).reserved.single first second one other knownOne knownOther (Or.inr sentOne)
    (Or.inr sentOther) media generation

end Steps

section Retirement
variable {w w' : World} {act : Action} {m : Uuid} {generation : Nat}

/-- The row has passed this generation, or closed it. -/
def Retired (db : Db) (m : Uuid) (generation : Nat) : Prop :=
  ∃ c, columnsOf db m = some c ∧ generation ≤ c.storageGeneration ∧
    (c.storageGeneration = generation → c.storageState ≠ .pending)

/-- A pending row that is rewritten in its generation. -/
theorem Retired.rewrite {db : Db} {n : Uuid} {row row' : Media}
    (retired : Retired db n generation) (found : db.media.get m = some row)
    (pending : row.storageState = .pending)
    (same : row'.storageGeneration = row.storageGeneration) :
    Retired (setMedia db m row') n generation := by
  obtain ⟨c, there, reached, closed⟩ := retired
  by_cases here : n = m
  · subst here
    rw [columnsOf_found found] at there
    cases there
    refine ⟨storageColumns row', (columnsOf_setMedia _ _ _ _).trans (if_pos rfl),
      le_of_le_of_eq reached same.symm, fun current => ?_⟩
    exact absurd pending (closed (same.symm.trans current))
  · exact ⟨c, ((columnsOf_setMedia _ _ _ _).trans (if_neg here)).trans there, reached, closed⟩

/-- A closed generation stays closed: only a release brings a row back to
    `pending_storage` in its generation, and the row it releases was pending. -/
theorem Retired.step (retired : Retired w.db m generation) (inv : Guarded w)
    (h : step w act = some w') : Retired w'.db m generation := by
  cases step_move h with
  | shifted shifts =>
    obtain ⟨c, found, reached, closed⟩ := retired
    obtain ⟨c', after, advances⟩ := shifts.advances.forth found
    refine ⟨c', after, le_trans reached advances.generation, fun current => ?_⟩
    rcases advances with ⟨same, state, -⟩ | ⟨-, left, -⟩ | ⟨later, -⟩
    · rw [state]
      exact closed (same ▸ current)
    · exact left
    · omega
  | reserved _ _ _ row _ _ _ there pending _ _ written =>
    rw [written]
    exact retired.rewrite there pending rfl
  | released _ _ _ ownerToken _ _ row _ _ _ there held written =>
    rw [written]
    have pending := (inv.reserved.held _ _ ownerToken (columnsOf_found there) held).1
    exact retired.rewrite there pending rfl
  | created media _ _ written =>
    rw [written]
    obtain ⟨c, found, rest⟩ := retired
    have old : m ≠ w.db.fresh := ne_of_lt (inv.reserved.rows m c found)
    exact ⟨c, ((columnsOf_setMedia _ _ _ _).trans (if_neg old)).trans found, rest⟩

theorem Retired.run (retired : Retired w.db m generation) (inv : Guarded w) {acts : List Action}
    (run : Run Storage.step Unrestricted w acts w') : Retired w'.db m generation :=
  (run_invariant (fun s => Guarded s ∧ Retired s.db m generation)
    (fun both _ taken => ⟨both.1.step taken, both.2.step both.1 taken⟩) ⟨inv, retired⟩ run).2

/-- No upload of a closed generation is reserved. -/
theorem Retired.refused {db db' : Db} {answer : StorageUploadReservation}
    (retired : Retired db m generation)
    (h : reserveStorageUpload db m generation = .ok (db', answer)) (ownerToken : Uuid)
    (metadata : StorageCaptionMetadata) : answer ≠ .reserved ownerToken metadata := by
  rcases reserveStorageUpload_ok h with ⟨-, refused⟩ | ⟨row, found, pending, current, -⟩
  · exact refused ownerToken metadata
  · obtain ⟨c, there, -, closed⟩ := retired
    rw [columnsOf_found found] at there
    cases there
    exact absurd pending (closed current)

/-- The job of an upload is pruned once its generation is closed. -/
theorem Guarded.retires (inv : Guarded w) {cutoff : Time} {db : Db}
    (h : prune w.db (.uploadStorage m generation) cutoff = some db) : Retired w.db m generation := by
  unfold prune at h
  split at h
  · rename_i other _ job same found
    cases same
    split at h
    · rename_i eligible
      simp only [Bool.and_eq_true] at eligible
      have resolved := eligible.2
      obtain ⟨c, there, reached⟩ := inv.reserved.enqueued m generation (by rw [found]; rfl)
      refine ⟨c, there, reached, fun _ pending => ?_⟩
      obtain ⟨row, present, rfl⟩ := columnsOf_some.mp there
      have waiting : row.storageState = .pending := pending
      simp [uploadJobRetentionEligible, present, waiting] at resolved
    · cases h
  · cases h

end Retirement

end Sooqa.Storage
