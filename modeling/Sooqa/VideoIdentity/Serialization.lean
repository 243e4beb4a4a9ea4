import Sooqa.VideoIdentity.MediaBytes

/-!
Why identities are decided one after the other. At most one session has the
advisory lock, so the candidates a session has read are the videos there are
until it commits; the second of two videos that are strong duplicates of each
other finds the first one and is held back.
-/
namespace Sooqa.VideoIdentity
open Foundation Queue Media

section Alone
variable {w : World} {token : Uuid} {s : Session} {decision : VideoIdentityDecision}

/-- A completion that nobody comes between is the atomic one. -/
theorem completed_alone (found : w.sessions.get token = some s)
    (decided : s.phase = .decided decision) :
    ∃ v, step w (.check token) = some v ∧ ((step v (.insert token)).getD v).db =
      committed w.db (Inbox.completeVideoIdentity w.db s.ingestId s.lease s.media s.fingerprint
        decision.summary) := by
  have checks (db : Db) (phase : Phase) (checked : s.checked w.db = some (db, phase)) :
      step w (.check token) = some (w.advance token s db phase) := by
    simp only [step, Option.bind_eq_bind, found, checked, Option.bind_some]
  have closed (db : Db) : ((step (w.advance token s db .closing) (.insert token)).getD
      (w.advance token s db .closing)).db = db := by
    simp only [step, World.advance, Table.get_set_self, Option.bind_eq_bind, Option.bind_some,
      Option.getD_none]
  unfold Session.checked at checks
  rw [decided] at checks
  dsimp only at checks
  unfold Inbox.completeVideoIdentity
  cases loaded : Inbox.loadRequest w.db s.ingestId with
  | error e =>
    rw [loaded] at checks
    exact ⟨_, checks _ _ rfl, closed _⟩
  | ok request =>
    rw [loaded] at checks
    rw [bind_ok_eq]
    dsimp only at checks
    split at checks
    · rename_i stopped
      rw [if_pos stopped]
      exact ⟨_, checks _ _ rfl, closed _⟩
    · rename_i going
      rw [if_neg going]
      cases persisted : Library.persistVideoIdentity w.db s.media s.fingerprint decision.summary
          request.forceSave with
      | error e =>
        rw [persisted] at checks
        exact ⟨_, checks _ _ rfl, closed _⟩
      | ok pair =>
        obtain ⟨identified, outcome⟩ := pair
        rw [persisted] at checks
        rw [Inbox.liftLibrary, bind_ok_eq]
        cases outcome with
        | newMedia mediaId =>
          refine ⟨_, checks _ _ rfl, ?_⟩
          obtain ⟨absent, rfl, rfl⟩ := persistVideoIdentity_new persisted
          simp only [step, World.advance, Table.get_set_self, Option.bind_eq_bind,
            Option.bind_some, Option.getD_some, World.insert, absent]
          generalize finished : Session.finish _ _ _ _ = result
          have same : s.finish (Library.insertMedia w.db s.media) request
              (.newMedia w.db.fresh) = result := finished
          show _ = committed w.db (s.finish (Library.insertMedia w.db s.media) request
            (.newMedia w.db.fresh))
          rw [same]
          cases result <;> rfl
        | duplicatePending evidence => exact ⟨_, checks _ _ rfl, closed _⟩
        | exactDuplicate mediaId => exact ⟨_, checks _ _ rfl, closed _⟩

end Alone

section Steps
variable {w w' : World} {act : Action} {token : Uuid} {s : Session}

/-- What a step does to the media rows and their fingerprints. -/
inductive Writes (w : World) (act : Action) (w' : World) : Prop where
  | kept (rows : KeepsBytes w.db w'.db) (columns : w'.fingerprints = w.fingerprints)
  | finalized (mediaKind : SourceMediaKind) (media : Library.MediaIngest)
      (own : act = .finalize mediaKind media) (other : media.kind ≠ .video)
      (inserts : InsertsBytes media w.db w'.db) (columns : w'.fingerprints = w.fingerprints)
  | identified (token : Uuid) (s : Session) (request : Ingest) (own : act = .insert token)
      (found : w.sessions.get token = some s) (phase : s.phase = .inserting request)
      (inserts : InsertsBytes s.media w.db w'.db)
      (columns : w'.fingerprints = w.describe w.db.fresh s.extraction)

theorem resolved_writes {mediaKind : SourceMediaKind} {media : Library.MediaIngest}
    (image : mediaKind ≠ .video) (kind : mediaKindForNormalization mediaKind = some media.kind)
    (same : w' = { w with db := committed w.db (Library.resolveMedia w.db media) }) :
    Writes w (.finalize mediaKind media) w' := by
  have other : media.kind ≠ .video := by
    intro video
    rw [video] at kind
    cases mediaKind <;> cases kind
    exact image rfl
  subst same
  rcases committed_cases w.db (Library.resolveMedia w.db media) with same | ⟨answer, ok⟩
  · exact .kept (same.symm ▸ .refl w.db) rfl
  · cases resolveMedia_bytes ok with
    | inl kept => exact .kept kept rfl
    | inr inserts => exact .finalized mediaKind media rfl other inserts rfl

theorem checked_keepsBytes {db : Db} {phase : Phase} (h : s.checked w.db = some (db, phase)) :
    KeepsBytes w.db db := by
  unfold Session.checked at h
  split at h
  · split at h
    · cases h
      exact .refl w.db
    · rename_i request _
      split at h
      · cases h
        exact .refl w.db
      · split at h
        · cases h
          exact .refl w.db
        · cases h
          exact .refl w.db
        · rename_i identified outcome new persisted
          cases h
          refine .of_committed (fun after answer finished => ?_)
          refine KeepsBytes.trans ?_ (Session.finish_keepsBytes finished)
          exact persistVideoIdentity_keepsBytes persisted new
  · cases h

theorem insert_writes (w : World) (s : Session) (request : Ingest) :
    (KeepsBytes w.db (w.insert s request).db ∧
        (w.insert s request).fingerprints = w.fingerprints) ∨
      (InsertsBytes s.media w.db (w.insert s request).db ∧
        (w.insert s request).fingerprints = w.describe w.db.fresh s.extraction) := by
  unfold World.insert
  split
  · refine Or.inl ⟨.of_committed (fun after answer finished => ?_), rfl⟩
    exact Session.finish_keepsBytes finished
  · rename_i absent
    split
    · rename_i db answer finished
      refine Or.inr ⟨?_, rfl⟩
      exact (insertMedia_bytes s.media absent).then_keeps (Session.finish_keepsBytes finished)
    · exact Or.inl ⟨.refl w.db, rfl⟩

theorem World.insert_sessions (w : World) (s : Session) (request : Ingest) :
    (w.insert s request).sessions = w.sessions := by
  unfold World.insert
  split
  · rfl
  · split <;> rfl

/-- How a step moves the phase of a session. -/
inductive Moves (w : World) (token : Uuid) (s : Session) : Action → Phase → Prop where
  | acquired (waits : s.phase = .waiting) (free : w.lockFree = true) :
      Moves w token s (.acquire token) .locked
  | begun (locked : s.phase = .locked) : Moves w token s (.begin token) (s.begun w.db)
  | searched {phase : Phase} (h : s.searched w.rows = some phase) :
      Moves w token s (.search token) phase
  | aligned {phase : Phase} (h : s.aligned = some phase) : Moves w token s (.align token) phase
  | aborted (holds : s.phase.holdsLock = true) : Moves w token s (.abort token) .closing
  | checked {db : Db} {phase : Phase} (h : s.checked w.db = some (db, phase)) :
      Moves w token s (.check token) phase
  | inserted {request : Ingest} (h : s.phase = .inserting request) :
      Moves w token s (.insert token) .closing

/-- Where a session comes from. -/
inductive Comes (w : World) (act : Action) (token : Uuid) (s' : Session) : Prop where
  | stayed (found : w.sessions.get token = some s')
  | opened (waits : s'.phase = .waiting)
  | moved (s : Session) (phase : Phase) (found : w.sessions.get token = some s)
      (moves : Moves w token s act phase) (same : s' = { s with phase := phase })

theorem comes_of_advance {other : Uuid} {phase : Phase} {s' : Session}
    (found : w.sessions.get token = some s) (moves : Moves w token s act phase)
    (there : Table.get (w.sessions.set token { s with phase := phase }) other = some s') :
    Comes w act other s' := by
  rcases Table.get_set_cases there with ⟨rfl, rfl⟩ | ⟨-, before⟩
  · exact .moved s phase found moves rfl
  · exact .stayed before

theorem comes_of_remove {other : Uuid} {s' : Session}
    (there : Table.get (w.sessions.remove token) other = some s') : Comes w act other s' := by
  rw [Table.get_remove] at there
  split at there
  · cases there
  · exact .stayed there

/-- What one step does to the media rows and to the sessions. -/
theorem step_effect (h : step w act = some w') : Writes w act w' ∧
    ∀ other s', w'.sessions.get other = some s' → Comes w act other s' := by
  cases act with
  | openSession token ingestId lease media extraction =>
    simp only [step, Option.ite_none_right_eq_some] at h
    obtain ⟨-, h⟩ := h
    cases h
    refine ⟨.kept (.refl w.db) rfl, fun other s' there => ?_⟩
    rcases Table.get_set_cases there with ⟨rfl, rfl⟩ | ⟨-, before⟩
    · exact .opened rfl
    · exact .stayed before
  | acquire token =>
    simp only [step, Option.bind_eq_bind, Option.bind_eq_some_iff,
      Option.ite_none_right_eq_some] at h
    obtain ⟨s, found, ⟨waits, free⟩, h⟩ := h
    cases h
    exact ⟨.kept (.refl w.db) rfl, fun _ _ => comes_of_advance found (.acquired waits free)⟩
  | begin token =>
    simp only [step, Option.bind_eq_bind, Option.bind_eq_some_iff,
      Option.ite_none_right_eq_some] at h
    obtain ⟨s, found, locked, h⟩ := h
    cases h
    exact ⟨.kept (.refl w.db) rfl, fun _ _ => comes_of_advance found (.begun locked)⟩
  | search token =>
    simp only [step, Option.bind_eq_bind, Option.bind_eq_some_iff] at h
    obtain ⟨s, found, phase, searched, h⟩ := h
    cases h
    exact ⟨.kept (.refl w.db) rfl, fun _ _ => comes_of_advance found (.searched searched)⟩
  | align token =>
    simp only [step, Option.bind_eq_bind, Option.bind_eq_some_iff] at h
    obtain ⟨s, found, phase, aligned, h⟩ := h
    cases h
    exact ⟨.kept (.refl w.db) rfl, fun _ _ => comes_of_advance found (.aligned aligned)⟩
  | abort token =>
    simp only [step, Option.bind_eq_bind, Option.bind_eq_some_iff,
      Option.ite_none_right_eq_some] at h
    obtain ⟨s, found, holds, h⟩ := h
    cases h
    exact ⟨.kept (.refl w.db) rfl, fun _ _ => comes_of_advance found (.aborted holds)⟩
  | check token =>
    simp only [step, Option.bind_eq_bind, Option.bind_eq_some_iff] at h
    obtain ⟨s, found, ⟨db, phase⟩, checked, h⟩ := h
    cases h
    exact ⟨.kept (checked_keepsBytes checked) rfl,
      fun _ _ => comes_of_advance found (.checked checked)⟩
  | insert token =>
    simp only [step, Option.bind_eq_bind, Option.bind_eq_some_iff] at h
    obtain ⟨s, found, h⟩ := h
    split at h
    · rename_i request phase
      cases h
      constructor
      · rcases insert_writes w s request with ⟨rows, columns⟩ | ⟨inserts, columns⟩
        · exact .kept rows columns
        · exact .identified token s request rfl found phase inserts columns
      · intro other s' there
        rw [World.advance, World.insert_sessions] at there
        exact comes_of_advance found (.inserted phase) there
    · cases h
  | release token =>
    simp only [step, Option.bind_eq_bind, Option.bind_eq_some_iff,
      Option.ite_none_right_eq_some] at h
    obtain ⟨s, -, -, h⟩ := h
    cases h
    exact ⟨.kept (.refl w.db) rfl, fun _ _ => comes_of_remove⟩
  | disconnect token =>
    cases h
    exact ⟨.kept (.refl w.db) rfl, fun _ _ => comes_of_remove⟩
  | finalize mediaKind media =>
    simp only [step, Option.ite_none_right_eq_some] at h
    obtain ⟨⟨image, kind⟩, h⟩ := h
    have same := (Option.some.inj h).symm
    refine ⟨resolved_writes image kind same, fun _ _ there => ?_⟩
    subst same
    exact .stayed there
  | media call =>
    cases h
    exact ⟨.kept (MediaCall.run_keepsBytes w.db call) rfl, fun _ _ there => .stayed there⟩
  | elsewhere rest =>
    cases h
    exact ⟨.kept (.of_media rfl (Nat.le_add_right _ _)) rfl, fun _ _ there => .stayed there⟩

end Steps

section Lock
variable {w w' : World} {act : Action} {token : Uuid} {s : Session}

/-- A session that has the lock after a step had it before, or takes it free. -/
theorem Comes.held {s' : Session} (comes : Comes w act token s')
    (holds : s'.phase.holdsLock = true) :
    (∃ s, w.sessions.get token = some s ∧ s.phase.holdsLock = true) ∨
      (act = .acquire token ∧ w.lockFree = true) := by
  cases comes with
  | stayed found => exact Or.inl ⟨s', found, holds⟩
  | opened waits =>
    rw [waits] at holds
    cases holds
  | moved s phase found moves same =>
    cases moves with
    | acquired waits free => exact Or.inr ⟨rfl, free⟩
    | begun locked => exact Or.inl ⟨s, found, by rw [locked]; rfl⟩
    | searched h =>
      refine Or.inl ⟨s, found, ?_⟩
      unfold Session.searched at h
      split at h
      · rename_i phase _
        rw [phase]
        rfl
      · cases h
    | aligned h =>
      refine Or.inl ⟨s, found, ?_⟩
      unfold Session.aligned at h
      split at h
      · rename_i phase
        rw [phase]
        rfl
      · cases h
    | aborted holds => exact Or.inl ⟨s, found, holds⟩
    | checked h =>
      refine Or.inl ⟨s, found, ?_⟩
      unfold Session.checked at h
      split at h
      · rename_i phase
        rw [phase]
        rfl
      · cases h
    | inserted phase => exact Or.inl ⟨s, found, by rw [phase]; rfl⟩

theorem not_held_of_free (free : w.lockFree = true) (found : w.sessions.get token = some s) :
    s.phase.holdsLock = false := by
  have all := List.all_eq_true.mp free (token, s) ((Table.mem_rows_iff _ _ _).mpr found)
  simpa using all

/-- What holds between the steps. -/
structure Inv (w : World) : Prop where
  exclusive : ∀ token s other s', w.sessions.get token = some s →
    w.sessions.get other = some s' → s.phase.holdsLock = true → s'.phase.holdsLock = true →
    token = other
  drawn : ∀ m row, w.db.media.get m = some row → m < w.db.fresh
  bytes : ∀ m m' row row' sha256, w.db.media.get m = some row → w.db.media.get m' = some row' →
    row.canonicalSha256 = some sha256 → row'.canonicalSha256 = some sha256 → m = m'

theorem initial_inv : Inv initial where
  exclusive := by
    intro token s other s' found
    cases found
  drawn := by
    intro m row found
    cases found
  bytes := by
    intro m m' row row' sha256 found
    cases found

theorem exclusive_step (inv : Inv w) (h : step w act = some w') :
    ∀ token s other s', w'.sessions.get token = some s → w'.sessions.get other = some s' →
      s.phase.holdsLock = true → s'.phase.holdsLock = true → token = other := by
  intro token s other s' found found' holds holds'
  have comes := (step_effect h).2
  rcases (comes token s found).held holds with ⟨old, there, held⟩ | ⟨takes, free⟩
  · rcases (comes other s' found').held holds' with ⟨old', there', held'⟩ | ⟨-, free⟩
    · exact inv.exclusive token old other old' there there' held held'
    · rw [not_held_of_free free there] at held
      cases held
  · rcases (comes other s' found').held holds' with ⟨old', there', held'⟩ | ⟨takes', -⟩
    · rw [not_held_of_free free there'] at held'
      cases held'
    · rw [takes] at takes'
      exact Action.acquire.inj takes'

end Lock

section Bytes
variable {db db' : Db} {m : Uuid} {row row' : Media} {media : Library.MediaIngest}

theorem KeepsBytes.found (kept : KeepsBytes db db') (there : db'.media.get m = some row') :
    ∃ row, db.media.get m = some row ∧ bytesOf row = bytesOf row' := by
  have same := kept.rows m
  rw [there, Option.map_some, eq_comm, Option.map_eq_some_iff] at same
  exact same

theorem InsertsBytes.found (inserts : InsertsBytes media db db')
    (there : db'.media.get m = some row') :
    (m = db.fresh ∧ bytesOf row' = (media.kind, some media.sha256)) ∨
      (m ≠ db.fresh ∧ ∃ row, db.media.get m = some row ∧ bytesOf row = bytesOf row') := by
  by_cases new : m = db.fresh
  · subst new
    have row := inserts.row
    rw [there, Option.map_some, Option.some.injEq] at row
    exact Or.inl ⟨rfl, row⟩
  · have same := inserts.others m new
    rw [there, Option.map_some, eq_comm, Option.map_eq_some_iff] at same
    exact Or.inr ⟨new, same⟩

theorem findMediaBySha_none {sha256 : String}
    (absent : Library.findMediaBySha db sha256 = none) (found : db.media.get m = some row) :
    row.canonicalSha256 ≠ some sha256 := by
  intro same
  have all := List.find?_eq_none.mp absent (m, row) ((Table.mem_rows_iff _ _ _).mpr found)
  rw [same] at all
  simp at all

end Bytes

section Invariant
variable {w w' : World} {act : Action}

theorem Inv.kept (inv : Inv w) (kept : KeepsBytes w.db w'.db)
    (exclusive : ∀ token s other s', w'.sessions.get token = some s →
      w'.sessions.get other = some s' → s.phase.holdsLock = true → s'.phase.holdsLock = true →
      token = other) : Inv w' where
  exclusive := exclusive
  drawn := by
    intro m row there
    obtain ⟨old, found, -⟩ := kept.found there
    exact lt_of_lt_of_le (inv.drawn m old found) kept.fresh
  bytes := by
    intro m m' row row' sha256 there there' named named'
    obtain ⟨old, found, same⟩ := kept.found there
    obtain ⟨old', found', same'⟩ := kept.found there'
    have one : old.canonicalSha256 = some sha256 := (Prod.mk.inj same).2.trans named
    have two : old'.canonicalSha256 = some sha256 := (Prod.mk.inj same').2.trans named'
    exact inv.bytes m m' old old' sha256 found found' one two

theorem Inv.inserted {media : Library.MediaIngest} (inv : Inv w)
    (inserts : InsertsBytes media w.db w'.db)
    (exclusive : ∀ token s other s', w'.sessions.get token = some s →
      w'.sessions.get other = some s' → s.phase.holdsLock = true → s'.phase.holdsLock = true →
      token = other) : Inv w' where
  exclusive := exclusive
  drawn := by
    intro m row there
    rcases inserts.found there with ⟨rfl, -⟩ | ⟨-, old, found, -⟩
    · exact inserts.fresh
    · exact lt_trans (inv.drawn m old found) inserts.fresh
  bytes := by
    -- A row with the bytes of the new one would have been found.
    have apart : ∀ m row old sha256, w.db.media.get m = some old → bytesOf old = bytesOf row →
        row.canonicalSha256 = some sha256 → sha256 ≠ media.sha256 := by
      intro m row old sha256 found same named shared
      apply findMediaBySha_none inserts.absent found
      rw [← shared]
      exact (Prod.mk.inj same).2.trans named
    intro m m' row row' sha256 there there' named named'
    rcases inserts.found there with ⟨rfl, new⟩ | ⟨-, old, found, same⟩
    · have own : sha256 = media.sha256 := by
        have := named.symm.trans (Prod.mk.inj new).2
        exact Option.some.inj this
      rcases inserts.found there' with ⟨rfl, -⟩ | ⟨-, old', found', same'⟩
      · rfl
      · exact absurd own (apart m' row' old' sha256 found' same' named')
    · rcases inserts.found there' with ⟨rfl, new'⟩ | ⟨-, old', found', same'⟩
      · have own : sha256 = media.sha256 := by
          have := named'.symm.trans (Prod.mk.inj new').2
          exact Option.some.inj this
        exact absurd own (apart m row old sha256 found same named)
      · exact inv.bytes m m' old old' sha256 found found' ((Prod.mk.inj same).2.trans named)
          ((Prod.mk.inj same').2.trans named')

theorem inv_step (inv : Inv w) (h : step w act = some w') : Inv w' := by
  have exclusive := exclusive_step inv h
  cases (step_effect h).1 with
  | kept rows columns => exact inv.kept rows exclusive
  | finalized mediaKind media own other inserts columns => exact inv.inserted inserts exclusive
  | identified token s request own found phase inserts columns =>
    exact inv.inserted inserts exclusive

theorem inv_run {acts : List Action} (run : Run step Unrestricted initial acts w) : Inv w :=
  run_invariant Inv (fun inv _ h => inv_step inv h) initial_inv run

end Invariant

section Videos
variable {w w' : World} {act : Action} {db db' : Db} {m token : Uuid}

def IsVideo (db : Db) (m : Uuid) : Prop :=
  ∃ row, db.media.get m = some row ∧ row.kind = .video

/-- The session is between the read of its candidates and its commit. -/
def World.deciding (w : World) (token : Uuid) : Bool :=
  (w.sessions.get token).any (·.phase.deciding)

theorem isVideo_iff : IsVideo db m ↔
    ∃ sha256, (db.media.get m).map bytesOf = some (.video, sha256) := by
  constructor
  · rintro ⟨row, found, video⟩
    refine ⟨row.canonicalSha256, ?_⟩
    rw [found, Option.map_some, bytesOf, video]
  · rintro ⟨sha256, same⟩
    obtain ⟨row, found, pair⟩ := Option.map_eq_some_iff.mp same
    exact ⟨row, found, (Prod.mk.inj pair).1⟩

theorem KeepsBytes.videos (kept : KeepsBytes db db') (m : Uuid) : IsVideo db' m ↔ IsVideo db m := by
  rw [isVideo_iff, isVideo_iff, kept.rows m]

theorem InsertsBytes.videos {media : Library.MediaIngest} (inserts : InsertsBytes media db db')
    (other : media.kind ≠ .video) (drawn : ∀ m row, db.media.get m = some row → m < db.fresh)
    (m : Uuid) : IsVideo db' m ↔ IsVideo db m := by
  by_cases new : m = db.fresh
  · subst new
    constructor
    · intro video
      obtain ⟨sha256, same⟩ := isVideo_iff.mp video
      rw [inserts.row, Option.some.injEq] at same
      exact absurd (Prod.mk.inj same).1 other
    · rintro ⟨row, found, -⟩
      exact absurd (drawn _ row found) (lt_irrefl _)
  · rw [isVideo_iff, isVideo_iff, inserts.others m new]

theorem deciding_found (deciding : w.deciding token = true) :
    ∃ s, w.sessions.get token = some s ∧ s.phase.deciding = true := by
  unfold World.deciding at deciding
  cases found : w.sessions.get token with
  | none =>
    rw [found] at deciding
    cases deciding
  | some s =>
    rw [found] at deciding
    exact ⟨s, rfl, deciding⟩

theorem Phase.deciding_holds {phase : Phase} (deciding : phase.deciding = true) :
    phase.holdsLock = true := by
  cases phase <;> first | rfl | cases deciding

/-- Nobody but the session itself inserts a video, or describes one. -/
theorem videos_step (inv : Inv w) (deciding : w.deciding token = true)
    (h : step w act = some w') (other : act ≠ .insert token) :
    (∀ m, IsVideo w'.db m ↔ IsVideo w.db m) ∧ w'.fingerprints = w.fingerprints := by
  obtain ⟨s, found, decides⟩ := deciding_found deciding
  cases (step_effect h).1 with
  | kept rows columns => exact ⟨rows.videos, columns⟩
  | finalized mediaKind media own image inserts columns =>
    exact ⟨inserts.videos image inv.drawn, columns⟩
  | identified inserter s' request own found' phase inserts columns =>
    have same := inv.exclusive token s inserter s' found found' (Phase.deciding_holds decides)
      (by rw [phase]; rfl)
    rw [same] at other
    exact absurd own other

theorem insert_closes (h : step w (.insert token) = some w') :
    ∃ s request, w.sessions.get token = some s ∧ s.phase = .inserting request ∧
      w'.sessions = w.sessions.set token { s with phase := .closing } := by
  simp only [step, Option.bind_eq_bind, Option.bind_eq_some_iff] at h
  obtain ⟨s, found, h⟩ := h
  split at h
  · rename_i request phase
    cases h
    refine ⟨s, request, found, phase, ?_⟩
    rw [World.advance, World.insert_sessions]
  · cases h

theorem not_deciding_of_inserted (h : step w (.insert token) = some w') :
    w'.deciding token = false := by
  obtain ⟨s, request, -, -, sessions⟩ := insert_closes h
  rw [World.deciding, sessions, Table.get_set_self]
  rfl

/-- As long as a session decides, the videos are the ones it has looked through. -/
theorem videos_run {acts : List Action} (inv : Inv w)
    (run : Run step (fun v _ => v.deciding token = true) w acts w')
    (still : w'.deciding token = true) :
    (∀ m, IsVideo w'.db m ↔ IsVideo w.db m) ∧ w'.fingerprints = w.fingerprints := by
  induction run with
  | nil w => exact ⟨fun _ => Iff.rfl, rfl⟩
  | @cons w v u act rest deciding first tail ih =>
    obtain ⟨videos, columns⟩ := ih (inv_step inv first) still
    have next : v.deciding token = true := by
      cases tail with
      | nil => exact still
      | cons deciding _ _ => exact deciding
    have other : act ≠ .insert token := by
      intro own
      subst own
      rw [not_deciding_of_inserted first] at next
      cases next
    obtain ⟨before, described⟩ := videos_step inv deciding first other
    exact ⟨fun m => (videos m).trans (before m), columns.trans described⟩

end Videos

section Pairs
variable {w w' : World} {act : Action} {db db' : Db} {m token : Uuid} {s : Session}

/-- The ingest, where there is one, is not forced. -/
def World.unforced (w : World) (ingestId : Uuid) : Bool :=
  (w.db.ingests.get ingestId).all (fun request => !request.forceSave)

/-- The query for candidates of a fingerprint finds the media. -/
def World.retrieves (w : World) (extraction : Extraction) (mediaId : Uuid) : Bool :=
  (fetchVideoFingerprintCandidates w.rows extraction.input.version
    extraction.input.searchTokens).any (fun candidate => candidate.mediaId == mediaId)

def Action.searches (token : Uuid) : Action → Bool
  | .search other => other == token
  | _ => false

/-- The insertion of a session makes this media. -/
def MakesMedia (w : World) (token m : Uuid) : Prop :=
  ∃ w', step w (.insert token) = some w' ∧ w.db.media.get m = none ∧
    (w'.db.media.get m).isSome = true

/-- The first fingerprint aligns with the second as a strong duplicate. -/
def StrongDuplicates (incoming stored : Extraction) : Prop :=
  ∃ alignment, alignVideoSequences incoming.fingerprint stored.fingerprint .default =
    .ok alignment ∧ alignment.classification = .strongDuplicate

theorem Extraction.decodes (extraction : Extraction) :
    VideoSequenceFingerprint.decode extraction.input.data = .ok extraction.fingerprint := by
  have made := extraction.made
  unfold fingerprintInput at made
  split at made
  · rename_i data encoded
    rw [tryNew_ok encoded] at made
    have same := Option.some.inj made
    rw [← same]
    exact decode_iff_encode.mpr encoded
  · cases made

theorem candidateOf_data {version : String} {searchTokens : List Int} {row : FingerprintRow}
    {candidate : VideoFingerprintCandidate}
    (found : candidateOf version searchTokens row = some candidate) :
    row.fingerprintData = some candidate.fingerprintData := by
  unfold candidateOf at found
  split at found
  · rename_i stored data tokens _ named _
    simp only at found
    split at found
    · cases found
      exact named
    · cases found
  · cases found

/-- A candidate of this media carries the fingerprint it was inserted with. -/
theorem retrieved_data {version : String} {searchTokens : List Int}
    {candidate : VideoFingerprintCandidate} {input : VideoFingerprintInput}
    (described : w.fingerprints.get m = some input)
    (member : candidate ∈ fetchVideoFingerprintCandidates w.rows version searchTokens)
    (same : candidate.mediaId = m) : candidate.fingerprintData = input.data := by
  obtain ⟨row, inside, found⟩ := mem_fetch member
  have data := candidateOf_data found
  obtain ⟨-, named⟩ := candidateOf_found found
  obtain ⟨⟨id, media⟩, -, rfl⟩ := List.mem_map.mp inside
  have own : id = m := named.symm.trans same
  subst own
  simp only [described, Option.map_some, Option.some.injEq] at data
  exact data.symm

/-- What is found is a video that is pending or ready. -/
theorem retrieved_alive {extraction : Extraction} (found : w.retrieves extraction m = true) :
    ∃ row, w.db.media.get m = some row ∧ row.kind = .video ∧
      (row.storageState = .pending ∨ row.storageState = .ready) := by
  obtain ⟨candidate, member, same⟩ := List.any_eq_true.mp found
  obtain ⟨row, inside, made⟩ := mem_fetch member
  have named := (candidateOf_found made).2
  obtain ⟨⟨id, media⟩, there, rfl⟩ := List.mem_map.mp inside
  have own : id = m := named.symm.trans (beq_iff_eq.mp same)
  subst own
  refine ⟨media, (Table.mem_rows_iff _ _ _).mp there, ?_⟩
  unfold candidateOf at made
  split at made
  · simp only at made
    split at made
    · rename_i conditions
      exact ⟨conditions.1, conditions.2.2.1⟩
    · cases made
  · cases made

theorem alignCandidates_mem {incoming : VideoSequenceFingerprint}
    {config : SequenceAlignmentConfig} {candidates : List VideoFingerprintCandidate}
    {found : List VideoDuplicateMatch} {candidate : VideoFingerprintCandidate}
    {item : VideoDuplicateMatch} (aligned : alignCandidates incoming config candidates = .ok found)
    (member : candidate ∈ candidates)
    (own : alignCandidate incoming config candidate = .ok (some item)) : item ∈ found := by
  induction candidates generalizing found with
  | nil => cases member
  | cons first rest ih =>
    simp only [alignCandidates, bind_ok, pure_ok] at aligned
    obtain ⟨one, first_aligned, others, rest_aligned, rfl⟩ := aligned
    rcases List.mem_cons.mp member with rfl | later
    · rw [own] at first_aligned
      cases first_aligned
      exact List.mem_append_left _ (Option.mem_toList.mpr rfl)
    · exact List.mem_append_right _ (ih rest_aligned later)

/-- A video that aligns strongly with one of its candidates is held back. -/
theorem pending_of_strong {incoming : VideoSequenceFingerprint}
    {config : SequenceAlignmentConfig} {candidates : List VideoFingerprintCandidate}
    {candidate : VideoFingerprintCandidate} {decision : VideoIdentityDecision}
    (aligned : alignVideoIdentity incoming config candidates = .ok decision)
    (member : candidate ∈ candidates) (strongly : AlignsStrongly incoming config candidate) :
    ∃ evidence, decision = .duplicatePending evidence := by
  obtain ⟨stored, alignment, decoded, compared, strong⟩ := strongly
  obtain ⟨item, matched, is_strong⟩ := duplicateMatch_strong.mpr strong
  have own : alignCandidate incoming config candidate = .ok (some item) := by
    unfold alignCandidate
    rw [decoded, ← matched]
    show Except.mapError AlignmentFailure.alignment (alignVideoSequences incoming stored config) >>=
      _ = _
    rw [compared]
    rfl
  simp only [alignVideoIdentity, bind_ok] at aligned
  obtain ⟨found, all, decided⟩ := aligned
  have inside := alignCandidates_mem all member own
  have some_strong : (found.insertionSort VideoDuplicateMatch.before).any (·.isStrong) = true :=
    List.any_eq_true.mpr ⟨item, (List.mem_insertionSort _).mpr inside, is_strong⟩
  rw [if_pos some_strong, pure_ok] at decided
  exact ⟨_, decided.symm⟩

/-- A row with these bytes is there. -/
def StoredBytes (db : Db) (sha256 : String) : Prop :=
  ∃ m kind, (db.media.get m).map bytesOf = some (kind, some sha256)

theorem StoredBytes.found {sha256 : String} (stored : StoredBytes db sha256) :
    Library.findMediaBySha db sha256 ≠ none := by
  intro absent
  obtain ⟨m, kind, same⟩ := stored
  obtain ⟨row, found, pair⟩ := Option.map_eq_some_iff.mp same
  exact findMediaBySha_none absent found (Prod.mk.inj pair).2

theorem storedBytes_of_found {sha256 : String} {row : Media}
    (found : Library.findMediaBySha db sha256 = some (m, row)) : StoredBytes db sha256 := by
  have named := List.find?_some found
  simp only [beq_iff_eq] at named
  refine ⟨m, row.kind, ?_⟩
  rw [Library.findMediaBySha_found found, Option.map_some, bytesOf, named]

theorem StoredBytes.step {sha256 : String} (inv : Inv w) (stored : StoredBytes w.db sha256)
    (h : step w act = some w') : StoredBytes w'.db sha256 := by
  obtain ⟨m, kind, same⟩ := stored
  obtain ⟨row, found, -⟩ := Option.map_eq_some_iff.mp same
  have old := inv.drawn m row found
  refine ⟨m, kind, ?_⟩
  cases (step_effect h).1 with
  | kept rows columns => rw [rows.rows m, same]
  | finalized mediaKind media own other inserts columns => rw [inserts.others m (Nat.ne_of_lt old), same]
  | identified token s request own found phase inserts columns =>
    rw [inserts.others m (Nat.ne_of_lt old), same]

/-- A media keeps the fingerprint it was inserted with. -/
theorem described_step {input : VideoFingerprintInput} (drawn : m < w.db.fresh)
    (described : w.fingerprints.get m = some input) (h : step w act = some w') :
    m < w'.db.fresh ∧ w'.fingerprints.get m = some input := by
  cases (step_effect h).1 with
  | kept rows columns => exact ⟨lt_of_lt_of_le drawn rows.fresh, columns ▸ described⟩
  | finalized mediaKind media own other inserts columns =>
    exact ⟨lt_trans drawn inserts.fresh, columns ▸ described⟩
  | identified token s request own found phase inserts columns =>
    refine ⟨lt_trans drawn inserts.fresh, ?_⟩
    rw [columns]
    unfold World.describe
    split
    · rw [Table.get_set_ne _ _ (Nat.ne_of_lt drawn), described]
    · exact described

end Pairs

section Second
variable {w w' : World} {act : Action} {db db' : Db} {m token : Uuid} {s : Session}
  {second : Extraction}

/-- What a session that would find a strong duplicate knows of it. -/
def Convinced (second : Extraction) (db : Db) (s : Session) : Prop :=
  match s.phase with
  | .waiting | .locked | .closing => True
  | .searching request => request.forceSave = false
  | .prepared request exactMediaId candidates =>
    request.forceSave = false ∧ (exactMediaId.isSome = true → StoredBytes db s.media.sha256) ∧
      (exactMediaId = none → ∃ candidate ∈ candidates,
        AlignsStrongly second.fingerprint .default candidate)
  | .decided decision =>
    (∃ evidence, decision = .duplicatePending evidence) ∨ StoredBytes db s.media.sha256
  | .inserting _ => False

theorem Convinced.mono (convinced : Convinced second db s)
    (stored : StoredBytes db s.media.sha256 → StoredBytes db' s.media.sha256) :
    Convinced second db' s := by
  unfold Convinced at convinced ⊢
  cases phase : s.phase with
  | prepared request exactMediaId candidates =>
    rw [phase] at convinced
    obtain ⟨unforced, shown, found⟩ := convinced
    exact ⟨unforced, fun present => stored (shown present), found⟩
  | decided decision =>
    rw [phase] at convinced
    exact convinced.imp id stored
  | _ =>
    rw [phase] at convinced
    exact convinced

theorem beginVideoIdentity_ready {id : Uuid} {lease : JobLease} {media : Library.MediaIngest}
    {fingerprint : Option Library.VideoFingerprintInput} {request : Ingest}
    {exactMediaId : Option Uuid}
    (h : Inbox.beginVideoIdentity db id lease media fingerprint =
      .ok (db', .ready request, exactMediaId)) :
    db.ingests.get id = some request ∧
      (exactMediaId.isSome = true → StoredBytes db media.sha256) := by
  simp only [Inbox.beginVideoIdentity, bind_ok] at h
  obtain ⟨loaded, found, h⟩ := h
  split at h
  · cases h
  · simp only [bind_ok, pure_ok, Prod.mk.injEq] at h
    obtain ⟨preparation, prepared, -, same, rfl⟩ := h
    cases same
    refine ⟨Inbox.loadRequest_ok found, fun present => ?_⟩
    have prepared := Inbox.liftLibrary_ok prepared
    simp only [Library.prepareVideoIdentity, bind_ok] at prepared
    obtain ⟨-, -, prepared⟩ := prepared
    split at prepared
    · rename_i mediaId row named
      exact storedBytes_of_found named
    · simp only [bind_ok, pure_ok] at prepared
      obtain ⟨input, -, -, -, rfl⟩ := prepared
      cases present

/-- A stored video and a pending duplicate of an unforced ingest make no media. -/
theorem persistVideoIdentity_old {media : Library.MediaIngest}
    {fingerprint : Option Library.VideoFingerprintInput} {decision : VideoIdentityDecision}
    {outcome : Library.VideoIdentityOutcome}
    (h : Library.persistVideoIdentity db media fingerprint decision.summary false =
      .ok (db', outcome))
    (told : (∃ evidence, decision = .duplicatePending evidence) ∨ StoredBytes db media.sha256) :
    ∀ mediaId, outcome ≠ .newMedia mediaId := by
  intro mediaId new
  subst new
  simp only [Library.persistVideoIdentity, bind_ok] at h
  obtain ⟨-, -, h⟩ := h
  split at h
  · simp only [bind_ok, pure_ok, Prod.mk.injEq] at h
    obtain ⟨merged, -, -, same⟩ := h
    cases same
  · rename_i absent
    cases told with
    | inr stored => exact stored.found absent
    | inl pending =>
      obtain ⟨evidence, rfl⟩ := pending
      simp only [bind_ok, Library.persistNewVideo, VideoIdentityDecision.summary,
        Bool.false_eq_true, if_false, pure_ok, Prod.mk.injEq] at h
      obtain ⟨input, -, -, -, -, -, -, -, -, same⟩ := h
      cases same

theorem unforced_request {ingestId : Uuid} {request : Ingest}
    (unforced : w.unforced ingestId = true) (found : w.db.ingests.get ingestId = some request) :
    request.forceSave = false := by
  unfold World.unforced at unforced
  rw [found, Option.all_some] at unforced
  simpa using unforced

theorem convinced_begun (unforced : w.unforced s.ingestId = true) :
    Convinced second w.db { s with phase := s.begun w.db } := by
  unfold Convinced
  dsimp only
  generalize begun : s.begun w.db = phase
  unfold Session.begun at begun
  split at begun
  · rename_i after request exactMediaId ready
    obtain ⟨found, stored⟩ := beginVideoIdentity_ready ready
    have plain := unforced_request unforced found
    split at begun
    · rename_i told
      subst begun
      rw [plain, Bool.or_false] at told
      refine ⟨plain, stored, fun none => ?_⟩
      rw [none] at told
      cases told
    · subst begun
      exact plain
  · subst begun
    trivial

theorem convinced_searched {first : Extraction} {phase : Phase}
    (convinced : Convinced second w.db s) (own : s.extraction = some second)
    (described : w.fingerprints.get m = some first.input) (strong : StrongDuplicates second first)
    (retrieves : w.retrieves second m = true) (h : s.searched w.rows = some phase) :
    Convinced second w.db { s with phase := phase } := by
  unfold Session.searched at h
  split at h
  · rename_i request extraction searching extracted
    rw [own] at extracted
    cases extracted
    cases h
    unfold Convinced at convinced
    rw [searching] at convinced
    obtain ⟨candidate, member, same⟩ := List.any_eq_true.mp retrieves
    have data := retrieved_data described member (beq_iff_eq.mp same)
    obtain ⟨alignment, aligned, classified⟩ := strong
    have decoded : VideoSequenceFingerprint.decode candidate.fingerprintData =
        .ok first.fingerprint := by
      rw [data]
      exact first.decodes
    refine ⟨convinced, ?_, ?_⟩
    · intro present
      cases present
    · intro _
      exact ⟨candidate, member, first.fingerprint, alignment, decoded, aligned, classified⟩
  · cases h

theorem convinced_aligned {phase : Phase} (convinced : Convinced second w.db s)
    (own : s.extraction = some second) (h : s.aligned = some phase) :
    Convinced second w.db { s with phase := phase } := by
  unfold Session.aligned at h
  split at h
  · rename_i request exactMediaId candidates prepared
    unfold Convinced at convinced
    rw [prepared] at convinced
    obtain ⟨unforced, stored, strong⟩ := convinced
    rw [unforced, Bool.or_false] at h
    split at h
    · rename_i present
      cases h
      exact Or.inr (stored present)
    · rename_i fresh
      rw [own] at h
      dsimp only at h
      split at h
      · rename_i decision aligned
        cases h
        have none : exactMediaId = none := Option.not_isSome_iff_eq_none.mp fresh
        obtain ⟨candidate, member, strongly⟩ := strong none
        exact Or.inl (pending_of_strong aligned member strongly)
      · cases h
        trivial
  · cases h

theorem convinced_checked {phase : Phase} (convinced : Convinced second w.db s)
    (unforced : w.unforced s.ingestId = true) (h : s.checked w.db = some (db, phase)) :
    Convinced second w.db { s with phase := phase } := by
  unfold Session.checked at h
  split at h
  · rename_i decision decided
    unfold Convinced at convinced
    rw [decided] at convinced
    split at h
    · cases h
      trivial
    · rename_i request loaded
      split at h
      · cases h
        trivial
      · have plain := unforced_request unforced (Inbox.loadRequest_ok loaded)
        rw [plain] at h
        split at h
        · cases h
          trivial
        · rename_i identified mediaId persisted
          exact absurd rfl (persistVideoIdentity_old persisted convinced mediaId)
        · cases h
          trivial
  · cases h

theorem convinced_moved {first : Extraction} {phase : Phase}
    (convinced : Convinced second w.db s) (own : s.extraction = some second)
    (described : w.fingerprints.get m = some first.input) (strong : StrongDuplicates second first)
    (unforced : w.unforced s.ingestId = true)
    (retrieves : act.searches token = true → w.retrieves second m = true)
    (moves : Moves w token s act phase) : Convinced second w.db { s with phase := phase } := by
  cases moves with
  | acquired waits free => trivial
  | begun locked => exact convinced_begun unforced
  | searched h =>
    exact convinced_searched convinced own described strong (retrieves (beq_self_eq_true _)) h
  | aligned h => exact convinced_aligned convinced own h
  | aborted holds => trivial
  | checked h => exact convinced_checked convinced unforced h
  | inserted h => trivial

/-- The second ingest is not forced, and its session finds the media when it
    looks for candidates. -/
def World.meets (ingestId token : Uuid) (second : Extraction) (m : Uuid) (w : World)
    (act : Action) : Bool :=
  w.unforced ingestId && (!act.searches token || w.retrieves second m)

/-- Behind the insertion of the first video. -/
structure Behind (m : Uuid) (first second : Extraction) (ingestId token : Uuid) (w : World) :
    Prop where
  inv : Inv w
  drawn : m < w.db.fresh
  described : w.fingerprints.get m = some first.input
  convinced : ∀ s, w.sessions.get token = some s → s.ingestId = ingestId →
    s.extraction = some second → Convinced second w.db s

theorem behind_step {first : Extraction} {ingestId : Uuid}
    (behind : Behind m first second ingestId token w) (strong : StrongDuplicates second first)
    (meets : w.meets ingestId token second m act = true) (h : step w act = some w') :
    Behind m first second ingestId token w' := by
  obtain ⟨drawn, described⟩ := described_step behind.drawn behind.described h
  refine ⟨inv_step behind.inv h, drawn, described, ?_⟩
  simp only [World.meets, Bool.and_eq_true, Bool.or_eq_true, Bool.not_eq_true'] at meets
  obtain ⟨unforced, searches⟩ := meets
  have retrieves : act.searches token = true → w.retrieves second m = true := by
    intro own
    rw [own] at searches
    exact searches.resolve_left (by decide)
  intro s' there ingest own
  cases (step_effect h).2 token s' there with
  | stayed found =>
    exact (behind.convinced s' found ingest own).mono (fun stored => stored.step behind.inv h)
  | opened waits =>
    unfold Convinced
    rw [waits]
    trivial
  | moved s phase found moves same =>
    subst same
    have before := behind.convinced s found ingest own
    have moved := convinced_moved before own behind.described strong (ingest.symm ▸ unforced)
      retrieves moves
    exact moved.mono (fun stored => stored.step behind.inv h)

/-- Right after the insertion no other session has the lock. -/
theorem behind_of_makes {first : Extraction} {inserter : Uuid} (inv : Inv w)
    (found : w.sessions.get inserter = some s) (extracted : s.extraction = some first)
    (makes : MakesMedia w inserter m) (h : step w (.insert inserter) = some w')
    (ingestId token : Uuid) : Behind m first second ingestId token w' := by
  obtain ⟨after, same, absent, present⟩ := makes
  rw [h] at same
  cases same
  obtain ⟨s', request, found', inserting, sessions⟩ := insert_closes h
  rw [found] at found'
  cases found'
  obtain ⟨row, there⟩ := Option.isSome_iff_exists.mp present
  cases (step_effect h).1 with
  | kept rows columns =>
    obtain ⟨old, before, -⟩ := rows.found there
    rw [absent] at before
    cases before
  | finalized mediaKind media own other inserts columns => cases own
  | identified other s' request' own found' phase inserts columns =>
    cases own
    rw [found] at found'
    cases found'
    rcases inserts.found there with ⟨rfl, -⟩ | ⟨-, old, before, -⟩
    · refine ⟨inv_step inv h, inserts.fresh, ?_, ?_⟩
      · rw [columns, extracted, World.describe, Table.get_set_self]
      · intro other there _ _
        rw [sessions] at there
        rcases Table.get_set_cases there with ⟨-, rfl⟩ | ⟨ne, before⟩
        · trivial
        · have waits : other.phase.holdsLock = false := by
            rw [Bool.eq_false_iff]
            intro holds
            exact ne (inv.exclusive _ other _ s before found holds (by rw [inserting]; rfl))
          unfold Convinced
          cases phase : other.phase with
          | waiting => trivial
          | _ =>
            rw [phase] at waits
            cases waits
    · rw [absent] at before
      cases before

/-- Without the row of the first video it would have been a new media. -/
theorem behind_makes_nothing {first : Extraction} {ingestId : Uuid}
    (behind : Behind m first second ingestId token w) (found : w.sessions.get token = some s)
    (ingest : s.ingestId = ingestId) (own : s.extraction = some second) (m' : Uuid) :
    ¬ MakesMedia w token m' := by
  rintro ⟨after, h, -, -⟩
  obtain ⟨s', request, found', inserting, -⟩ := insert_closes h
  rw [found] at found'
  cases found'
  have convinced := behind.convinced s found ingest own
  unfold Convinced at convinced
  rw [inserting] at convinced
  exact convinced

end Second

/-- Identities are serialized. Between the read of its candidates and its commit
    no session but the deciding one inserts a video, so that it decides on the
    videos and fingerprints there are. No two media have the same bytes. And
    where a session makes a media, no session of an unforced ingest that finds
    this media among its candidates, as a strong duplicate, makes another. -/
theorem video_identities_are_serialized {acts : List Action} {w : World}
    (run : Run step Unrestricted initial acts w) :
    (∀ token act w', w.deciding token = true → step w act = some w' →
      ∀ m, IsVideo w'.db m → ¬ IsVideo w.db m → act = .insert token) ∧
    (∀ token acts' w', Run step (fun v _ => v.deciding token = true) w acts' w' →
      w'.deciding token = true →
      (∀ m, IsVideo w'.db m ↔ IsVideo w.db m) ∧ w'.fingerprints = w.fingerprints) ∧
    (∀ m m' row row' sha256, w.db.media.get m = some row → w.db.media.get m' = some row' →
      row.canonicalSha256 = some sha256 → row'.canonicalSha256 = some sha256 → m = m') ∧
    ∀ token s first m w', w.sessions.get token = some s → s.extraction = some first →
      MakesMedia w token m → step w (.insert token) = some w' →
      ∀ other s' second acts' u, StrongDuplicates second first →
        Run step (fun v act => v.meets s'.ingestId other second m act = true) w' acts' u →
        u.sessions.get other = some s' → s'.extraction = some second →
        ∀ m', ¬ MakesMedia u other m' := by
  have inv := inv_run run
  refine ⟨?_, ?_, inv.bytes, ?_⟩
  · intro token act w' deciding h m after before
    by_contra other
    exact before (((videos_step inv deciding h other).1 m).mp after)
  · intro token acts' w' deciding still
    exact videos_run inv deciding still
  · intro token s first m w' found extracted makes h other s' second acts' u strong second_run
      there own m'
    have behind : Behind m first second s'.ingestId other u :=
      run_invariant (Behind m first second s'.ingestId other)
        (fun behind meets h => behind_step behind strong meets h)
        (behind_of_makes inv found extracted makes h s'.ingestId other) second_run
    exact behind_makes_nothing behind there rfl own m'

section Samples

theorem steady_input : fingerprintInput steadyVideo =
    some ⟨videoSequenceV1, steadyBytes, deriveSearchTokens steadyVideo⟩ := by decide +kernel

def steadyExtraction : Extraction := ⟨steadyVideo, _, steady_input⟩

def sampleSubmission : Inbox.IngestSubmission :=
  ⟨.url, "https://example.test/video", none, none, none, none, none, [], .save, none, none, none, ""⟩

def sampleIngest (id : Uuid) : Ingest :=
  { Inbox.queuedIngest id 0 sampleSubmission with status := .fingerprinting }

def sampleJob (id : Uuid) : Job :=
  { Job.new (.stage .computeFingerprint id false) (.computeFingerprint id)
      (by simp [JobKey.owns, JobCommand.jobType, JobCommand.stageIngest]) id 0 0 5 with
    state := .running ⟨id, "worker", minute, 0⟩
    attemptCount := 1 }

/-- Two ingests whose fingerprint jobs run. -/
def sampleDb : Db :=
  { Db.empty with
    ingests := (Db.empty.ingests.set 10 (sampleIngest 10)).set 20 (sampleIngest 20)
    jobs := (Db.empty.jobs.put (sampleJob 10)).put (sampleJob 20)
    fresh := 30 }

def sampleVideo (id : Uuid) (sha256 : String) : Library.MediaIngest :=
  ⟨.video, sha256, none, [], none, some (id, "canonical.mp4")⟩

/-- A session up to its insertion, if it makes a media. -/
def sampleSession (id : Uuid) (sha256 : String) : List Action :=
  [.openSession id id ⟨(sampleJob id).id, 1, "worker", id⟩ (sampleVideo id sha256)
      (some steadyExtraction),
    .acquire id, .begin id, .search id, .align id, .check id]

end Samples

/-- Two ingests of one picture in different bytes: the second one is held back. -/
theorem second_steady_video_is_held_back : ∃ acts w w' u, Run step Unrestricted initial acts w ∧
    MakesMedia w 10 30 ∧ step w (.insert 10) = some w' ∧
    exec step w' (.release 10 :: sampleSession 20 "other") = some u ∧
    (u.db.ingests.get 20).map (·.status) = some .duplicatePending ∧ ∀ m, ¬ MakesMedia u 20 m := by
  have all : (exec step initial (.elsewhere sampleDb :: sampleSession 10 "one")).any (fun w =>
      (step w (.insert 10)).any (fun w' =>
        (exec (fun v act =>
            if v.meets 20 20 steadyExtraction 30 act then step v act else none) w'
          (.release 10 :: sampleSession 20 "other")).any (fun u =>
            (w.db.media.get 30).isNone && (w'.db.media.get 30).isSome &&
            decide ((w.sessions.get 10).bind (·.extraction) = some steadyExtraction ∧
              (u.sessions.get 20).map (fun s => (s.ingestId, s.extraction)) =
                some (20, some steadyExtraction) ∧
              (u.db.ingests.get 20).map (·.status) = some .duplicatePending)))) = true := by
    decide +kernel
  obtain ⟨w, reached, all⟩ := (Option.any_eq_true _ _).mp all
  obtain ⟨w', inserted, all⟩ := (Option.any_eq_true _ _).mp all
  obtain ⟨u, checked, all⟩ := (Option.any_eq_true _ _).mp all
  simp only [Bool.and_eq_true, Option.isNone_iff_eq_none, decide_eq_true_eq] at all
  obtain ⟨⟨absent, present⟩, extracted, second, held⟩ := all
  obtain ⟨s, found, extracted⟩ := Option.bind_eq_some_iff.mp extracted
  obtain ⟨s', found', same⟩ := Option.map_eq_some_iff.mp second
  obtain ⟨ingest, extracted'⟩ := Prod.mk.inj same
  have strong : StrongDuplicates steadyExtraction steadyExtraction := by
    have valid : steadyVideo.Valid := decoded_valid steadyExtraction.decodes
    refine ⟨_, alignVideoSequences_ok_iff.mpr ⟨default_admits.comparable valid valid, rfl⟩, ?_⟩
    decide +kernel
  have makes : MakesMedia w 10 30 := ⟨w', inserted, absent, present⟩
  have run := run_of_exec_checked checked
  have serialized := (video_identities_are_serialized (run_of_exec reached)).2.2.2
  refine ⟨_, w, w', u, run_of_exec reached, makes, inserted, exec_of_run run, held, ?_⟩
  have meets : Run step (fun v act => v.meets s'.ingestId 20 steadyExtraction 30 act = true) w'
      (.release 10 :: sampleSession 20 "other") u := by
    rw [ingest]
    exact run
  exact serialized 10 s steadyExtraction 30 w' found extracted makes inserted 20 s'
    steadyExtraction _ u strong meets found' extracted'

end Sooqa.VideoIdentity
