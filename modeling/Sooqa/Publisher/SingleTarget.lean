import Sooqa.Publisher.Targets

/-!
At most one channel is enabled, and a post is committed for an enabled one,
whatever the order of the statements. Both rest on the locks: no two
transactions hold conflicting ones, and what a transaction has read under its
locks stays true until it ends.
-/
namespace Sooqa.Publisher.Targets
open Foundation Queue

section Sound
variable {db db' : Db} {phase phase' : Phase}

def Enabled (db : Db) (id : Uuid) : Prop :=
  ∃ channel, db.channels.get id = some channel ∧ channel.isEnabled = true

/-- An enabled row in this place leaves no other enabled. -/
def Alone (db : Db) (id : Uuid) (row : Channel) : Prop :=
  row.isEnabled = true → ∀ other channel, other ≠ id → db.channels.get other = some channel →
    channel.isEnabled = false

/-- What a transaction has read under its locks. -/
def Phase.Sound (db : Db) : Phase → Prop
  | .createAlone _ => ∀ id channel, db.channels.get id = some channel → channel.isEnabled = false
  | .created id row => db.channels.get id = none ∧ Alone db id row
  | .updateAlone id row | .updated id row => Alone db id row
  | .selecting _ _ kept => ∀ id ∈ kept, Enabled db id
  | .chosen _ channelId => Enabled db channelId
  | .targeted _ channelId channel =>
    db.channels.get channelId = some channel ∧ channel.isEnabled = true
  | .inserted _ _ post _ => Enabled db post.channelId
  | _ => True

theorem sound_congr (same : db'.channels = db.channels) (sound : phase.Sound db) :
    phase.Sound db' := by
  cases phase <;> simp only [Phase.Sound, Enabled, Alone, same] at sound ⊢ <;> exact sound

theorem none_enabled (h : otherEnabled db none = false) {id : Uuid} {channel : Channel}
    (found : db.channels.get id = some channel) : channel.isEnabled = false := by
  cases enabled : channel.isEnabled with
  | false => rfl
  | true => cases otherEnabled_false h found enabled

theorem alone_of_checked {id : Uuid} {row : Channel}
    (h : row.isEnabled = true → otherEnabled db (some id) = false) : Alone db id row := by
  intro enabled other channel ne found
  cases still : channel.isEnabled with
  | false => rfl
  | true => exact absurd (Option.some.inj (otherEnabled_false (h enabled) found still)) ne

theorem ensurePublicationChannel_ok {ids : List Uuid} {id : Uuid}
    (h : ensurePublicationChannel ids = .ok id) : ids = [id] := by
  unfold ensurePublicationChannel at h
  split at h
  · cases h
  · cases h
    rfl
  · cases h

/-- The inserted post is for the channel it was created with. -/
theorem insertIntendedPost_channel {calendar : Calendar} {requestKey : String}
    {requestHash : Digest} {origin : Option Uuid} {mediaId channelId : Uuid} {channel : Channel}
    {intent : PublicationIntent} {created : CreatePostResult}
    (h : insertIntendedPost calendar db requestKey requestHash origin mediaId channelId channel
      intent = .ok (db', created)) : created.post.channelId = channelId := by
  simp only [insertIntendedPost, bind_ok] at h
  obtain ⟨evaluationAt, -, ⟨inserted, id⟩, -, h⟩ := h
  split at h
  · simp only [bind_ok, pure_ok, Prod.mk.injEq] at h
    obtain ⟨-, -, -, rfl⟩ := h
    rfl
  · simp only [pure_ok, Prod.mk.injEq] at h
    obtain ⟨-, rfl⟩ := h
    rfl

variable {calendar : Calendar} {isTimeZone : String → Bool}

/-- A statement that goes on leaves its transaction with what it read. -/
theorem advance_sound (sound : phase.Sound db)
    (h : advance calendar isTimeZone db phase = .next phase') : phase'.Sound db := by
  cases phase with
  | createBegun channel =>
    cases h
    trivial
  | createLocked channel =>
    simp only [advance] at h
    split at h
    · cases h
    · rename_i alone
      cases h
      exact fun _ _ found => none_enabled (by simpa using alone) found
  | createAlone channel =>
    simp only [advance] at h
    split at h
    · cases h
    · rename_i free
      cases h
      simp only [Bool.or_eq_true, not_or, Bool.not_eq_true, Option.isSome_eq_false_iff,
        Option.isNone_iff_eq_none] at free
      exact ⟨free.1, fun _ other row _ found => sound other row found⟩
  | created id row => cases h
  | updateBegun id update =>
    cases h
    trivial
  | updateLocked id update =>
    simp only [advance] at h
    split at h
    · cases h
    · cases h
      trivial
  | updateRead id update current =>
    simp only [advance] at h
    split at h
    · cases h
    · split at h
      · cases h
      · rename_i row checked ambiguous
        cases h
        refine alone_of_checked (fun enabled => ?_)
        simpa [enabled] using ambiguous
  | updateAlone id row =>
    simp only [advance] at h
    split at h
    · cases h
    · cases h
      exact sound
  | updated id row => cases h
  | intentBegun request =>
    cases h
    trivial
  | intentLocked request =>
    simp only [advance] at h
    split at h
    · cases h
      trivial
    · split at h <;> cases h
  | intentNew request =>
    simp only [advance] at h
    split at h
    · cases h
    · cases h
      exact nofun
  | selecting request waiting kept =>
    cases waiting with
    | nil =>
      simp only [advance] at h
      split at h
      · cases h
      · rename_i channelId one
        cases h
        exact sound channelId (by rw [ensurePublicationChannel_ok one]; exact List.mem_singleton_self _)
    | cons id waiting =>
      simp only [advance, Progress.next.injEq] at h
      subst h
      intro other member
      split at member
      · rename_i enabled
        rcases List.mem_append.mp member with before | here
        · exact sound other before
        · rw [List.mem_singleton.mp here]
          exact (Option.any_eq_true _ _).mp enabled
      · exact sound other member
  | chosen request channelId =>
    simp only [advance] at h
    split at h
    · cases h
    · rename_i channel found
      cases h
      obtain ⟨row, present, enabled⟩ := sound
      rw [lockChannel, expect_ok] at found
      rw [found] at present
      cases present
      exact ⟨found, enabled⟩
  | targeted request channelId channel =>
    simp only [advance] at h
    split at h
    · cases h
    · rename_i after created inserted
      cases h
      have target := insertIntendedPost_channel inserted
      exact ⟨channel, by rw [target]; exact sound.1, sound.2⟩
  | inserted request id post job => cases h

/-- A statement takes no lock but the one it waited for. -/
theorem advance_locks (h : advance calendar isTimeZone db phase = .next phase')
    {lock : Lock Resource} (member : lock ∈ phase'.locks) :
    lock ∈ phase.locks ∨ phase.needs = some lock := by
  cases phase with
  | createBegun channel =>
    cases h
    rw [List.mem_singleton.mp member]
    exact .inr rfl
  | createLocked channel =>
    simp only [advance] at h
    split at h
    · cases h
    · cases h
      exact .inl member
  | createAlone channel =>
    simp only [advance] at h
    split at h
    · cases h
    · cases h
      exact .inl member
  | created id row => cases h
  | updateBegun id update =>
    cases h
    rw [List.mem_singleton.mp member]
    exact .inr rfl
  | updateLocked id update =>
    simp only [advance] at h
    split at h
    · cases h
    · cases h
      rcases List.mem_cons.mp member with first | second
      · exact .inl (first ▸ List.mem_singleton_self _)
      · rw [List.mem_singleton.mp second]
        exact .inr rfl
  | updateRead id update current =>
    simp only [advance] at h
    split at h
    · cases h
    · split at h
      · cases h
      · cases h
        exact .inl member
  | updateAlone id row =>
    simp only [advance] at h
    split at h
    · cases h
    · cases h
      exact .inl member
  | updated id row => cases h
  | intentBegun request =>
    cases h
    rw [List.mem_singleton.mp member]
    exact .inr rfl
  | intentLocked request =>
    simp only [advance] at h
    split at h
    · cases h
      exact .inl member
    · split at h <;> cases h
  | intentNew request =>
    simp only [advance] at h
    split at h
    · cases h
    · cases h
      simp only [Phase.locks, List.map_nil, List.append_nil, List.mem_cons, List.not_mem_nil,
        or_false] at member ⊢
      exact member.imp_right (fun here => congrArg some here.symm)
  | selecting request waiting kept =>
    cases waiting with
    | nil =>
      simp only [advance] at h
      split at h
      · cases h
      · rename_i channelId one
        cases h
        rw [ensurePublicationChannel_ok one]
        exact .inl member
    | cons id waiting =>
      simp only [advance, Progress.next.injEq] at h
      subst h
      split at member
      · simp only [Phase.locks, List.map_append, List.map_cons, List.map_nil, ← List.append_assoc,
          List.mem_append, List.mem_singleton] at member
        rcases member with before | here
        · exact .inl (List.mem_append.mpr before)
        · exact .inr (congrArg some here.symm)
      · exact .inl member
  | chosen request channelId =>
    simp only [advance] at h
    split at h
    · cases h
    · cases h
      simp only [Phase.locks, List.mem_cons, List.not_mem_nil, or_false] at member ⊢
      rcases member with first | second | third
      · exact .inl (.inl first)
      · exact .inl (.inr (.inl second))
      · exact .inr (congrArg some third.symm)
  | targeted request channelId channel =>
    simp only [advance] at h
    split at h
    · cases h
    · rename_i after created inserted
      cases h
      have target := insertIntendedPost_channel inserted
      simp only [Phase.locks, target] at member ⊢
      exact .inl member
  | inserted request id post job => cases h

/-- Only a settings transaction commits a channel, the row it has checked. -/
theorem advance_committed (sound : phase.Sound db)
    (h : advance calendar isTimeZone db phase = .committed db') :
    db'.channels = db.channels ∨ ∃ id row, db'.channels = db.channels.set id row ∧
      Alone db id row ∧ lockExclusive .configuration ∈ phase.locks ∧
      (db.channels.get id = none ∨ lockExclusive (.channel id) ∈ phase.locks) := by
  cases phase with
  | created id row =>
    cases h
    exact .inr ⟨id, row, rfl, sound.2, List.mem_cons_self, .inl sound.1⟩
  | updated id row =>
    cases h
    exact .inr ⟨id, row, rfl, sound, List.mem_cons_self,
      .inr (List.mem_cons_of_mem _ (List.mem_singleton_self _))⟩
  | inserted request id post job =>
    cases h
    exact .inl rfl
  | updateRead id update current =>
    simp only [advance] at h
    split at h
    · cases h
    · split at h <;> cases h
  | intentLocked request =>
    simp only [advance] at h
    split at h
    · cases h
    · split at h <;> cases h
  | selecting request waiting kept =>
    cases waiting with
    | nil =>
      simp only [advance] at h
      split at h <;> cases h
    | cons id waiting => cases h
  | createBegun channel | updateBegun id update | intentBegun request => cases h
  | createLocked channel | createAlone channel | updateLocked id update | updateAlone id row
  | intentNew request | chosen request channelId | targeted request channelId channel =>
    simp only [advance] at h
    split at h <;> cases h

/-- A committed channel leaves what another transaction has read, as their
    locks do not conflict. -/
theorem sound_set {other : Phase} {id : Uuid} {row : Channel}
    (settings : lockExclusive .configuration ∈ phase.locks)
    (held : db.channels.get id = none ∨ lockExclusive (.channel id) ∈ phase.locks)
    (apart : ∀ lock ∈ phase.locks, lock.blocked other.locks = false)
    (written : db'.channels = db.channels.set id row) (sound : other.Sound db) :
    other.Sound db' := by
  have apart_row {channelId : Uuid} {channel : Channel} {mode : Mode}
      (locked : ⟨.channel channelId, mode⟩ ∈ other.locks)
      (found : db.channels.get channelId = some channel) : channelId ≠ id := by
    rintro rfl
    rcases held with absent | exclusive
    · rw [absent] at found
      cases found
    · have free := apart _ exclusive
      have hit : (lockExclusive (.channel channelId)).blocked other.locks = true :=
        Lock.blocked_iff.mpr ⟨_, locked, rfl, by cases mode <;> rfl⟩
      rw [free] at hit
      cases hit
  have enabled {channelId : Uuid} {mode : Mode} (locked : ⟨.channel channelId, mode⟩ ∈ other.locks)
      (was : Enabled db channelId) : Enabled db' channelId := by
    obtain ⟨channel, found, still⟩ := was
    exact ⟨channel, by rw [written, Table.get_set_ne _ _ (apart_row locked found)]; exact found,
      still⟩
  have idle (configured : lockExclusive .configuration ∈ other.locks) : False := by
    have free := apart _ settings
    have hit : (lockExclusive Resource.configuration).blocked other.locks = true :=
      Lock.blocked_iff.mpr ⟨_, configured, rfl, rfl⟩
    rw [free] at hit
    cases hit
  cases other with
  | createBegun channel | updateBegun id update | intentBegun request | intentLocked request
  | intentNew request => trivial
  | createLocked channel | createAlone channel | created id row | updateLocked id update
  | updateRead id update current | updateAlone id row | updated id row =>
    exact (idle List.mem_cons_self).elim
  | selecting request waiting kept =>
    intro channelId member
    refine @enabled channelId .shared ?_ (sound channelId member)
    exact List.mem_append_right _ (List.mem_map_of_mem member)
  | chosen request channelId =>
    exact enabled (List.mem_cons_of_mem _ (List.mem_cons_of_mem _ List.mem_cons_self)) sound
  | targeted request channelId channel =>
    obtain ⟨found, still⟩ := sound
    have ne := apart_row
      (List.mem_cons_of_mem _ (List.mem_cons_of_mem _ List.mem_cons_self)) found
    exact ⟨by rw [written, Table.get_set_ne _ _ ne]; exact found, still⟩
  | inserted request id post job =>
    exact enabled (List.mem_cons_of_mem _ (List.mem_cons_of_mem _ List.mem_cons_self)) sound

end Sound

section Runs
variable {calendar : Calendar} {isTimeZone : String → Bool} {w w' : World} {act : Action}

structure World.Safe (w : World) : Prop where
  single : SingleTarget w.db
  sound : ∀ session phase, w.sessions.get session = some phase → phase.Sound w.db
  apart : ∀ one other p q, w.sessions.get one = some p → w.sessions.get other = some q →
    one ≠ other → ∀ lock ∈ p.locks, lock.blocked q.locks = false

theorem grants_free {session : Uuid} {lock : Lock Resource} (granted : w.grants session lock = true)
    {other : Uuid} {phase : Phase} (found : w.sessions.get other = some phase)
    (ne : other ≠ session) : lock.blocked phase.locks = false := by
  have row := (Table.mem_rows_iff w.sessions other phase).mpr found
  have clear := List.all_eq_true.mp granted (other, phase) row
  simpa [ne] using clear

/-- Locks that do not conflict with the others' do so from either side. -/
theorem blocked_symm {locks others : List (Lock Resource)}
    (free : ∀ lock ∈ locks, lock.blocked others = false) {other : Lock Resource}
    (member : other ∈ others) : other.blocked locks = false := by
  cases hit : other.blocked locks with
  | false => rfl
  | true =>
    obtain ⟨lock, held, same, conflicts⟩ := Lock.blocked_iff.mp hit
    have back : lock.blocked others = true := Lock.blocked_iff.mpr
      ⟨other, member, same.symm, by rw [Mode.conflicts_comm]; exact conflicts⟩
    rw [free lock held] at back
    cases back

theorem safe_remove {session : Uuid} {db : Db} (safe : w.Safe) (single : SingleTarget db)
    (sound : ∀ other phase, other ≠ session → w.sessions.get other = some phase → phase.Sound db) :
    World.Safe ⟨db, w.sessions.remove session⟩ := by
  refine ⟨single, ?_, ?_⟩
  · intro other phase found
    rw [Table.get_remove] at found
    split at found
    · cases found
    · rename_i ne
      exact sound other phase ne found
  · intro one other p q hone hother
    rw [Table.get_remove] at hone hother
    split at hone
    · cases hone
    · split at hother
      · cases hother
      · exact safe.apart one other p q hone hother

theorem safe_set {session : Uuid} {db : Db} {phase : Phase} (safe : w.Safe)
    (channels : db.channels = w.db.channels) (sound : phase.Sound w.db)
    (free : ∀ other q, other ≠ session → w.sessions.get other = some q →
      ∀ lock ∈ phase.locks, lock.blocked q.locks = false) :
    World.Safe ⟨db, w.sessions.set session phase⟩ := by
  refine ⟨?_, ?_, ?_⟩
  · intro one other channel channel'
    rw [channels]
    exact safe.single one other channel channel'
  · intro other q found
    rcases Table.get_set_cases found with ⟨-, rfl⟩ | ⟨-, old⟩
    · exact sound_congr channels sound
    · exact sound_congr channels (safe.sound other q old)
  · intro one other p q hone hother ne lock held
    rcases Table.get_set_cases hone with ⟨rfl, rfl⟩ | ⟨ne_one, old_one⟩
    · rcases Table.get_set_cases hother with ⟨rfl, -⟩ | ⟨ne_other, old_other⟩
      · exact absurd rfl ne
      · exact free other q ne_other old_other lock held
    · rcases Table.get_set_cases hother with ⟨rfl, rfl⟩ | ⟨ne_other, old_other⟩
      · exact blocked_symm (free one p ne_one old_one) held
      · exact safe.apart one other p q old_one old_other ne lock held

theorem single_set {db db' : Db} {id : Uuid} {row : Channel} (single : SingleTarget db)
    (alone : Alone db id row) (written : db'.channels = db.channels.set id row) :
    SingleTarget db' := by
  intro one other channel channel' hone hother enabled enabled'
  rw [written] at hone hother
  rcases Table.get_set_cases hone with ⟨rfl, rfl⟩ | ⟨ne_one, old_one⟩
  · rcases Table.get_set_cases hother with ⟨rfl, -⟩ | ⟨ne_other, old_other⟩
    · rfl
    · rw [alone enabled other channel' ne_other old_other] at enabled'
      cases enabled'
  · rcases Table.get_set_cases hother with ⟨rfl, rfl⟩ | ⟨ne_other, old_other⟩
    · rw [alone enabled' one channel ne_one old_one] at enabled
      cases enabled
    · exact single one other channel channel' old_one old_other enabled enabled'

theorem advance_safe {session : Uuid} (safe : w.Safe)
    (h : w.advance calendar isTimeZone session = some w') : w'.Safe := by
  unfold World.advance at h
  split at h
  · cases h
  rename_i phase found
  split at h
  case isFalse => cases h
  rename_i granted
  have sound := safe.sound session phase found
  split at h
  · rename_i phase' next
    cases h
    refine safe_set safe rfl (advance_sound sound next) ?_
    intro other q ne there lock held
    rcases advance_locks next held with before | needed
    · exact safe.apart session other phase q found there ne.symm lock before
    · rw [needed, Option.all_some] at granted
      exact grants_free granted there ne
  · cases h
    exact safe_remove safe safe.single (fun other p _ there => safe.sound other p there)
  · cases h
    exact safe_remove safe safe.single (fun other p _ there => safe.sound other p there)
  · rename_i db committed
    cases h
    rcases advance_committed sound committed with same | ⟨id, row, written, alone, settings, held⟩
    · refine safe_remove safe ?_ (fun other p _ there => sound_congr same (safe.sound other p there))
      intro one other channel channel'
      rw [same]
      exact safe.single one other channel channel'
    · refine safe_remove safe (single_set safe.single alone written) ?_
      intro other p ne there
      exact sound_set settings held
        (fun lock member => safe.apart session other phase p found there ne.symm lock member)
        written (safe.sound other p there)

/-- A transaction that has only begun has read nothing and holds nothing. -/
theorem begun_idle {now : Time} {call : Call} {phase : Phase}
    (h : begun isTimeZone now call = .ok phase) : phase.locks = [] ∧ ∀ db, phase.Sound db := by
  cases call with
  | createChannel channel =>
    simp only [begun] at h
    split at h
    · cases h
      exact ⟨rfl, fun _ => trivial⟩
    · cases h
    · cases h
  | updateChannel id update =>
    simp only [begun] at h
    split at h
    · cases h
    · cases h
      exact ⟨rfl, fun _ => trivial⟩
  | createIntent mediaId intent requestKey =>
    simp only [begun] at h
    split at h
    · cases h
    · cases h
      exact ⟨rfl, fun _ => trivial⟩

theorem step_safe (safe : w.Safe) (h : w.step calendar isTimeZone act = some w') : w'.Safe := by
  cases act with
  | begin session call =>
    simp only [World.step] at h
    split at h
    · cases h
    · split at h
      · cases h
        exact safe
      · rename_i phase begins
        cases h
        obtain ⟨nothing, sound⟩ := begun_idle begins
        refine safe_set safe rfl (sound w.db) ?_
        intro other q _ _ lock held
        rw [nothing] at held
        cases held
  | advance session => exact advance_safe safe h
  | abort session =>
    cases h
    exact safe_remove safe safe.single (fun other p _ there => safe.sound other p there)
  | elsewhere db =>
    cases h
    exact ⟨safe.single, fun session phase found => sound_congr rfl (safe.sound session phase found),
      safe.apart⟩

theorem initial_safe {db : Db} (single : SingleTarget db) : World.Safe ⟨db, ∅⟩ where
  single := single
  sound := by
    intro session phase found
    cases found
  apart := by
    intro one other p q found
    cases found

theorem run_safe {db : Db} (single : SingleTarget db) {trace : List Action}
    (run : Run (World.step calendar isTimeZone) Unrestricted ⟨db, ∅⟩ trace w) : w.Safe :=
  run_invariant World.Safe (fun safe _ => step_safe safe) (initial_safe single) run

/-- The channels change where a transaction commits and nowhere else. -/
theorem step_channels (h : w.step calendar isTimeZone act = some w') :
    w'.db.channels = w.db.channels ∨ ∃ session phase after, act = .advance session ∧
      w.sessions.get session = some phase ∧
      advance calendar isTimeZone w.db phase = .committed after := by
  cases act with
  | begin session call =>
    simp only [World.step] at h
    split at h
    · cases h
    · split at h
      · cases h
        exact .inl rfl
      · cases h
        exact .inl rfl
  | advance session =>
    simp only [World.step, World.advance] at h
    split at h
    · cases h
    rename_i phase found
    split at h
    case isFalse => cases h
    split at h
    · cases h
      exact .inl rfl
    · cases h
      exact .inl rfl
    · cases h
      exact .inl rfl
    · rename_i db committed
      exact .inr ⟨session, phase, db, rfl, found, committed⟩
  | abort session =>
    cases h
    exact .inl rfl
  | elsewhere db =>
    cases h
    exact .inl rfl

/-- One enabled channel at most, posts only for the enabled one, and no trace of
    a call that was rejected. -/
theorem single_publication_target {db : Db} (single : SingleTarget db) {trace : List Action}
    (run : Run (World.step calendar isTimeZone) Unrestricted ⟨db, ∅⟩ trace w) :
    SingleTarget w.db ∧
    (∀ session request id post job w',
      w.sessions.get session = some (.inserted request id post job) →
      w.step calendar isTimeZone (.advance session) = some w' →
      w'.db.posts.get id = some post ∧ Enabled w.db post.channelId ∧
        Enabled w'.db post.channelId) ∧
    (∀ act w', w.step calendar isTimeZone act = some w' → w'.db.channels ≠ w.db.channels →
      ∃ session phase after, act = .advance session ∧ w.sessions.get session = some phase ∧
        advance calendar isTimeZone w.db phase = .committed after) := by
  have safe := run_safe single run
  refine ⟨safe.single, ?_, ?_⟩
  · intro session request id post job w' found h
    have enabled := safe.sound session _ found
    simp only [World.step, World.advance, found] at h
    split at h
    case isFalse => cases h
    cases h
    exact ⟨Table.get_set_self _ _ _, enabled, enabled⟩
  · intro act w' h changed
    exact (step_channels h).resolve_left changed

/-- A stored media and no channel yet. -/
def sampleDb : Db := { Db.empty with media := Table.set ∅ 200 sampleMedia }

def sampleNewChannel : NewChannel := ⟨"clips", -1001, "UTC", 0, 86400, 30, none, false⟩

def sampleDisable : ChannelUpdate :=
  ⟨none, none, some false, none, none, none, none, none, none, none⟩

/-- A channel is created, an intent chooses it, and an update that disables it
    has to wait for the intent. -/
def sampleTrace : List Action :=
  [.begin 1 (.createChannel sampleNewChannel), .advance 1, .advance 1, .advance 1, .advance 1,
    .begin 2 (.createIntent 200 ⟨.postNow, none, none⟩ "key"), .advance 2, .advance 2, .advance 2,
    .advance 2, .advance 2, .begin 3 (.updateChannel 2 sampleDisable), .advance 3, .advance 2,
    .advance 2]

theorem chosen_target_is_enabled : ∃ w request id post job w',
    Run (World.step sampleCalendar (fun _ => true)) Unrestricted ⟨sampleDb, ∅⟩ sampleTrace w ∧
      w.sessions.get 2 = some (.inserted request id post job) ∧
      w.step sampleCalendar (fun _ => true) (.advance 3) = none ∧
      w.step sampleCalendar (fun _ => true) (.advance 2) = some w' ∧
      w'.db.posts.get id = some post ∧ Enabled w'.db post.channelId := by
  obtain ⟨w, request, id, post, job, w', reached, inserted, waits, commits⟩ :
      ∃ w request id post job w',
        exec (World.step sampleCalendar (fun _ => true)) ⟨sampleDb, ∅⟩ sampleTrace = some w ∧
        w.sessions.get 2 = some (.inserted request id post job) ∧
        w.step sampleCalendar (fun _ => true) (.advance 3) = none ∧
        w.step sampleCalendar (fun _ => true) (.advance 2) = some w' :=
    ⟨_, _, _, _, _, _, rfl, rfl, rfl, rfl⟩
  have single : SingleTarget sampleDb := by
    intro one other channel channel' found
    cases found
  have run := run_of_exec reached
  obtain ⟨committed, -, enabled⟩ :=
    (single_publication_target single run).2.1 2 request id post job w' inserted commits
  exact ⟨w, request, id, post, job, w', run, inserted, waits, commits, committed, enabled⟩

end Runs

end Sooqa.Publisher.Targets
