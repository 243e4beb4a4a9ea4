import Sooqa.Foundation.Text
import Sooqa.Foundation.Transition
import Sooqa.Inbox.LifecycleEffects
import Sooqa.Captions.Repository

/-!
Tags, from the submission to the media row. A submission lowers ASCII letters
only; the identity transactions and the operator's edit normalize what they
write, the acceptance of a duplicate takes the supplied tags as they are.
-/
namespace Sooqa.Library.Tags
open Foundation Queue

abbrev Unicode := CharacterData Publisher.isWhiteSpace

section Normalization
variable (data : Unicode)

def maxTagLength : Nat := 100

inductive TagValidationError where
  | empty
  | tooLong (max : Nat)
  deriving DecidableEq, Repr

def normalizeTag (value : String) : Except TagValidationError String :=
  let value := String.ofList (data.lowercase (Publisher.trim value).toList)
  if value.toList.isEmpty then .error .empty
  else if maxTagLength < value.toList.length then .error (.tooLong maxTagLength)
  else .ok value

/-- Append a tag unless the list has it. -/
def pushAbsent (tags : List String) (tag : String) : List String :=
  if tag ∈ tags then tags else tags ++ [tag]

def normalizeTags (tags : List String) : Except TagValidationError (List String) :=
  tags.foldlM (fun normalized tag => do
    let tag ← normalizeTag data tag
    pure (pushAbsent normalized tag)) []

def toAsciiLowercase (value : String) : String := String.ofList (value.toList.map Char.toLower)

/-- The tags of `try_new_inner`; `none` is its `EmptyTag`. -/
def suppliedTags (tags : List String) : Option (List String) :=
  tags.foldlM (fun supplied tag =>
    let tag := toAsciiLowercase (Publisher.trim tag)
    if tag.toList.isEmpty then none else some (pushAbsent supplied tag)) []

/-- A tag that `normalize_tag` gives back as it is. -/
def Fixed (tag : String) : Prop := normalizeTag data tag = .ok tag

structure Normal (tags : List String) : Prop where
  nodup : tags.Nodup
  fixed : ∀ tag ∈ tags, Fixed data tag

variable {data}

theorem normalizeTag_fixed {value tag : String} (h : normalizeTag data value = .ok tag) :
    Fixed data tag := by
  unfold normalizeTag at h
  simp only at h
  split at h
  · cases h
  rename_i filled
  split at h
  · cases h
  rename_i short
  simp only [Except.ok.injEq] at h
  have trimmed : Trimmed Publisher.isWhiteSpace tag.toList := by
    rw [← h, String.toList_ofList]
    exact CharacterData.lowercase_trimmed (by
      unfold Publisher.trim
      rw [String.toList_ofList]
      exact trimEnds_trimmed _ _)
  have kept : (Publisher.trim tag).toList = tag.toList := by
    unfold Publisher.trim
    rw [String.toList_ofList]
    exact trimmed.trimEnds
  have lowered : data.lowercase tag.toList = tag.toList := by
    rw [← h, String.toList_ofList]
    exact CharacterData.lowercase_lowercase _
  unfold Fixed normalizeTag
  rw [h] at filled short
  simp only [kept, lowered, String.ofList_toList, filled, short, if_false, Bool.false_eq_true]

/-- Two tags of a normal list that normalize alike are the same tag. -/
theorem Normal.distinct {tags : List String} (normal : Normal data tags) {one other : String}
    (hone : one ∈ tags) (hother : other ∈ tags)
    (alike : normalizeTag data one = normalizeTag data other) : one = other := by
  rw [normal.fixed one hone, normal.fixed other hother] at alike
  exact Except.ok.inj alike

theorem normal_nil : Normal data [] := ⟨List.nodup_nil, nofun⟩

theorem mem_pushAbsent {tags : List String} {tag added : String} :
    tag ∈ pushAbsent tags added ↔ tag ∈ tags ∨ tag = added := by
  unfold pushAbsent
  split
  · rename_i present
    refine ⟨Or.inl, ?_⟩
    rintro (member | rfl)
    · exact member
    · exact present
  · simp

theorem nodup_pushAbsent {tags : List String} {added : String} (nodup : tags.Nodup) :
    (pushAbsent tags added).Nodup := by
  unfold pushAbsent
  split
  · exact nodup
  · rename_i absent
    rw [List.nodup_append]
    refine ⟨nodup, List.nodup_singleton _, ?_⟩
    rintro tag member other single rfl
    exact absent (List.mem_singleton.mp single ▸ member)

theorem normal_pushAbsent {tags : List String} {added : String} (normal : Normal data tags)
    (fixed : Fixed data added) : Normal data (pushAbsent tags added) where
  nodup := nodup_pushAbsent normal.nodup
  fixed := by
    intro tag member
    rcases mem_pushAbsent.mp member with old | rfl
    · exact normal.fixed tag old
    · exact fixed

theorem normalizeTags_from {raw tags normalized : List String} (start : Normal data normalized)
    (h : raw.foldlM (fun normalized tag => do
      let tag ← normalizeTag data tag
      pure (pushAbsent normalized tag)) normalized = .ok tags) : Normal data tags := by
  induction raw generalizing normalized with
  | nil =>
    rw [List.foldlM_nil, pure_ok] at h
    exact h ▸ start
  | cons tag rest ih =>
    simp only [List.foldlM_cons, bind_ok, pure_ok] at h
    obtain ⟨next, ⟨clean, cleaned, rfl⟩, h⟩ := h
    exact ih (normal_pushAbsent start (normalizeTag_fixed cleaned)) h

theorem normalizeTags_normal {raw tags : List String} (h : normalizeTags data raw = .ok tags) :
    Normal data tags := normalizeTags_from normal_nil h

theorem mergeTags_cons (existing rest : List String) (tag : String) :
    mergeTags existing (tag :: rest) = mergeTags (pushAbsent existing tag) rest := rfl

theorem mem_mergeTags {existing incoming : List String} {tag : String} :
    tag ∈ mergeTags existing incoming ↔ tag ∈ existing ∨ tag ∈ incoming := by
  induction incoming generalizing existing with
  | nil => simp [mergeTags]
  | cons added rest ih =>
    rw [mergeTags_cons, ih, mem_pushAbsent, List.mem_cons]
    exact or_assoc

theorem nodup_mergeTags {existing incoming : List String} (nodup : existing.Nodup) :
    (mergeTags existing incoming).Nodup := by
  induction incoming generalizing existing with
  | nil => exact nodup
  | cons added rest ih => exact ih (nodup_pushAbsent nodup)

/-- A merge keeps the normal form exactly when what comes in is fixed. -/
theorem normal_mergeTags_iff {existing incoming : List String} (normal : Normal data existing) :
    Normal data (mergeTags existing incoming) ↔ ∀ tag ∈ incoming, Fixed data tag := by
  constructor
  · intro merged tag member
    exact merged.fixed tag (mem_mergeTags.mpr (.inr member))
  · intro fixed
    refine ⟨nodup_mergeTags normal.nodup, ?_⟩
    intro tag member
    rcases mem_mergeTags.mp member with old | new
    · exact normal.fixed tag old
    · exact fixed tag new

end Normalization

section System
variable (data : Unicode)

inductive Action where
  | submit (submission : Inbox.IngestSubmission)
  | resolve (ingest : MediaIngest)
  | identify (ingest : MediaIngest) (fingerprint : Option VideoFingerprintInput)
      (decision : VideoIdentityDecision) (forceSave : Bool)
  | acceptDuplicate (id mediaId : Uuid)
  | updateMedia (id : Uuid) (update : Captions.MediaUpdate)
  | elsewhere (db : Db)

/-- Every media and every ingest was there, with the tags it has. -/
def sameTags (before after : Db) : Bool :=
  (Table.rows after.media).all (fun row =>
    (before.media.get row.1).any (fun old => old.tags == row.2.tags)) &&
  (Table.rows after.ingests).all (fun row =>
    (before.ingests.get row.1).any (fun old => old.suppliedTags == row.2.suppliedTags))

/-- A submission with the tags as the client sent them. -/
def submit (db : Db) (submission : Inbox.IngestSubmission) : Db :=
  match suppliedTags submission.suppliedTags with
  | none => db
  | some tags => committed db (Inbox.createIngest db { submission with suppliedTags := tags })

def resolve (db : Db) (ingest : MediaIngest) : Db :=
  match normalizeTags data ingest.tags with
  | .error _ => db
  | .ok tags => committed db (resolveMedia db { ingest with tags := tags })

def identify (db : Db) (ingest : MediaIngest) (fingerprint : Option VideoFingerprintInput)
    (decision : VideoIdentityDecision) (forceSave : Bool) : Db :=
  match normalizeTags data ingest.tags with
  | .error _ => db
  | .ok tags =>
    committed db (persistVideoIdentity db { ingest with tags := tags } fingerprint decision forceSave)

def update (db : Db) (id : Uuid) (edit : Captions.MediaUpdate) : Db :=
  match normalizeTags data edit.tags with
  | .error _ => db
  | .ok tags => committed db (Captions.updateMedia db id { edit with tags := tags })

/-- The transactions that write tags. Whatever else happens in between leaves
    the tags of the rows that stay. -/
def step (db : Db) : Action → Option Db
  | .submit submission => some (submit db submission)
  | .resolve ingest => some (resolve data db ingest)
  | .identify ingest fingerprint decision forceSave =>
    some (identify data db ingest fingerprint decision forceSave)
  | .acceptDuplicate id mediaId => some (committed db (Inbox.acceptDuplicate db id mediaId))
  | .updateMedia id edit => some (update data db id edit)
  | .elsewhere after => if sameTags db after then some after else none

def NormalMedia (db : Db) : Prop := ∀ id row, db.media.get id = some row → Normal data row.tags

/-- `accept_duplicate` takes a decision here: an undecided pending ingest, and a
    candidate named by its evidence that can still be used. -/
structure Decides (db : Db) (id mediaId : Uuid) (request : Ingest) (candidate : Media) : Prop where
  found : db.ingests.get id = some request
  undecided : request.data.duplicateDecision = none
  pending : request.status = .duplicatePending
  evidenced : ∃ evidence, request.duplicateEvidence = some evidence ∧ mediaId ∈ evidence
  present : db.media.get mediaId = some candidate
  usable : candidate.storageState = .ready ∨ candidate.storageState = .pending

/-- No acceptance brings a supplied tag that is no fixed point. -/
def FixedAcceptance (db : Db) : Action → Prop
  | .acceptDuplicate id mediaId => ∀ request candidate, Decides db id mediaId request candidate →
    ∀ tag ∈ request.suppliedTags, Fixed data tag
  | _ => True

end System

section Steps
variable {data : Unicode} {db db' : Db}

theorem normalMedia_set {id : Uuid} {row : Media} (normal : NormalMedia data db)
    (written : Normal data row.tags) (media : db'.media = db.media.set id row) :
    NormalMedia data db' := by
  intro other found h
  rw [media] at h
  rcases Table.get_set_cases h with ⟨rfl, rfl⟩ | ⟨-, old⟩
  · exact written
  · exact normal other found old

theorem normalMedia_same (normal : NormalMedia data db) (media : db'.media = db.media) :
    NormalMedia data db' := by
  intro id row found
  rw [media] at found
  exact normal id row found

/-- What a committed transaction keeps when every success does. -/
theorem normalMedia_committed {ε α : Type} {result : Except ε (Db × α)}
    (normal : NormalMedia data db)
    (writes : ∀ after answer, result = .ok (after, answer) → NormalMedia data after) :
    NormalMedia data (committed db result) := by
  match result with
  | .ok (after, answer) => exact writes after answer rfl
  | .error _ => exact normal

theorem enqueueCaptionSyncIfPending_media (id : Uuid) (row : Media) (changed : Bool) :
    (enqueueCaptionSyncIfPending db id row changed).media = db.media := by
  unfold enqueueCaptionSyncIfPending
  split <;> rfl

theorem createIngest_media {submission : Inbox.IngestSubmission}
    {answer : Inbox.CreateIngestResult}
    (h : Inbox.createIngest db submission = .ok (db', answer)) : db'.media = db.media := by
  unfold Inbox.createIngest at h
  split at h
  · simp only [bind_ok, pure_ok, Prod.mk.injEq] at h
    obtain ⟨-, -, rfl, -⟩ := h
    rfl
  · simp only [bind_ok, pure_ok, Prod.mk.injEq] at h
    obtain ⟨-, -, channel, -, rfl, -⟩ := h
    exact (Inbox.insertFirstJob_enqueues _ _ _).media

theorem submit_normal (normal : NormalMedia data db) (submission : Inbox.IngestSubmission) :
    NormalMedia data (submit db submission) := by
  unfold submit
  split
  · exact normal
  · exact normalMedia_committed normal (fun _ _ h => normalMedia_same normal (createIngest_media h))

theorem mergeMedia_normal {id : Uuid} {row : Media} {ingest : MediaIngest}
    (normal : NormalMedia data db) (found : db.media.get id = some row)
    (clean : Normal data ingest.tags) (h : mergeMedia db id row ingest = .ok db') :
    NormalMedia data db' := by
  simp only [mergeMedia, bind_ok, pure_ok] at h
  obtain ⟨captioned, -, rfl⟩ := h
  have merged := (normal_mergeTags_iff (normal id row found)).mpr clean.fixed
  exact normalMedia_set normal merged (enqueueCaptionSyncIfPending_media _ _ _)

theorem insertMedia_normal {ingest : MediaIngest} (normal : NormalMedia data db)
    (clean : Normal data ingest.tags) : NormalMedia data (insertMedia db ingest) :=
  normalMedia_set normal clean rfl

theorem resolve_normal (normal : NormalMedia data db) (ingest : MediaIngest) :
    NormalMedia data (resolve data db ingest) := by
  unfold resolve
  split
  · exact normal
  rename_i tags cleaned
  have clean := normalizeTags_normal cleaned
  refine normalMedia_committed normal (fun after answer h => ?_)
  unfold resolveMedia at h
  split at h
  · cases h
    exact insertMedia_normal normal clean
  · rename_i id row found
    simp only [bind_ok, pure_ok, Prod.mk.injEq] at h
    obtain ⟨merged, merge, rfl, -⟩ := h
    exact mergeMedia_normal normal (findMediaBySha_found found) clean merge

theorem identify_normal (normal : NormalMedia data db) (ingest : MediaIngest)
    (fingerprint : Option VideoFingerprintInput) (decision : VideoIdentityDecision)
    (forceSave : Bool) :
    NormalMedia data (identify data db ingest fingerprint decision forceSave) := by
  unfold identify
  split
  · exact normal
  rename_i tags cleaned
  have clean := normalizeTags_normal cleaned
  refine normalMedia_committed normal (fun after answer h => ?_)
  simp only [persistVideoIdentity, bind_ok] at h
  obtain ⟨-, -, h⟩ := h
  split at h
  · rename_i id row found
    simp only [bind_ok, pure_ok, Prod.mk.injEq] at h
    obtain ⟨merged, merge, rfl, -⟩ := h
    exact mergeMedia_normal normal (findMediaBySha_found found) clean merge
  · simp only [bind_ok] at h
    obtain ⟨print, -, -, -, h⟩ := h
    unfold persistNewVideo at h
    split at h
    · cases h
      exact insertMedia_normal normal clean
    · simp only [bind_ok] at h
      obtain ⟨-, -, h⟩ := h
      split at h
      · simp only [pure_ok, Prod.mk.injEq] at h
        obtain ⟨rfl, -⟩ := h
        exact insertMedia_normal normal clean
      · simp only [bind_ok, pure_ok, Prod.mk.injEq] at h
        obtain ⟨-, -, rfl, -⟩ := h
        exact normal

theorem update_normal (normal : NormalMedia data db) (id : Uuid) (edit : Captions.MediaUpdate) :
    NormalMedia data (update data db id edit) := by
  unfold update
  split
  · exact normal
  rename_i tags cleaned
  have clean := normalizeTags_normal cleaned
  refine normalMedia_committed normal (fun after answer h => ?_)
  simp only [Captions.updateMedia, bind_ok, pure_ok, Prod.mk.injEq] at h
  obtain ⟨row, -, -, -, captioned, -, rfl, -⟩ := h
  exact normalMedia_set normal clean (enqueueCaptionSyncIfPending_media _ _ _)

/-- The media an accepted decision leaves: the tags of one row are merged. -/
theorem acceptDuplicate_media {id mediaId : Uuid} {answer : Inbox.AcceptDuplicateResult}
    (h : Inbox.acceptDuplicate db id mediaId = .ok (db', answer)) :
    db' = db ∨ ∃ request candidate, Decides db id mediaId request candidate ∧
      db'.media = db.media.set mediaId (Inbox.mergedDuplicate db.now request candidate) := by
  simp only [Inbox.acceptDuplicate, bind_ok] at h
  obtain ⟨request, found, h⟩ := h
  split at h
  · simp only [bind_ok, pure_ok, Prod.mk.injEq] at h
    obtain ⟨-, -, same, -⟩ := h
    exact .inl same.symm
  rename_i undecided
  simp only [bind_ok, pure_ok, Prod.mk.injEq, Inbox.decideDuplicate, require_ok, expect_ok] at h
  obtain ⟨⟨after, accepted⟩, ⟨-, pending, evidence, evidenced, -, named, candidate, present, -,
    usable, row, -, written⟩, rfl, -⟩ := h
  refine .inr ⟨request, candidate, ⟨expect_ok.mp found, undecided, pending,
    ⟨evidence, evidenced, named⟩, present, usable⟩, ?_⟩
  rw [← written]
  show Db.media (if _ then _ else _) = _
  split <;> rfl

theorem transitionTo_allowed {request : Ingest} {target : IngestStatus}
    (allowed : request.status.canTransitionTo target = true) :
    Inbox.transitionTo request target = .ok { request with status := target } := if_pos allowed

theorem acceptedIngest_decides (now : Time) (mediaId : Uuid) (ready : Bool) {request : Ingest}
    (pending : request.status = .duplicatePending) :
    ∃ accepted, Inbox.acceptedIngest now mediaId ready request = .ok accepted := by
  unfold Inbox.acceptedIngest
  simp only
  rw [transitionTo_allowed (by simp only [Inbox.clearErrors, pending]; rfl), bind_ok_eq]
  cases ready with
  | true =>
    rw [if_pos rfl, transitionTo_allowed rfl, bind_ok_eq]
    exact ⟨_, rfl⟩
  | false => exact ⟨_, rfl⟩

/-- The decision is taken whenever it can be. -/
theorem acceptDuplicate_decides {id mediaId : Uuid} {request : Ingest} {candidate : Media}
    (decides : Decides db id mediaId request candidate) : ∃ after answer,
      Inbox.acceptDuplicate db id mediaId = .ok (after, answer) ∧
      after.media = db.media.set mediaId (Inbox.mergedDuplicate db.now request candidate) := by
  obtain ⟨evidence, evidenced, named⟩ := decides.evidenced
  obtain ⟨accepted, moved⟩ := acceptedIngest_decides db.now mediaId
    (candidate.storageState == .ready) decides.pending
  have decided : ∃ after, Inbox.decideDuplicate db id request mediaId = .ok (after, accepted) := by
    simp only [Inbox.decideDuplicate, decides.pending, evidenced, named, decides.present,
      decides.usable, moved, require, expect, if_true, bind_ok_eq]
    exact ⟨_, rfl⟩
  obtain ⟨after, decided⟩ := decided
  have taken : Inbox.acceptDuplicate db id mediaId = .ok (after, ⟨accepted, false⟩) := by
    simp only [Inbox.acceptDuplicate, Inbox.loadRequest, decides.found, expect, bind_ok_eq,
      decides.undecided, decided]
    rfl
  refine ⟨after, _, taken, ?_⟩
  simp only [Inbox.decideDuplicate, bind_ok, pure_ok, require_ok, expect_ok, Prod.mk.injEq]
    at decided
  obtain ⟨-, -, -, -, -, -, row, present, -, -, ingest, -, written, -⟩ := decided
  rw [decides.present] at present
  cases present
  rw [← written]
  show Db.media (if _ then _ else _) = _
  split <;> rfl

theorem acceptDuplicate_normal {id mediaId : Uuid} (normal : NormalMedia data db)
    (fixed : FixedAcceptance data db (.acceptDuplicate id mediaId)) :
    NormalMedia data (committed db (Inbox.acceptDuplicate db id mediaId)) := by
  refine normalMedia_committed normal (fun after answer h => ?_)
  rcases acceptDuplicate_media h with rfl | ⟨request, candidate, decides, media⟩
  · exact normal
  · have clean := fixed request candidate decides
    exact normalMedia_set normal
      ((normal_mergeTags_iff (normal mediaId candidate decides.present)).mpr clean) media

/-- An acceptance of anything else leaves a row that is not normal. -/
theorem acceptDuplicate_fixed {id mediaId : Uuid} (normal : NormalMedia data db)
    (after : NormalMedia data (committed db (Inbox.acceptDuplicate db id mediaId))) :
    FixedAcceptance data db (.acceptDuplicate id mediaId) := by
  intro request candidate decides
  obtain ⟨db', answer, h, media⟩ := acceptDuplicate_decides decides
  rw [h] at after
  have found : db'.media.get mediaId = some (Inbox.mergedDuplicate db.now request candidate) := by
    rw [media]
    exact Table.get_set_self _ _ _
  exact (normal_mergeTags_iff (normal mediaId candidate decides.present)).mp
    (after mediaId _ found)

theorem elsewhere_normal {after : Db} (normal : NormalMedia data db)
    (same : sameTags db after = true) : NormalMedia data after := by
  intro id row found
  simp only [sameTags, Bool.and_eq_true, List.all_eq_true] at same
  have kept := same.1 (id, row) ((Table.mem_rows_iff _ _ _).mpr found)
  simp only [Option.any_eq_true, beq_iff_eq] at kept
  obtain ⟨old, present, tags⟩ := kept
  rw [← tags]
  exact normal id old present

/-- From a normal state the next one is normal exactly when the step is no
    acceptance of a tag that `normalize_tag` would change. -/
theorem step_normal_iff {act : Action} (normal : NormalMedia data db)
    (h : step data db act = some db') : NormalMedia data db' ↔ FixedAcceptance data db act := by
  cases act with
  | submit submission =>
    cases h
    exact iff_of_true (submit_normal normal submission) trivial
  | resolve ingest =>
    cases h
    exact iff_of_true (resolve_normal normal ingest) trivial
  | identify ingest fingerprint decision forceSave =>
    cases h
    exact iff_of_true (identify_normal normal ingest fingerprint decision forceSave) trivial
  | acceptDuplicate id mediaId =>
    cases h
    exact ⟨acceptDuplicate_fixed normal, acceptDuplicate_normal normal⟩
  | updateMedia id edit =>
    cases h
    exact iff_of_true (update_normal normal id edit) trivial
  | elsewhere after =>
    simp only [step, Option.ite_none_right_eq_some, Option.some.injEq] at h
    obtain ⟨same, rfl⟩ := h
    exact iff_of_true (elsewhere_normal normal same) trivial

theorem empty_normal : NormalMedia data .empty := fun _ _ found => by cases found

/-- The rows are normal all along a run exactly when every acceptance in it
    takes fixed points of `normalize_tag`. -/
theorem tags_are_normal_iff {trace : List Action}
    (run : Run (step data) Unrestricted db trace db') (normal : NormalMedia data db) :
    (∀ first rest reached, trace = first ++ rest → exec (step data) db first = some reached →
      NormalMedia data reached) ↔ Run (step data) (FixedAcceptance data) db trace db' := by
  constructor
  · intro along
    induction run with
    | nil db => exact .nil db
    | @cons db next last act rest ok first tail ih =>
      have after : NormalMedia data next :=
        along [act] rest next rfl (by simp only [exec, first, Option.bind_some])
      refine .cons ((step_normal_iff normal first).mp after) first (ih after ?_)
      intro front back reached split h
      refine along (act :: front) back reached (by rw [split]; rfl) ?_
      simp only [exec, first, Option.bind_some]
      exact h
  · intro fixed front back reached split h
    subst split
    obtain ⟨middle, before, -⟩ := run_split fixed
    have same : middle = reached := Option.some.inj ((exec_of_run before).symm.trans h)
    rw [← same]
    exact run_invariant (NormalMedia data)
      (fun normal ok first => (step_normal_iff normal first).mpr ok) normal before

end Steps

section Samples

/-- Lowercasing of the letters the samples use: Latin-1 and the sigmas. -/
def latinLower (c : Char) : Char :=
  if c = 'Σ' then 'σ'
  else if ('A' ≤ c ∧ c ≤ 'Z') ∨ ('À' ≤ c ∧ c ≤ 'Þ' ∧ c ≠ '×') then Char.ofNat (c.toNat + 32)
  else c

theorem latinLower_far {c : Char} (far : 0x100 ≤ c.toNat) (other : c ≠ 'Σ') :
    latinLower c = c := by
  unfold latinLower
  rw [if_neg other, if_neg]
  rintro (⟨-, le⟩ | ⟨-, le, -⟩)
  · have : c.toNat ≤ 'Z'.toNat := le
    have : 'Z'.toNat = 90 := rfl
    omega
  · have : c.toNat ≤ 'Þ'.toNat := le
    have : 'Þ'.toNat = 222 := rfl
    omega

/-- A fact about all characters from the first 256 and the capital sigma. -/
theorem latin_cases {p : Char → Prop} (near : ∀ n < 0x100, p (Char.ofNat n)) (capital : p 'Σ')
    (far : ∀ c, latinLower c = c → p c) (c : Char) : p c := by
  by_cases small : c.toNat < 0x100
  · have := near c.toNat small
    rwa [Char.ofNat_toNat] at this
  · by_cases same : c = 'Σ'
    · exact same ▸ capital
    · exact far c (latinLower_far (by omega) same)

theorem latinLower_settled (c : Char) : latinLower (latinLower c) = latinLower c := by
  refine latin_cases (p := fun c => latinLower (latinLower c) = latinLower c) ?_ rfl ?_ c
  · decide +kernel
  · intro c same
    rw [same, same]

theorem latinLower_visible (c : Char) (visible : Publisher.isWhiteSpace c = false) :
    Publisher.isWhiteSpace (latinLower c) = false := by
  refine latin_cases (p := fun c => Publisher.isWhiteSpace c = false →
    Publisher.isWhiteSpace (latinLower c) = false) ?_ (fun _ => rfl) ?_ c visible
  · decide +kernel
  · intro c same shown
    rw [same]
    exact shown

def latin : Unicode where
  toLowercase c := [latinLower c]
  cased c := latinLower c != c || ('a' ≤ c && c ≤ 'z') || ('ß' ≤ c && c ≤ 'ÿ' && c != '÷') ||
    c == 'σ' || c == 'ς'
  caseIgnorable c := c == '.' || c == ':' || c == Char.ofNat 39
  mapped _ := List.cons_ne_nil _ _
  settled c d member := by
    rw [List.mem_singleton.mp member, latinLower_settled]
  visible c visible d member := by
    rw [List.mem_singleton.mp member]
    exact latinLower_visible c visible
  sigma := rfl
  finalSigma := ⟨rfl, rfl⟩

def sampleIngest : MediaIngest := ⟨.video, "sha", none, ["É"], none, none⟩

def sampleSubmission (tags : List String) : Inbox.IngestSubmission where
  kind := .url
  normalizedUrl := "https://example.org/clip"
  telegramWorkspaceId := none
  mimeType := none
  fileName := none
  mediaKind := none
  suppliedDescription := none
  suppliedTags := tags
  requestedAction := .save
  requestedPublishAt := none
  requestedPostCaption := none
  idempotencyKey := none
  requestHash := "clip"

/-- A stored media and a submission of a similar one. -/
def sampleSubmitted (tags : List String) : Db :=
  submit (resolve latin .empty sampleIngest) (sampleSubmission tags)

/-- The identity decision found the similar media. -/
def samplePending (tags : List String) : Db :=
  let db := sampleSubmitted tags
  let pending (request : Ingest) : Ingest :=
    { request with status := .duplicatePending, duplicateEvidence := some [0] }
  { db with ingests := db.ingests.updateAll (fun _ => pending) }

def sampleSteps (tags : List String) : List Action :=
  [.resolve sampleIngest, .submit (sampleSubmission tags), .elsewhere (samplePending tags)]

/-- The accepted capital stands beside the letter it normalizes to. -/
theorem accepted_tag_is_not_normal : ∃ db row,
    Run (step latin) Unrestricted .empty (sampleSteps ["É"] ++ [.acceptDuplicate 1 0]) db ∧
      db.media.get 0 = some row ∧ row.tags = ["é", "É"] ∧ ¬ Normal latin row.tags ∧
      normalizeTag latin "É" = .ok "é" ∧ normalizeTag latin "é" = .ok "é" := by
  obtain ⟨pending, db, row, reached, accept, found, tags⟩ : ∃ pending db row,
      exec (step latin) .empty (sampleSteps ["É"]) = some pending ∧
        step latin pending (.acceptDuplicate 1 0) = some db ∧
        db.media.get 0 = some row ∧ row.tags = ["é", "É"] :=
    ⟨_, _, _, rfl, rfl, rfl, rfl⟩
  have run := run_append (run_of_exec reached) (.cons trivial accept (.nil db))
  have capital : normalizeTag latin "É" = .ok "é" := rfl
  have small : normalizeTag latin "é" = .ok "é" := rfl
  refine ⟨db, row, run, found, tags, ?_, capital, small⟩
  intro normal
  rw [tags] at normal
  exact absurd (normal.distinct (by decide) (by decide)
    (capital.trans small.symm)) (by decide)

/-- A supplied tag in its normal form is accepted into a normal list. -/
theorem accepted_tag_is_normal : ∃ db row,
    exec (step latin) .empty (sampleSteps ["x"] ++ [.acceptDuplicate 1 0]) = some db ∧
      db.media.get 0 = some row ∧ row.tags = ["é", "x"] ∧ Normal latin row.tags := by
  obtain ⟨pending, db, request, row, reached, ingest, supplied, accept, found, tags⟩ :
      ∃ pending db request row, exec (step latin) .empty (sampleSteps ["x"]) = some pending ∧
        pending.ingests.get 1 = some request ∧ request.suppliedTags = ["x"] ∧
        step latin pending (.acceptDuplicate 1 0) = some db ∧
        db.media.get 0 = some row ∧ row.tags = ["é", "x"] :=
    ⟨_, _, _, _, rfl, rfl, rfl, rfl, rfl, rfl⟩
  have before : Run (step latin) (FixedAcceptance latin) .empty (sampleSteps ["x"]) pending := by
    refine run_of_exec_allowed (fun act member db => ?_) reached
    simp only [sampleSteps, List.mem_cons, List.not_mem_nil, or_false] at member
    rcases member with rfl | rfl | rfl <;> trivial
  have fixed : FixedAcceptance latin pending (.acceptDuplicate 1 0) := by
    intro decided candidate decides tag member
    rw [decides.found] at ingest
    cases ingest
    rw [supplied, List.mem_singleton] at member
    rw [member]
    rfl
  have run := run_append before (.cons fixed accept (.nil db))
  have all := (tags_are_normal_iff (run_of_exec (exec_of_run run)) empty_normal).mpr run
  refine ⟨db, row, exec_of_run run, found, tags, ?_⟩
  exact all _ [] db (List.append_nil _).symm (exec_of_run run) 0 row found

end Samples
end Sooqa.Library.Tags
