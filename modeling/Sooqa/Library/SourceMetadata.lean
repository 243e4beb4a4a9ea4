import Sooqa.Database
import Sooqa.Foundation.JsonPaths
import Sooqa.Foundation.Numerals

/-!
The source metadata of a media. The first ingest of a file writes what its
source says; a later one of the same file fills in what is missing and keeps
what is there.
-/
namespace Sooqa.Library
open Foundation Queue

section Model

inductive SourceKind where
  | webpage | directUrl | youtube | telegram | upload
  deriving DecidableEq, Repr

def SourceKind.text : SourceKind → String
  | .webpage => "webpage"
  | .directUrl => "direct_url"
  | .youtube => "youtube"
  | .telegram => "telegram"
  | .upload => "upload"

structure MediaSourceInput where
  ingestId : Option Uuid
  kind : SourceKind
  originalUrl : Option String
  platform : Option String
  platformContentId : Option String
  authorName : Option String
  title : Option String
  description : Option String
  publishedAt : Option Time
  metadata : Document

/-- `source_to_value`, with the text of a time and the time of the ingest. -/
def sourceToValue (timeText : Time → String) (now : Time) (source : MediaSourceInput) : Json :=
  .object [
    ("ingest_id", .ofOption (fun id => .string (.ofList (uuidText id))) source.ingestId),
    ("kind", .string source.kind.text),
    ("original_url", .ofOption .string source.originalUrl),
    ("platform", .ofOption .string source.platform),
    ("platform_content_id", .ofOption .string source.platformContentId),
    ("author_name", .ofOption .string source.authorName),
    ("title", .ofOption .string source.title),
    ("description", .ofOption .string source.description),
    ("published_at", .ofOption (fun time => .string (timeText time)) source.publishedAt),
    ("retrieved_at", .string (timeText now)),
    ("metadata", source.metadata.value)]

mutual

def mergeMissingSourceMetadata (existing incoming : Json) : Json :=
  match existing, incoming with
  | .object existing, .object incoming => .object (mergeEntries existing incoming)
  | .null, incoming => incoming
  | existing, _ => existing

/-- The loop over the entries of the incoming object. -/
def mergeEntries (merged : List (String × Json)) : List (String × Json) → List (String × Json)
  | [] => merged
  | (key, incomingValue) :: rest =>
    let merged :=
      match merged.lookup key with
      | some existingValue =>
        if existingValue.isObject && incomingValue.isObject then
          Json.insertEntry key (mergeMissingSourceMetadata existingValue incomingValue) merged
        else if !existingValue.isNull then merged
        else if !incomingValue.isNull then Json.insertEntry key incomingValue merged
        else merged
      | none => if !incomingValue.isNull then Json.insertEntry key incomingValue merged else merged
    mergeEntries merged rest

end

end Model

section Merging
variable {existing incoming : Json} {merged entries : List (String × Json)} {key : String}
  {value : Json}

theorem merge_null_left (incoming : Json) :
    mergeMissingSourceMetadata .null incoming = incoming := by
  cases incoming <;> rfl

theorem merge_null_right (existing : Json) :
    mergeMissingSourceMetadata existing .null = existing := by
  cases existing <;> rfl

theorem merge_objects (existing incoming : List (String × Json)) :
    mergeMissingSourceMetadata (.object existing) (.object incoming) =
      .object (mergeEntries existing incoming) := rfl

/-- A value that is there stays, unless both are objects. -/
theorem merge_plain (present : existing ≠ .null)
    (plain : existing.isObject = false ∨ incoming.isObject = false) :
    mergeMissingSourceMetadata existing incoming = existing := by
  cases existing with
  | null => exact absurd rfl present
  | object entries =>
    rcases plain with here | there
    · cases here
    · cases incoming <;> first | rfl | cases there
  | _ => cases incoming <;> rfl

theorem merge_cases (existing incoming : Json) : existing = .null ∨
    (existing ≠ .null ∧ (existing.isObject = false ∨ incoming.isObject = false)) ∨
      ∃ old new, existing = .object old ∧ incoming = .object new := by
  by_cases absent : existing = .null
  · exact Or.inl absent
  · right
    cases first : existing.isObject with
    | false => exact Or.inl ⟨absent, Or.inl rfl⟩
    | true =>
      cases second : incoming.isObject with
      | false => exact Or.inl ⟨absent, Or.inr rfl⟩
      | true =>
        obtain ⟨old, rfl⟩ := Json.isObject_iff.mp first
        obtain ⟨new, rfl⟩ := Json.isObject_iff.mp second
        exact Or.inr ⟨old, new, rfl, rfl⟩

theorem merge_isObject (object : existing.isObject = true) :
    (mergeMissingSourceMetadata existing incoming).isObject = true := by
  obtain ⟨entries, rfl⟩ := Json.isObject_iff.mp object
  cases incoming <;> rfl

/-- What the loop leaves under a key. -/
def filled (existing : Option Json) (incoming : Json) : Option Json :=
  match existing with
  | some existing => some (mergeMissingSourceMetadata existing incoming)
  | none => if incoming.isNull then none else some incoming

/-- A step of the loop puts the filled value under its key. -/
theorem mergeEntries_cons (rest : List (String × Json)) :
    mergeEntries merged ((key, value) :: rest) =
      mergeEntries ((filled (merged.lookup key) value).elim merged
        (Json.insertEntry key · merged)) rest := by
  rw [mergeEntries]
  congr 1
  cases found : merged.lookup key with
  | none =>
    dsimp only [filled]
    cases value.isNull <;> rfl
  | some there =>
    dsimp only [filled, Option.elim_some]
    rcases merge_cases there value with rfl | ⟨present, plain⟩ | ⟨old, new, rfl, rfl⟩
    · rw [merge_null_left]
      by_cases none : value = .null
      · rw [none, Json.insertEntry_same found]
        rfl
      · rw [Json.isNull_eq_false none]
        rfl
    · have other : ¬ (there.isObject && value.isObject) = true := by
        rcases plain with plain | plain <;> simp [plain]
      rw [if_neg other, Json.isNull_eq_false present, merge_plain present plain,
        Json.insertEntry_same found]
      rfl
    · rfl

theorem lookup_step :
    ((filled (merged.lookup key) value).elim merged (Json.insertEntry key · merged)).lookup key =
      filled (merged.lookup key) value := by
  cases new : filled (merged.lookup key) value with
  | none =>
    cases found : merged.lookup key with
    | none => exact found
    | some there =>
      rw [found] at new
      cases new
  | some result => rw [Option.elim_some, Json.lookup_insertEntry, if_pos rfl]

theorem lookup_step_ne {other : String} (apart : other ≠ key) :
    ((filled (merged.lookup key) value).elim merged (Json.insertEntry key · merged)).lookup other =
      merged.lookup other := by
  cases filled (merged.lookup key) value with
  | none => rfl
  | some result => rw [Option.elim_some, Json.lookup_insertEntry, if_neg apart]

theorem lookup_mergeEntries (distinct : (entries.map Prod.fst).Nodup) (key : String) :
    (mergeEntries merged entries).lookup key =
      (entries.lookup key).elim (merged.lookup key) (filled (merged.lookup key)) := by
  induction entries generalizing merged with
  | nil => rfl
  | cons entry rest ih =>
    obtain ⟨first, value⟩ := entry
    rw [List.map_cons, List.nodup_cons] at distinct
    rw [mergeEntries_cons, ih distinct.2, Json.lookup_cons]
    by_cases here : key = first
    · have absent : rest.lookup key = none := by
        cases later : rest.lookup key with
        | none => rfl
        | some value' =>
          exact absurd (List.mem_map.mpr ⟨_, Json.mem_of_lookup later, here⟩) distinct.1
      rw [absent, if_pos here, Option.elim_none, Option.elim_some, here, lookup_step]
    · rw [if_neg here, lookup_step_ne here]

/-- The value under a key of two merged objects. -/
theorem get_merge (existing entries : List (String × Json)) (unique : (Json.object entries).Unique)
    (key : String) :
    (mergeMissingSourceMetadata (.object existing) (.object entries)).get key =
      ((Json.object entries).get key).elim ((Json.object existing).get key)
        (filled ((Json.object existing).get key)) :=
  lookup_mergeEntries (Json.unique_object_iff.mp unique).1 key

theorem mergeEntries_unique
    (values : ∀ entry ∈ entries, ∀ existing : Json, existing.Unique →
      (mergeMissingSourceMetadata existing entry.2).Unique)
    (unique : ∀ entry ∈ entries, entry.2.Unique) (start : (Json.object merged).Unique) :
    (Json.object (mergeEntries merged entries)).Unique := by
  induction entries generalizing merged with
  | nil => exact start
  | cons entry rest ih =>
    obtain ⟨key, value⟩ := entry
    rw [List.forall_mem_cons] at values unique
    rw [mergeEntries_cons]
    apply ih values.2 unique.2
    cases new : filled (merged.lookup key) value with
    | none => exact start
    | some result =>
      obtain ⟨distinct, inner⟩ := Json.unique_object_iff.mp start
      refine Json.unique_object_iff.mpr ⟨Json.insertEntry_distinct distinct, fun entry member => ?_⟩
      rcases Json.mem_insertEntry member with rfl | old
      · cases found : merged.lookup key with
        | none =>
          rw [found] at new
          dsimp only [filled] at new
          split at new <;> cases new
          exact unique.1
        | some there =>
          rw [found] at new
          cases new
          exact values.1 there (inner _ (Json.mem_of_lookup found))
      · exact inner entry old

theorem merge_unique (incoming : Json) : ∀ existing : Json, existing.Unique → incoming.Unique →
    (mergeMissingSourceMetadata existing incoming).Unique := by
  induction incoming using Json.get_induction with
  | step incoming ih =>
    intro existing unique unique'
    rcases merge_cases existing incoming with rfl | ⟨present, plain⟩ | ⟨old, entries, rfl, rfl⟩
    · rw [merge_null_left]
      exact unique'
    · rw [merge_plain present plain]
      exact unique
    · obtain ⟨distinct, inner⟩ := Json.unique_object_iff.mp unique'
      refine mergeEntries_unique (fun entry member there uniqueThere => ?_) inner unique
      exact ih entry.1 entry.2 (Json.lookup_of_mem distinct member) there uniqueThere
        (inner entry member)

/-- Merging changes nothing where every value that is given is covered. -/
theorem merge_eq_self_iff (existing entries : List (String × Json))
    (unique : (Json.object entries).Unique) :
    mergeMissingSourceMetadata (.object existing) (.object entries) = .object existing ↔
      ∀ key value, (Json.object entries).get key = some value → value ≠ .null →
        ∃ there, (Json.object existing).get key = some there ∧
          mergeMissingSourceMetadata there value = there := by
  constructor
  · intro same key value given present
    have merged := get_merge existing entries unique key
    rw [same, given, Option.elim_some] at merged
    cases found : (Json.object existing).get key with
    | none =>
      rw [found, filled, Json.isNull_eq_false present] at merged
      cases merged
    | some there =>
      rw [found, filled, Option.some.injEq] at merged
      exact ⟨there, rfl, merged.symm⟩
  · intro covered
    obtain ⟨distinct, -⟩ := Json.unique_object_iff.mp unique
    have covers : ∀ entry ∈ entries, entry.2 ≠ .null → ∃ there,
        existing.lookup entry.1 = some there ∧
          mergeMissingSourceMetadata there entry.2 = there :=
      fun entry member present =>
        covered entry.1 entry.2 (Json.lookup_of_mem distinct member) present
    have still : mergeEntries existing entries = existing := by
      clear covered distinct unique
      induction entries with
      | nil => rfl
      | cons entry rest ih =>
        obtain ⟨key, value⟩ := entry
        rw [List.forall_mem_cons] at covers
        have kept : (filled (existing.lookup key) value).elim existing
            (Json.insertEntry key · existing) = existing := by
          by_cases absent : value = .null
          · cases found : existing.lookup key with
            | none => rw [absent]; rfl
            | some there =>
              rw [absent, filled, merge_null_right]
              exact Json.insertEntry_same found
          · obtain ⟨there, found, same⟩ := covers.1 absent
            rw [found, filled, same]
            exact Json.insertEntry_same found
        rw [mergeEntries_cons, kept]
        exact ih covers.2
    rw [merge_objects, still]

theorem merge_self (value : Json) : value.Unique →
    mergeMissingSourceMetadata value value = value := by
  induction value using Json.get_induction with
  | step value ih =>
    intro unique
    rcases merge_cases value value with rfl | ⟨present, plain⟩ | ⟨old, entries, rfl, same⟩
    · rfl
    · exact merge_plain present plain
    · cases same
      refine (merge_eq_self_iff old old unique).mpr (fun key inner given _ => ?_)
      exact ⟨inner, given, ih key inner given (unique.get given)⟩

/-- Merging the same again changes nothing. -/
theorem merge_idempotent (incoming : Json) : ∀ existing : Json, incoming.Unique →
    mergeMissingSourceMetadata (mergeMissingSourceMetadata existing incoming) incoming =
      mergeMissingSourceMetadata existing incoming := by
  induction incoming using Json.get_induction with
  | step incoming ih =>
    intro existing unique
    rcases merge_cases existing incoming with rfl | ⟨present, plain⟩ | ⟨old, entries, rfl, rfl⟩
    · rw [merge_null_left]
      exact merge_self incoming unique
    · rw [merge_plain present plain, merge_plain present plain]
    · refine (merge_eq_self_iff _ entries unique).mpr (fun key value given present => ?_)
      have merged := get_merge old entries unique key
      rw [given, Option.elim_some] at merged
      cases found : (Json.object old).get key with
      | none =>
        rw [found, filled, Json.isNull_eq_false present] at merged
        exact ⟨value, merged, merge_self value (unique.get given)⟩
      | some there =>
        rw [found, filled] at merged
        exact ⟨_, merged, ih key value given there (unique.get given)⟩

/-- What is covered stays covered through other merges. -/
theorem merge_covered (incoming : Json) : ∀ existing other : Json, incoming.Unique → other.Unique →
    mergeMissingSourceMetadata existing incoming = existing →
    mergeMissingSourceMetadata (mergeMissingSourceMetadata existing other) incoming =
      mergeMissingSourceMetadata existing other := by
  induction incoming using Json.get_induction with
  | step incoming ih =>
    intro existing other unique unique' covered
    rcases merge_cases existing other with rfl | ⟨present, plain⟩ | ⟨old, new, rfl, rfl⟩
    · rw [merge_null_left] at covered
      rw [covered, merge_null_right]
    · rw [merge_plain present plain]
      exact covered
    · rcases merge_cases (.object old) incoming with absent | ⟨present, plain⟩ |
        ⟨_, entries, same, rfl⟩
      · cases absent
      · refine merge_plain (fun absent => by cases absent) (Or.inr ?_)
        exact plain.resolve_left (fun object => by cases object)
      · cases same
        refine (merge_eq_self_iff _ entries unique).mpr (fun key value given present => ?_)
        obtain ⟨there, found, kept⟩ :=
          (merge_eq_self_iff old entries unique).mp covered key value given present
        have merged := get_merge old new unique' key
        rw [found] at merged
        cases added : (Json.object new).get key with
        | none =>
          rw [added] at merged
          exact ⟨there, merged, kept⟩
        | some extra =>
          rw [added] at merged
          exact ⟨_, merged, ih key value given there extra (unique.get given)
            (unique'.get added) kept⟩

end Merging

section Paths

/-- A value that is there stays at its path; an object may gain keys. -/
theorem merge_keeps (path : List String) : ∀ {existing incoming value : Json}, incoming.Unique →
    existing.follow path = some value → value ≠ .null →
    if value.isObject then
      ∃ object, (mergeMissingSourceMetadata existing incoming).follow path = some object ∧
        object.isObject = true
    else (mergeMissingSourceMetadata existing incoming).follow path = some value := by
  induction path with
  | nil =>
    intro existing incoming value unique found present
    cases found
    split
    · rename_i object
      exact ⟨_, rfl, merge_isObject object⟩
    · rename_i plain
      rw [merge_plain present (Or.inl (Bool.eq_false_iff.mpr plain))]
      rfl
  | cons key path ih =>
    intro existing incoming value unique found present
    have whole : (existing.follow (key :: path) = some value) →
        if value.isObject then ∃ object, existing.follow (key :: path) = some object ∧
          object.isObject = true
        else existing.follow (key :: path) = some value := by
      intro there
      split
      · rename_i object
        exact ⟨value, there, object⟩
      · exact there
    rcases merge_cases existing incoming with rfl | ⟨there, plain⟩ | ⟨old, entries, rfl, rfl⟩
    · cases found
    · rw [merge_plain there plain]
      exact whole found
    · have merged := get_merge old entries unique key
      rw [Json.follow_cons, Option.bind_eq_some_iff] at found
      obtain ⟨inner, here, found⟩ := found
      rw [here] at merged
      cases given : (Json.object entries).get key with
      | none =>
        rw [given, Option.elim_none] at merged
        rw [Json.follow_cons, merged]
        rw [Json.follow_cons, here] at whole
        exact whole found
      | some extra =>
        rw [given, Option.elim_some, filled] at merged
        rw [Json.follow_cons, merged]
        exact ih (unique.get given) found present

/-- What a merged value holds at a path was there, or fills what was missing. -/
theorem merge_takes (path : List String) : ∀ {existing incoming value : Json}, incoming.Unique →
    (mergeMissingSourceMetadata existing incoming).follow path = some value →
    (∃ old, existing.follow path = some old ∧
      (old = value ∨ (old.isObject = true ∧ value.isObject = true))) ∨
    ((existing.follow path = none ∨ existing.follow path = some .null) ∧
      incoming.follow path = some value) := by
  induction path with
  | nil =>
    intro existing incoming value unique found
    rcases merge_cases existing incoming with rfl | ⟨there, plain⟩ | ⟨old, entries, rfl, rfl⟩
    · rw [merge_null_left] at found
      exact Or.inr ⟨Or.inr rfl, found⟩
    · rw [merge_plain there plain] at found
      exact Or.inl ⟨value, found, Or.inl rfl⟩
    · cases found
      exact Or.inl ⟨_, rfl, Or.inr ⟨rfl, rfl⟩⟩
  | cons key path ih =>
    intro existing incoming value unique found
    rcases merge_cases existing incoming with rfl | ⟨there, plain⟩ | ⟨old, entries, rfl, rfl⟩
    · rw [merge_null_left] at found
      exact Or.inr ⟨Or.inl rfl, found⟩
    · rw [merge_plain there plain] at found
      exact Or.inl ⟨value, found, Or.inl rfl⟩
    · have merged := get_merge old entries unique key
      rw [Json.follow_cons, Option.bind_eq_some_iff] at found
      obtain ⟨inner, here, found⟩ := found
      rw [merged] at here
      rw [Json.follow_cons, Json.follow_cons]
      cases given : (Json.object entries).get key with
      | none =>
        rw [given, Option.elim_none] at here
        rw [here]
        exact Or.inl ⟨value, found, Or.inl rfl⟩
      | some extra =>
        rw [given, Option.elim_some] at here
        cases before : (Json.object old).get key with
        | none =>
          rw [before, filled] at here
          split at here <;> cases here
          exact Or.inr ⟨Or.inl rfl, found⟩
        | some there =>
          rw [before, filled] at here
          cases here
          exact ih (unique.get given) found

end Paths

section Rows
variable (timeText : Time → String)

theorem sourceToValue_unique (now : Time) (source : MediaSourceInput) :
    (sourceToValue timeText now source).Unique := by
  have plain : ∀ {α : Type} (encode : α → String) (value : Option α),
      (Json.ofOption (fun a => .string (encode a)) value).Unique := by
    intro α encode value
    cases value <;> trivial
  refine Json.unique_object_iff.mpr ⟨?_, ?_⟩
  · simp only [List.map_cons, List.map_nil]
    decide
  simp only [List.forall_mem_cons, List.not_mem_nil, false_implies, implies_true, and_true]
  exact ⟨plain _ _, trivial, plain id _, plain id _, plain id _, plain id _, plain id _,
    plain id _, plain _ _, trivial, source.metadata.unique⟩

/-- The source of an ingest, as a document. -/
def sourceDocument (now : Time) (source : MediaSourceInput) : Document :=
  ⟨sourceToValue timeText now source, sourceToValue_unique timeText now source⟩

def mergeDocuments (existing incoming : Document) : Document :=
  ⟨mergeMissingSourceMetadata existing.value incoming.value,
    merge_unique incoming.value existing.value existing.unique incoming.unique⟩

/-- An ingest of a file with this digest. -/
structure SourceIngest where
  sha256 : String
  source : MediaSourceInput
  now : Time

/-- The source metadata after `resolve_media`: a new media takes what its source
    says, the media of a known digest merges it. -/
def resolveSourceMetadata (rows : Table String Document) (ingest : SourceIngest) :
    Table String Document :=
  let source := sourceDocument timeText ingest.now ingest.source
  match rows.get ingest.sha256 with
  | none => rows.set ingest.sha256 source
  | some existing => rows.set ingest.sha256 (mergeDocuments existing source)

/-- The source metadata covers this source; nothing of it is missing. -/
def Covered (rows : Table String Document) (ingest : SourceIngest) : Prop :=
  ∃ row, rows.get ingest.sha256 = some row ∧
    mergeMissingSourceMetadata row.value (sourceToValue timeText ingest.now ingest.source) =
      row.value

variable {timeText}

/-- Two ingests of a source differ in the time of the ingest. -/
theorem sourceToValue_later (now later : Time) (source : MediaSourceInput) :
    ∃ entries, sourceToValue timeText now source = .object entries ∧
      sourceToValue timeText later source =
        .object (Json.insertEntry "retrieved_at" (.string (timeText later)) entries) := by
  refine ⟨_, rfl, ?_⟩
  simp [sourceToValue, Json.insertEntry]

/-- A time that is already there stays. -/
theorem merge_later {row : Json} {now : Time} {source : MediaSourceInput} (later : Time)
    (covered : mergeMissingSourceMetadata row (sourceToValue timeText now source) = row) :
    mergeMissingSourceMetadata row (sourceToValue timeText later source) = row := by
  have unique := sourceToValue_unique timeText now source
  have unique' := sourceToValue_unique timeText later source
  have stamped : (sourceToValue timeText now source).get "retrieved_at" =
      some (.string (timeText now)) := by
    simp [sourceToValue, Json.lookup_cons]
  obtain ⟨entries, first, second⟩ := @sourceToValue_later timeText now later source
  rw [first] at covered unique stamped
  rw [second] at unique' ⊢
  rcases merge_cases row (.object entries) with rfl | ⟨present, plain⟩ | ⟨old, new, rfl, same⟩
  · rw [merge_null_left] at covered
    cases covered
  · exact merge_plain present (Or.inl (plain.resolve_right (fun object => by cases object)))
  · cases same
    refine (merge_eq_self_iff old _ unique').mpr (fun key value given present => ?_)
    have covers := (merge_eq_self_iff old entries unique).mp covered
    rw [Json.get_object, Json.lookup_insertEntry] at given
    split at given
    · rename_i here
      cases given
      obtain ⟨there, found, kept⟩ := covers _ _ stamped (fun absent => by cases absent)
      have filledThere : there ≠ .null := by
        rintro rfl
        rw [merge_null_left] at kept
        cases kept
      exact ⟨there, here ▸ found, merge_plain filledThere (Or.inr rfl)⟩
    · exact covers key value given present

theorem get_resolve (rows : Table String Document) (ingest : SourceIngest) (sha256 : String) :
    (resolveSourceMetadata timeText rows ingest).get sha256 =
      if sha256 = ingest.sha256 then
        some ((rows.get ingest.sha256).elim (sourceDocument timeText ingest.now ingest.source)
          (mergeDocuments · (sourceDocument timeText ingest.now ingest.source)))
      else rows.get sha256 := by
  unfold resolveSourceMetadata
  dsimp only
  cases rows.get ingest.sha256 <;> rw [Table.get_set] <;> rfl

/-- An ingest covers its own source. -/
theorem covered_resolve (rows : Table String Document) (ingest : SourceIngest) :
    Covered timeText (resolveSourceMetadata timeText rows ingest) ingest := by
  have unique := sourceToValue_unique timeText ingest.now ingest.source
  refine ⟨_, (get_resolve rows ingest ingest.sha256).trans (if_pos rfl), ?_⟩
  cases rows.get ingest.sha256 with
  | none => exact merge_self _ unique
  | some existing => exact merge_idempotent _ existing.value unique

theorem Covered.resolve {rows : Table String Document} {ingest : SourceIngest}
    (covered : Covered timeText rows ingest) (other : SourceIngest) :
    Covered timeText (resolveSourceMetadata timeText rows other) ingest := by
  obtain ⟨row, found, kept⟩ := covered
  unfold Covered
  rw [get_resolve]
  by_cases same : ingest.sha256 = other.sha256
  · rw [if_pos same, ← same, found]
    exact ⟨_, rfl, merge_covered _ row.value _ (sourceToValue_unique timeText _ _)
      (sourceToValue_unique timeText _ _) kept⟩
  · rw [if_neg same]
    exact ⟨row, found, kept⟩

theorem Covered.run {rows : Table String Document} {ingest : SourceIngest}
    (covered : Covered timeText rows ingest) (others : List SourceIngest) :
    Covered timeText (others.foldl (resolveSourceMetadata timeText) rows) ingest := by
  induction others generalizing rows with
  | nil => exact covered
  | cons other others ih => exact ih (covered.resolve other)

/-- An ingest of a covered source changes no row. -/
theorem Covered.still {rows : Table String Document} {ingest : SourceIngest}
    (covered : Covered timeText rows ingest) (later : Time) (sha256 : String) :
    (resolveSourceMetadata timeText rows { ingest with now := later }).get sha256 =
      rows.get sha256 := by
  obtain ⟨row, found, kept⟩ := covered
  rw [get_resolve]
  by_cases same : sha256 = ingest.sha256
  · rw [if_pos same, found, Option.elim_some, same, found]
    exact congrArg some (Document.ext (merge_later later kept))
  · rw [if_neg same]

/-- A merge keeps what is there at every path, takes only what is missing, and
    changes nothing the second time; so a source that was once merged into a
    media is merged into it again, whatever came in between, without effect. -/
theorem source_metadata_merge (existing incoming : Document) :
    (∀ path value, existing.value.follow path = some value → value ≠ .null →
      if value.isObject then
        ∃ object, (mergeDocuments existing incoming).value.follow path = some object ∧
          object.isObject = true
      else (mergeDocuments existing incoming).value.follow path = some value) ∧
    (∀ path value, (mergeDocuments existing incoming).value.follow path = some value →
      (∃ old, existing.value.follow path = some old ∧
        (old = value ∨ (old.isObject = true ∧ value.isObject = true))) ∨
      ((existing.value.follow path = none ∨ existing.value.follow path = some .null) ∧
        incoming.value.follow path = some value)) ∧
    mergeDocuments (mergeDocuments existing incoming) incoming = mergeDocuments existing incoming ∧
    ∀ (timeText : Time → String) (rows : Table String Document) (ingest : SourceIngest)
      (others : List SourceIngest) (times : List Time) (sha256 : String),
      let merged := others.foldl (resolveSourceMetadata timeText)
        (resolveSourceMetadata timeText rows ingest)
      (times.foldl (fun rows later =>
        resolveSourceMetadata timeText rows { ingest with now := later }) merged).get sha256 =
        merged.get sha256 := by
  refine ⟨fun path value => merge_keeps path incoming.unique,
    fun path value => merge_takes path incoming.unique,
    Document.ext (merge_idempotent _ _ incoming.unique), ?_⟩
  intro timeText rows ingest others times sha256
  dsimp only
  have covered := (@covered_resolve timeText rows ingest).run others
  generalize others.foldl (resolveSourceMetadata timeText)
    (resolveSourceMetadata timeText rows ingest) = merged at covered
  induction times generalizing merged with
  | nil => rfl
  | cons later times ih =>
    rw [List.foldl_cons, ih _ (covered.resolve _)]
    exact covered.still later sha256

def sampleStored : Document where
  value := .object [("title", .null), ("tags", .array [.string "cat"]),
    ("metadata", .object [("fps", .number (.posInt 25))])]
  unique := by simp [Json.Unique, Json.itemsUnique, Json.entriesUnique]

def sampleGiven : Document where
  value := .object [("title", .string "A cat"), ("tags", .array []),
    ("metadata", .object [("fps", .null), ("codec", .string "vp9")])]
  unique := by simp [Json.Unique, Json.itemsUnique, Json.entriesUnique]

/-- The tags stay, the codec is taken. -/
theorem codec_is_taken :
    (mergeDocuments sampleStored sampleGiven).value.follow ["tags"] =
        some (.array [.string "cat"]) ∧
      sampleGiven.value.follow ["metadata", "codec"] = some (.string "vp9") := by
  obtain ⟨keeps, takes, -⟩ := source_metadata_merge sampleStored sampleGiven
  constructor
  · exact keeps ["tags"] (.array [.string "cat"]) rfl (fun absent => by cases absent)
  · rcases takes ["metadata", "codec"] (.string "vp9") rfl with ⟨old, found, -⟩ | ⟨-, given⟩
    · cases found
    · exact given

end Rows

end Sooqa.Library
