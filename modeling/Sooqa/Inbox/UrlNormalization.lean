import Sooqa.Foundation.Forms
import Sooqa.Inbox.Submission

/-!
The normalized URL of a submission. Tracking parameters are taken out of the
query, which is encoded anew when there were any.
-/
namespace Sooqa.Inbox.UrlNormalization
open Foundation
open Submission (IngestValidationError)

section Normalization

/-- A parsed URL; the query is in the bytes of its text. -/
structure Url where
  scheme : String
  username : String
  password : Option String
  host : Option String
  port : Option UInt16
  path : String
  query : Option (List UInt8)
  fragment : Option (List UInt8)
  deriving DecidableEq, Repr

def asciiText (bytes : List UInt8) : String := .ofList (bytes.map fun b => Char.ofNat b.toNat)

def asciiBytes (text : String) : List UInt8 := text.toList.map fun c => .ofNat c.toNat

/-- The text of a URL with a host. -/
def Url.text (url : Url) : String :=
  let credentials := if url.username = "" ∧ url.password = none then ""
    else url.username ++ (url.password.elim "" (":" ++ ·)) ++ "@"
  url.scheme ++ "://" ++ credentials ++ url.host.getD "" ++
    url.port.elim "" (fun port => ":" ++ toString port.toNat) ++ url.path ++
    url.query.elim "" (fun query => "?" ++ asciiText query) ++
    url.fragment.elim "" (fun fragment => "#" ++ asciiText fragment)

def asciiLowerByte (b : UInt8) : UInt8 := if 0x41 ≤ b ∧ b ≤ 0x5a then b + 0x20 else b

def isTrackingParameter (name : List UInt8) : Bool :=
  let name := name.map asciiLowerByte
  (asciiBytes "utm_").isPrefixOf name ||
    ["fbclid", "gclid", "dclid", "msclkid", "mc_cid", "mc_eid"].any fun known =>
      name == asciiBytes known

def queryPairs (query : Option (List UInt8)) : List FormPair := parseForm (query.getD [])

/-- No pairs are no query. -/
def encodeQuery (pairs : List FormPair) : Option (List UInt8) :=
  if pairs = [] then none else some (serializeForm pairs)

def filterQuery (query : Option (List UInt8)) : Option (List UInt8) :=
  let pairs := queryPairs query
  let filtered := pairs.filter fun pair => !isTrackingParameter pair.1
  if filtered.length ≠ pairs.length then encodeQuery filtered else query

/-- The rest of the normalization of a parsed URL. The setters always succeed,
    as they are given values of the URL itself in lower case. -/
def normalizeParsed (url : Url) (field : String) : Except IngestValidationError String := do
  let scheme := asciiLower url.scheme
  require (scheme = "http" ∨ scheme = "https") (.unsupportedScheme field)
  let host ← expect url.host (.missingHost field)
  require (url.username = "" ∧ url.password = none) (.credentialsNotAllowed field)
  let port := if scheme = "http" ∧ url.port = some 80 ∨ scheme = "https" ∧ url.port = some 443
    then none else url.port
  return { url with
    scheme, host := some (asciiLower host), port, fragment := none
    query := filterQuery url.query : Url }.text

def normalizeUrl (parse : String → Option Url) (input field : String) :
    Except IngestValidationError String := do
  let input := Publisher.trim input
  require (input ≠ "") (.emptyUrl field)
  let url ← expect (parse input) (.invalidUrl field)
  normalizeParsed url field

end Normalization

section Extension

/-- The bytes that a parser leaves alone in a query. -/
def isQueryByte (b : UInt8) : Bool :=
  0x21 ≤ b && b ≤ 0x7e && b ∉ [0x22, 0x23, 0x27, 0x3c, 0x3e]

/-- A parameter that only tracks. -/
structure TrackingPiece (piece : List UInt8) : Prop where
  written : ∀ b ∈ piece, isQueryByte b = true
  whole : 0x26 ∉ piece
  tracking : isTrackingParameter (decodePair piece).1 = true

/-- The parameters of a query; an empty one has none, or one without a name. -/
inductive QueryPieces : Option (List UInt8) → List (List UInt8) → Prop where
  | none : QueryPieces none []
  | empty : QueryPieces (some []) []
  | split (query : List UInt8) : QueryPieces (some query) (query.splitOn 0x26)

/-- The query with tracking parameters put in anywhere. -/
inductive ExtendsQuery : Option (List UInt8) → Option (List UInt8) → Prop where
  | same (query : Option (List UInt8)) : ExtendsQuery query query
  | more {query : Option (List UInt8)} {pieces longer : List (List UInt8)}
      (spelled : QueryPieces query pieces) (inserted : Inserted TrackingPiece pieces longer)
      (new : longer ≠ pieces) : ExtendsQuery query (some ([0x26].intercalate longer))

/-- The URL with tracking parameters and any fragment. -/
inductive Extends (url : Url) : Url → Prop where
  | mk {query : Option (List UInt8)} {fragment : Option (List UInt8)}
      (extended : ExtendsQuery url.query query)
      (written : ∀ bytes ∈ fragment, ∀ b ∈ bytes, isQueryByte b = true) :
      Extends url { url with query, fragment }

/-- The query as it is read and encoded anew. -/
def reencoded (query : Option (List UInt8)) : Option (List UInt8) := encodeQuery (queryPairs query)

def hasTracking (query : Option (List UInt8)) : Bool :=
  (queryPairs query).any fun pair => isTrackingParameter pair.1

end Extension

section Queries
variable {query longer : Option (List UInt8)}

theorem filterQuery_tracking (tracked : hasTracking query = true) :
    filterQuery query =
      encodeQuery ((queryPairs query).filter fun pair => !isTrackingParameter pair.1) := by
  rw [filterQuery, if_pos]
  intro same
  rw [List.length_filter_eq_length_iff] at same
  obtain ⟨pair, member, tracking⟩ := List.any_eq_true.mp tracked
  have kept := same pair member
  rw [tracking] at kept
  cases kept

theorem filter_untracked (untracked : hasTracking query = false) :
    (queryPairs query).filter (fun pair => !isTrackingParameter pair.1) = queryPairs query := by
  rw [List.filter_eq_self]
  intro pair member
  have none_tracks := List.any_eq_false.mp untracked pair member
  simpa using none_tracks

theorem filterQuery_untracked (untracked : hasTracking query = false) :
    filterQuery query = query := by
  rw [filterQuery, if_neg]
  rw [filter_untracked untracked]
  exact not_not_intro rfl

/-- The name of an empty piece is empty. -/
theorem TrackingPiece.ne_nil {piece : List UInt8} (tracking : TrackingPiece piece) :
    piece ≠ [] := by
  rintro rfl
  exact absurd tracking.tracking (by decide)

/-- The pairs that are kept of some pieces. -/
def keptPairs (pieces : List (List UInt8)) : List FormPair :=
  ((pieces.filter (· ≠ [])).map decodePair).filter fun pair => !isTrackingParameter pair.1

/-- What is read of a query from its pieces. -/
theorem queryPairs_pieces {pieces : List (List UInt8)} (spelled : QueryPieces query pieces) :
    queryPairs query = (pieces.filter (· ≠ [])).map decodePair ∧
      ∀ piece ∈ pieces, 0x26 ∉ piece := by
  cases spelled with
  | none => exact ⟨parseForm_nil, nofun⟩
  | empty => exact ⟨parseForm_nil, nofun⟩
  | split query => exact ⟨rfl, not_mem_of_mem_splitOn⟩

theorem keptPairs_inserted {pieces further : List (List UInt8)}
    (inserted : Inserted TrackingPiece pieces further) : keptPairs further = keptPairs pieces := by
  have keeps : ∀ list : List (List UInt8), keptPairs list = (list.filter fun piece =>
      decide (piece ≠ []) && !isTrackingParameter (decodePair piece).1).map decodePair := by
    intro list
    rw [keptPairs, List.filter_map, List.filter_filter]
    congr 1
    apply List.filter_congr
    intro piece member
    exact Bool.and_comm _ _
  rw [keeps, keeps, inserted.filter_eq]
  intro piece tracking
  rw [tracking.tracking, Bool.not_true, Bool.and_false]

/-- A query that was extended tracks, and the same pairs are kept of it. -/
theorem extended_pairs {pieces further : List (List UInt8)} (spelled : QueryPieces query pieces)
    (inserted : Inserted TrackingPiece pieces further) (new : further ≠ pieces) :
    hasTracking (some ([0x26].intercalate further)) = true ∧
      filterQuery (some ([0x26].intercalate further)) = encodeQuery
        ((queryPairs query).filter fun pair => !isTrackingParameter pair.1) := by
  obtain ⟨read, solid⟩ := queryPairs_pieces spelled
  obtain ⟨piece, member, tracking⟩ := inserted.eq_or_added.resolve_left new
  have whole : ∀ piece ∈ further, 0x26 ∉ piece := by
    intro piece member
    rcases inserted.mem member with before | added
    · exact solid piece before
    · exact added.whole
  have pairs : queryPairs (some ([0x26].intercalate further)) =
      (further.filter (· ≠ [])).map decodePair :=
    parseForm_intercalate (List.ne_nil_of_mem member) whole
  have tracked : hasTracking (some ([0x26].intercalate further)) = true := by
    rw [hasTracking, pairs, List.any_eq_true]
    refine ⟨decodePair piece, List.mem_map_of_mem ?_, tracking.tracking⟩
    exact List.mem_filter.mpr ⟨member, by simpa using tracking.ne_nil⟩
  refine ⟨tracked, ?_⟩
  rw [filterQuery_tracking tracked, pairs, read]
  exact congrArg encodeQuery (keptPairs_inserted inserted)

/-- A query and all its extensions come to the same exactly where it tracks
    itself or is written as it would be encoded. -/
theorem filterQuery_extended_iff :
    (∀ longer, ExtendsQuery query longer → filterQuery longer = filterQuery query) ↔
      hasTracking query = true ∨ reencoded query = query := by
  constructor
  · intro same
    by_cases tracked : hasTracking query = true
    · exact .inl tracked
    · right
      rw [Bool.not_eq_true] at tracked
      obtain ⟨pieces, spelled⟩ : ∃ pieces, QueryPieces query pieces := by
        cases query with
        | none => exact ⟨[], .none⟩
        | some query => exact ⟨_, .split query⟩
      have inserted : Inserted TrackingPiece pieces (asciiBytes "gclid" :: pieces) :=
        .insert ⟨List.all_eq_true.mp (by decide), by decide, by decide +kernel⟩ (.refl pieces)
      have new : asciiBytes "gclid" :: pieces ≠ pieces := List.cons_ne_self _ _
      have extended := same _ (.more spelled inserted new)
      rw [(extended_pairs spelled inserted new).2, filter_untracked tracked,
        filterQuery_untracked tracked] at extended
      exact extended
  · rintro settled longer (_ | ⟨spelled, inserted, new⟩)
    · rfl
    · rw [(extended_pairs spelled inserted new).2]
      by_cases tracked : hasTracking query = true
      · rw [filterQuery_tracking tracked]
      · rw [Bool.not_eq_true] at tracked
        rw [filter_untracked tracked, filterQuery_untracked tracked]
        exact settled.resolve_left (by simp [tracked])

end Queries

section Texts
variable {url extended : Url} {field normalized : String}

theorem ofNat_toNat_small {n : Nat} (small : n < 256) : (Char.ofNat n).toNat = n := by
  have valid : n.isValidChar := .inl (by omega)
  rw [Char.ofNat, dif_pos valid]
  rfl

theorem asciiText_injective : Function.Injective asciiText := by
  intro bytes bytes' same
  have lists := String.ofList_injective same
  refine List.map_injective_iff.mpr ?_ lists
  intro b b' chars
  have numbers := congrArg Char.toNat chars
  rw [ofNat_toNat_small b.toNat_lt, ofNat_toNat_small b'.toNat_lt] at numbers
  exact UInt8.toNat_inj.mp numbers

variable (url) in
/-- The text of a URL without a fragment shows its query. -/
theorem text_injective {query query' : Option (List UInt8)}
    (same : { url with query := query, fragment := none : Url }.text =
      { url with query := query', fragment := none : Url }.text) : query = query' := by
  have lists := congrArg String.toList same
  simp only [Url.text, Option.elim_none, String.append_empty, String.toList_append,
    List.append_cancel_left_eq] at lists
  cases query with
  | none =>
    cases query' with
    | none => rfl
    | some bytes => simp at lists
  | some bytes =>
    cases query' with
    | none => simp at lists
    | some bytes' =>
      simp only [Option.elim_some, String.toList_append, List.append_cancel_left_eq] at lists
      rw [asciiText_injective (String.toList_inj.mp lists)]

/-- The URL as it is written, with this query. -/
def Url.canonical (url : Url) (query : Option (List UInt8)) : Url :=
  let scheme := asciiLower url.scheme
  { url with
    scheme
    host := url.host.map asciiLower
    port := if scheme = "http" ∧ url.port = some 80 ∨ scheme = "https" ∧ url.port = some 443
      then none else url.port
    query
    fragment := none }

/-- A web URL with a host and without credentials. -/
structure Url.Acceptable (url : Url) : Prop where
  web : asciiLower url.scheme = "http" ∨ asciiLower url.scheme = "https"
  host : url.host ≠ none
  anonymous : url.username = "" ∧ url.password = none

theorem normalizeParsed_ok : normalizeParsed url field = .ok normalized ↔
    url.Acceptable ∧ normalized = (url.canonical (filterQuery url.query)).text := by
  simp only [normalizeParsed, bind_ok, require_ok, expect_ok, pure_ok]
  constructor
  · rintro ⟨_, web, host, located, _, anonymous, rfl⟩
    refine ⟨⟨web, by rw [located]; exact Option.some_ne_none host, anonymous⟩, ?_⟩
    rw [Url.canonical, located]
    rfl
  · rintro ⟨acceptable, rfl⟩
    obtain ⟨host, located⟩ := Option.ne_none_iff_exists'.mp acceptable.host
    refine ⟨(), acceptable.web, host, located, (), acceptable.anonymous, ?_⟩
    rw [Url.canonical, located]
    rfl

/-- A parser that follows the standard: no text is no URL, and an extension of a
    web URL has a text. -/
structure FollowsStandard (parse : String → Option Url) : Prop where
  empty : parse "" = none
  extended : ∀ text url extended, parse text = some url → url.Acceptable → Extends url extended →
    ∃ longer, Publisher.trim longer = longer ∧ parse longer = some extended

theorem normalizeUrl_of_parsed {parse : String → Option Url} (standard : FollowsStandard parse)
    {input : String} (parsed : parse (Publisher.trim input) = some url) :
    normalizeUrl parse input field = normalizeParsed url field := by
  have nonempty : Publisher.trim input ≠ "" := by
    intro blank
    rw [blank, standard.empty] at parsed
    cases parsed
  rw [normalizeUrl, require, if_pos nonempty, bind_ok_eq, parsed, expect, bind_ok_eq]

end Texts

section Example
variable {query fragment : Option (List UInt8)} {bytes : List UInt8}

/-- The bytes are left alone in a query. -/
def Written (part : Option (List UInt8)) : Prop := ∀ bytes ∈ part, ∀ b ∈ bytes, isQueryByte b = true

def examplePage (query fragment : Option (List UInt8)) : Url :=
  ⟨"https", "", none, some "example.org", none, "/", query, fragment⟩

/-- The bytes of a part of the text. -/
def writtenBytes (chars : List Char) : Option (List UInt8) :=
  if chars.all fun c => c.toNat < 256 && isQueryByte (.ofNat c.toNat) then
    some (chars.map fun c => .ofNat c.toNat) else none

/-- A part behind its sign; it may be missing. -/
def examplePart (sign : Char) : List Char → Option (Option (List UInt8))
  | [] => some none
  | c :: rest => if c = sign then (writtenBytes rest).map some else none

def examplePrefix : List Char := "https://example.org/".toList

/-- The parser on texts that are in normal form, and on one host. -/
def parseExample (text : String) : Option Url := do
  let rest ← text.toList.dropPrefix? examplePrefix
  let query ← examplePart '?' (rest.takeWhile (· ≠ '#'))
  let fragment ← examplePart '#' (rest.dropWhile (· ≠ '#'))
  return examplePage query fragment

theorem written_of_part {sign : Char} {chars : List Char} {part : Option (List UInt8)}
    (read : examplePart sign chars = some part) : Written part := by
  cases chars with
  | nil =>
    cases read
    exact nofun
  | cons c rest =>
    rw [examplePart] at read
    split at read
    · rw [writtenBytes] at read
      split at read
      · rename_i all
        cases read
        rintro bytes ⟨⟩ b member
        obtain ⟨d, inside, rfl⟩ := List.mem_map.mp member
        have char := List.all_eq_true.mp all d inside
        exact (Bool.and_eq_true _ _ ▸ char).2
      · cases read
    · cases read

def partChars (sign : Char) (part : Option (List UInt8)) : List Char :=
  part.elim [] fun bytes => sign :: bytes.map fun b => Char.ofNat b.toNat

theorem writtenBytes_chars (written : ∀ b ∈ bytes, isQueryByte b = true) :
    writtenBytes (bytes.map fun b => Char.ofNat b.toNat) = some bytes := by
  have back : ∀ b : UInt8, UInt8.ofNat (Char.ofNat b.toNat).toNat = b := by
    intro b
    rw [ofNat_toNat_small b.toNat_lt, UInt8.ofNat_toNat]
  have all : (bytes.map fun b => Char.ofNat b.toNat).all (fun c =>
      decide (c.toNat < 256) && isQueryByte (.ofNat c.toNat)) = true := by
    rw [List.all_map, List.all_eq_true]
    intro b member
    simp only [Function.comp_apply, back, written b member, Bool.and_true, decide_eq_true_eq]
    rw [ofNat_toNat_small b.toNat_lt]
    exact b.toNat_lt
  rw [writtenBytes, if_pos all, List.map_map]
  simp only [Function.comp_def, back, List.map_id']

theorem examplePart_chars {sign : Char} {part : Option (List UInt8)} (written : Written part) :
    examplePart sign (partChars sign part) = some part := by
  cases part with
  | none => rfl
  | some bytes =>
    rw [partChars, Option.elim_some, examplePart, if_pos rfl, writtenBytes_chars (written bytes rfl)]
    rfl

/-- A written byte is no blank and starts no fragment. -/
theorem queryByte_solid {b : UInt8} (written : isQueryByte b = true) :
    Char.ofNat b.toNat ≠ '#' ∧ Publisher.isWhiteSpace (Char.ofNat b.toNat) = false := by
  have number : (Char.ofNat b.toNat).toNat = b.toNat := ofNat_toNat_small b.toNat_lt
  simp only [isQueryByte, Bool.and_eq_true, decide_eq_true_eq, UInt8.le_iff_toNat_le] at written
  obtain ⟨⟨low, high⟩, apart⟩ := written
  have bounds : 0x21 ≤ b.toNat ∧ b.toNat ≤ 0x7e := ⟨low, high⟩
  constructor
  · intro mark
    have same : b.toNat = 0x23 := number.symm.trans (congrArg Char.toNat mark)
    have hash : b = 0x23 := UInt8.toNat_inj.mp same
    rw [hash] at apart
    exact apart (by decide)
  · rw [Publisher.isWhiteSpace, number]
    simp only [Bool.or_eq_false_iff, Bool.and_eq_false_iff, decide_eq_false_iff_not,
      beq_eq_false_iff_ne]
    omega

theorem partChars_solid {part : Option (List UInt8)} (written : Written part) (sign : Char)
    {c : Char} (member : c ∈ partChars sign part) :
    c = sign ∨ c ≠ '#' ∧ Publisher.isWhiteSpace c = false := by
  cases part with
  | none => cases member
  | some bytes =>
    rcases List.mem_cons.mp member with same | inside
    · exact .inl same
    · obtain ⟨b, byte, rfl⟩ := List.mem_map.mp inside
      exact .inr (queryByte_solid (written bytes rfl b byte))

def exampleText (query fragment : Option (List UInt8)) : String :=
  .ofList (examplePrefix ++ (partChars '?' query ++ partChars '#' fragment))

theorem partChars_query (written : Written query) : ∀ c ∈ partChars '?' query, c ≠ '#' := by
  intro c member
  rcases partChars_solid written '?' member with rfl | solid
  · decide
  · exact solid.1

theorem parseExample_text (queried : Written query) (marked : Written fragment) :
    parseExample (exampleText query fragment) = some (examplePage query fragment) := by
  have starts : (partChars '#' fragment).takeWhile (· ≠ '#') = [] ∧
      (partChars '#' fragment).dropWhile (· ≠ '#') = partChars '#' fragment := by
    cases fragment with
    | none => exact ⟨rfl, rfl⟩
    | some bytes => exact ⟨rfl, rfl⟩
  have before : ∀ c ∈ partChars '?' query, decide (c ≠ '#') = true :=
    fun c member => decide_eq_true (partChars_query queried c member)
  rw [parseExample, exampleText, String.toList_ofList,
    List.dropPrefix?_append_of_beq _ (beq_self_eq_true _)]
  simp only [Option.bind_eq_bind, Option.bind_some]
  rw [List.takeWhile_append_of_pos before, List.dropWhile_append_of_pos before, starts.1, starts.2,
    List.append_nil, examplePart_chars queried, examplePart_chars marked]
  rfl

theorem parseExample_some {text : String} {url : Url} (parsed : parseExample text = some url) :
    ∃ query fragment, url = examplePage query fragment ∧ Written query ∧ Written fragment := by
  obtain ⟨rest, _, parsed⟩ := Option.bind_eq_some_iff.mp parsed
  obtain ⟨query, queried, parsed⟩ := Option.bind_eq_some_iff.mp parsed
  obtain ⟨fragment, marked, parsed⟩ := Option.bind_eq_some_iff.mp parsed
  cases parsed
  exact ⟨query, fragment, rfl, written_of_part queried, written_of_part marked⟩

/-- Nothing is trimmed from the example's texts. -/
theorem trim_exampleText (queried : Written query) (marked : Written fragment) :
    Publisher.trim (exampleText query fragment) = exampleText query fragment := by
  have solid : ∀ c ∈ (exampleText query fragment).toList, Publisher.isWhiteSpace c = false := by
    intro c member
    rw [exampleText, String.toList_ofList] at member
    rcases List.mem_append.mp member with start | later
    · have every : examplePrefix.all (fun c => !Publisher.isWhiteSpace c) = true := by
        decide +kernel
      simpa using List.all_eq_true.mp every c start
    · rcases List.mem_append.mp later with inside | inside
      · rcases partChars_solid queried '?' inside with rfl | solid
        · decide
        · exact solid.2
      · rcases partChars_solid marked '#' inside with rfl | solid
        · decide
        · exact solid.2
  have kept : ∀ list : List Char, (∀ c ∈ list, Publisher.isWhiteSpace c = false) →
      list.dropWhile Publisher.isWhiteSpace = list := by
    intro list solid
    cases list with
    | nil => rfl
    | cons c rest => rw [List.dropWhile_cons, if_neg (by simp [solid c List.mem_cons_self])]
  rw [Publisher.trim, kept _ solid, kept _ fun c member => solid c (List.mem_reverse.mp member),
    List.reverse_reverse, String.ofList_toList]

/-- The pieces of a written query are written. -/
theorem QueryPieces.written {pieces : List (List UInt8)} (spelled : QueryPieces query pieces)
    (written : Written query) {piece : List UInt8} (member : piece ∈ pieces) :
    ∀ b ∈ piece, isQueryByte b = true := by
  cases spelled with
  | none => cases member
  | empty => cases member
  | split bytes =>
    intro b inside
    have joined : b ∈ [0x26].intercalate (bytes.splitOn 0x26) :=
      mem_intercalate_of_mem member inside
    rw [List.intercalate_splitOn] at joined
    exact written bytes rfl b joined

/-- An extension of a written query is written. -/
theorem ExtendsQuery.written {longer : Option (List UInt8)} (extended : ExtendsQuery query longer)
    (written : Written query) : Written longer := by
  cases extended with
  | same => exact written
  | more spelled inserted new =>
    rintro bytes ⟨⟩ b joined
    rcases mem_or_eq_of_mem_intercalate joined with rfl | ⟨piece, member, inside⟩
    · decide
    · rcases inserted.mem member with before | added
      · exact spelled.written written before b inside
      · exact added.written b inside

theorem parseExample_standard : FollowsStandard parseExample := by
  constructor
  · decide
  · rintro text url _ parsed acceptable ⟨longer, marked⟩
    obtain ⟨query, fragment, rfl, queried, _⟩ := parseExample_some parsed
    have extended := longer.written queried
    exact ⟨exampleText _ _, trim_exampleText extended marked, parseExample_text extended marked⟩

end Example

end Sooqa.Inbox.UrlNormalization
