import Mathlib.Data.List.Nodup
import Sooqa.Foundation.Json
import Sooqa.Foundation.Numerals
import Sooqa.Foundation.Outcome

/-!
Typed values as JSON documents. A codec keeps the law that a written value is
read back; a record is the list of its fields, and what is not among them can
be kept beside them.
-/
namespace Foundation

section Errors

/-- Why a document is no value of a type. -/
inductive DecodeError where
  | invalidType (found : Json) (expected : String)
  | invalidValue (found : Json) (expected : String)
  | invalidLength (length : Nat) (expected : String)
  | unknownVariant (name : String) (expected : List String)
  | missingField (name : String)
  | invalidUuid (text : String)

/-- How texts are quoted, and what is said of a text that is no identifier. -/
structure ErrorTexts where
  quoted : String → String
  uuid : String → String

/-- What a document is called where it is not expected. -/
def ErrorTexts.found (texts : ErrorTexts) : Json → String
  | .null => "null"
  | .bool value => s!"boolean `{value}`"
  | .number (.posInt n) => s!"integer `{n.toNat}`"
  | .number (.negInt n) => s!"integer `{n.toInt}`"
  | .number (.float text) => s!"floating point `{text}`"
  | .string text => s!"string {texts.quoted text}"
  | .array _ => "sequence"
  | .object _ => "map"

def oneOf : List String → String
  | [] => "there are no variants"
  | [name] => s!"expected `{name}`"
  | [first, second] => s!"expected `{first}` or `{second}`"
  | names => "expected one of " ++ ", ".intercalate (names.map fun name => s!"`{name}`")

def DecodeError.text (texts : ErrorTexts) : DecodeError → String
  | .invalidType found expected => s!"invalid type: {texts.found found}, expected {expected}"
  | .invalidValue found expected => s!"invalid value: {texts.found found}, expected {expected}"
  | .invalidLength length expected => s!"invalid length {length}, expected {expected}"
  | .unknownVariant name expected => s!"unknown variant `{name}`, {oneOf expected}"
  | .missingField name => s!"missing field `{name}`"
  | .invalidUuid text => texts.uuid text

end Errors

section Codecs

/-- How values of a type are written and read. No value is written as null,
    which stands for the absence of one. -/
structure Codec (α : Type) where
  encode : α → Json
  decode : Json → Except DecodeError α
  solid : ∀ a, encode a ≠ .null
  round : ∀ a, decode (encode a) = .ok a

namespace Codec
variable {α : Type}

/-- A value or null. -/
def orNull (codec : Codec α) : Json → Except DecodeError (Option α)
  | .null => .ok none
  | value => (codec.decode value).map some

theorem orNull_encode (codec : Codec α) (a : α) : codec.orNull (codec.encode a) = .ok (some a) := by
  have solid := codec.solid a
  have round := codec.round a
  unfold orNull
  split
  · rename_i null
    exact absurd null solid
  · rw [round]
    rfl

def string : Codec String where
  encode := .string
  decode := fun value => match value with
    | .string text => .ok text
    | other => .error (.invalidType other "a string")
  solid := fun _ same => by cases same
  round := fun _ => rfl

/-- A unit variant is its name, or an object of its name and null. -/
def variants (names : α → String) (all : List α)
    (each : ∀ a, all.find? (fun b => names b == names a) = some a) : Codec α where
  encode := fun a => .string (names a)
  decode := fun value =>
    let find := fun name : String =>
      expect (all.find? fun a => names a == name) (.unknownVariant name (all.map names))
    match value with
    | .string name => find name
    | .object [(name, content)] => do
      let a ← find name
      match content with
      | .null => .ok a
      | other => .error (.invalidType other "unit")
    | .object entries => .error (.invalidValue (.object entries) "map with a single key")
    | other => .error (.invalidType other "string or map")
  solid := fun _ same => by cases same
  round := fun a => by simp only [each, expect]

/-- An identifier of 128 bits, written with hyphens. -/
def uuid : Codec (BitVec 128) where
  encode := fun id => .string (.ofList (uuidText id.toNat))
  decode := fun value => match value with
    | .string text =>
      match parseUuid text.toList with
      | some id => .ok (.ofNat 128 id)
      | none => .error (.invalidUuid text)
    | other => .error (.invalidType other "a formatted UUID string")
  solid := fun _ same => by cases same
  round := fun id => by
    simp only [String.toList_ofList, parseUuid_uuidText id.isLt, BitVec.ofNat_toNat,
      BitVec.setWidth_eq]

/-- The elements of an array one by one. -/
def decodeList (codec : Codec α) : List Json → Except DecodeError (List α)
  | [] => .ok []
  | item :: rest => do
    let a ← codec.decode item
    let more ← decodeList codec rest
    return a :: more

theorem decodeList_encode (codec : Codec α) (list : List α) :
    codec.decodeList (list.map codec.encode) = .ok list := by
  induction list with
  | nil => rfl
  | cons a rest ih =>
    rw [List.map_cons, decodeList, codec.round, bind_ok_eq, ih, bind_ok_eq]
    rfl

def list (codec : Codec α) : Codec (List α) where
  encode := fun list => .array (list.map codec.encode)
  decode := fun value => match value with
    | .array items => codec.decodeList items
    | other => .error (.invalidType other "a sequence")
  solid := fun _ same => by cases same
  round := codec.decodeList_encode

end Codec

end Codecs

section Integers

/-- The integer that a number is, unless it is written as a floating one. -/
def JsonNumber.int : JsonNumber → Option Int
  | .posInt n => some n.toNat
  | .negInt n => some n.toInt
  | .float _ => none

def Json.ofInt (i : Int) : Json :=
  if 0 ≤ i then .number (.posInt (.ofNat i.toNat)) else .number (.negInt (.ofInt i))

/-- A type of machine integers that a JSON number can hold. -/
structure IntegerType (α : Type) where
  name : String
  toInt : α → Int
  ofInt : Int → Option α
  low : ∀ a, -2 ^ 63 ≤ toInt a
  high : ∀ a, toInt a < 2 ^ 64
  back : ∀ a, ofInt (toInt a) = some a

/-- Reading an integer of a type. -/
def IntegerType.read {α : Type} (type : IntegerType α) : Json → Except DecodeError α
  | .number n =>
    match n.int with
    | some i => expect (type.ofInt i) (.invalidValue (.number n) type.name)
    | none => .error (.invalidType (.number n) type.name)
  | other => .error (.invalidType other type.name)

theorem int_ofInt {i : Int} (low : -2 ^ 63 ≤ i) (high : i < 2 ^ 64) :
    ∃ n, Json.ofInt i = .number n ∧ n.int = some i := by
  unfold Json.ofInt
  split
  · refine ⟨_, rfl, ?_⟩
    rw [JsonNumber.int, UInt64.toNat_ofNat_of_lt' (by simp [UInt64.size]; omega)]
    exact congrArg some (by omega)
  · refine ⟨_, rfl, ?_⟩
    rw [JsonNumber.int, Int64.toInt_ofInt_of_le (by simpa using low) (by simp; omega)]

def Codec.integer {α : Type} (type : IntegerType α) : Codec α where
  encode := fun a => .ofInt (type.toInt a)
  decode := type.read
  solid := fun a same => by
    obtain ⟨n, number, _⟩ := int_ofInt (type.low a) (type.high a)
    rw [number] at same
    cases same
  round := fun a => by
    obtain ⟨n, number, int⟩ := int_ofInt (type.low a) (type.high a)
    simp only [number, IntegerType.read, int, type.back, expect]

def IntegerType.u64 : IntegerType UInt64 where
  name := "u64"
  toInt := fun n => n.toNat
  ofInt := fun i => if 0 ≤ i ∧ i < 2 ^ 64 then some (.ofNat i.toNat) else none
  low := fun n => by omega
  high := fun n => by have := n.toNat_lt; omega
  back := fun n => by
    rw [if_pos ⟨by omega, by have := n.toNat_lt; omega⟩, Int.toNat_natCast, UInt64.ofNat_toNat]

def IntegerType.u32 : IntegerType UInt32 where
  name := "u32"
  toInt := fun n => n.toNat
  ofInt := fun i => if 0 ≤ i ∧ i < 2 ^ 32 then some (.ofNat i.toNat) else none
  low := fun n => by omega
  high := fun n => by have := n.toNat_lt; omega
  back := fun n => by
    rw [if_pos ⟨by omega, by have := n.toNat_lt; omega⟩, Int.toNat_natCast, UInt32.ofNat_toNat]

def IntegerType.u16 : IntegerType UInt16 where
  name := "u16"
  toInt := fun n => n.toNat
  ofInt := fun i => if 0 ≤ i ∧ i < 2 ^ 16 then some (.ofNat i.toNat) else none
  low := fun n => by omega
  high := fun n => by have := n.toNat_lt; omega
  back := fun n => by
    rw [if_pos ⟨by omega, by have := n.toNat_lt; omega⟩, Int.toNat_natCast, UInt16.ofNat_toNat]

def IntegerType.u8 : IntegerType UInt8 where
  name := "u8"
  toInt := fun n => n.toNat
  ofInt := fun i => if 0 ≤ i ∧ i < 2 ^ 8 then some (.ofNat i.toNat) else none
  low := fun n => by omega
  high := fun n => by have := n.toNat_lt; omega
  back := fun n => by
    rw [if_pos ⟨by omega, by have := n.toNat_lt; omega⟩, Int.toNat_natCast, UInt8.ofNat_toNat]

def IntegerType.i64 : IntegerType Int64 where
  name := "i64"
  toInt := fun n => n.toInt
  ofInt := fun i => if -2 ^ 63 ≤ i ∧ i < 2 ^ 63 then some (.ofInt i) else none
  low := fun n => by have := n.le_toInt; omega
  high := fun n => by have := n.toInt_lt; omega
  back := fun n => by
    rw [if_pos ⟨by have := n.le_toInt; omega, by have := n.toInt_lt; omega⟩, Int64.ofInt_toInt]

end Integers

section Records
variable {σ α : Type}

/-- A field of a record: how it is written, if it is, and what an entry under
    its name is checked for. -/
structure RecordField (σ : Type) where
  name : String
  put : σ → Option Json
  check : Json → Except DecodeError Unit
  sound : ∀ s value, put s = some value → check value = .ok ()

def Codec.check (codec : Codec α) (value : Json) : Except DecodeError Unit :=
  (codec.decode value).map fun _ => ()

def Codec.checkOrNull (codec : Codec α) (value : Json) : Except DecodeError Unit :=
  (codec.orNull value).map fun _ => ()

namespace RecordField

def required (name : String) (codec : Codec α) (get : σ → α) : RecordField σ where
  name := name
  put := fun s => some (codec.encode (get s))
  check := codec.check
  sound := fun s _ is => by
    rw [← Option.some.inj is, Codec.check, codec.round]
    rfl

/-- A field that is left out when it holds nothing. -/
def skipped (name : String) (codec : Codec α) (get : σ → Option α) : RecordField σ where
  name := name
  put := fun s => (get s).map codec.encode
  check := codec.checkOrNull
  sound := fun s _ is => by
    obtain ⟨a, _, is⟩ := Option.map_eq_some_iff.mp is
    rw [← is, Codec.checkOrNull, codec.orNull_encode]
    rfl

/-- A field that is null when it holds nothing. -/
def nullable (name : String) (codec : Codec α) (get : σ → Option α) : RecordField σ where
  name := name
  put := fun s => some (.ofOption codec.encode (get s))
  check := codec.checkOrNull
  sound := fun s _ is => by
    rw [← Option.some.inj is, Codec.checkOrNull]
    cases get s with
    | none => rfl
    | some a => rw [Json.ofOption, codec.orNull_encode]; rfl

/-- A list that is left out when it is empty. -/
def listed (name : String) (codec : Codec α) (get : σ → List α) : RecordField σ where
  name := name
  put := fun s => if (get s).isEmpty then none else some (codec.list.encode (get s))
  check := codec.list.check
  sound := fun s _ is => by
    split at is
    · cases is
    · rw [← Option.some.inj is, Codec.check, codec.list.round]
      rfl

/-- A document that is kept as it is. -/
def document (name : String) (get : σ → Json) : RecordField σ where
  name := name
  put := fun s => some (get s)
  check := fun _ => .ok ()
  sound := fun _ _ _ => rfl

/-- A document that is left out when there is none. -/
def skippedDocument (name : String) (get : σ → Option Json) : RecordField σ where
  name := name
  put := get
  check := fun _ => .ok ()
  sound := fun _ _ _ => rfl

end RecordField

/-- The entries of the fields that are written. -/
def present (fields : List (RecordField σ)) (s : σ) : List (String × Json) :=
  fields.filterMap fun field => (field.put s).map fun value => (field.name, value)

/-- An entry under a field's name is checked for it. -/
def checkEntry (fields : List (RecordField σ)) (entry : String × Json) : Except DecodeError Unit :=
  match fields.find? (·.name == entry.1) with
  | some field => field.check entry.2
  | none => .ok ()

/-- The entries in their order. -/
def visit (fields : List (RecordField σ)) : List (String × Json) → Except DecodeError Unit
  | [] => .ok ()
  | entry :: rest => do
    checkEntry fields entry
    visit fields rest

/-- The entries under no field's name. -/
def others (fields : List (RecordField σ)) (entries : List (String × Json)) : List (String × Json) :=
  entries.filter fun entry => fields.all (·.name != entry.1)

def readRequired (codec : Codec α) (name : String) (entries : List (String × Json)) :
    Except DecodeError α :=
  match entries.lookup name with
  | some value => codec.decode value
  | none => .error (.missingField name)

def readOptional (codec : Codec α) (name : String) (entries : List (String × Json)) :
    Except DecodeError (Option α) :=
  match entries.lookup name with
  | some value => codec.orNull value
  | none => .ok none

def readListed (codec : Codec α) (name : String) (entries : List (String × Json)) :
    Except DecodeError (List α) :=
  match entries.lookup name with
  | some value => codec.list.decode value
  | none => .ok []

def readDocument (name : String) (entries : List (String × Json)) : Except DecodeError Json :=
  expect (entries.lookup name) (.missingField name)

def readOptionalDocument (name : String) (entries : List (String × Json)) : Option Json :=
  match entries.lookup name with
  | some .null => none
  | other => other

/-- The fields of a record have names of their own, and what stands beside them
    has others. -/
structure Apart (fields : List (RecordField σ)) (extensions : List (String × Json)) : Prop where
  names : (fields.map (·.name)).Nodup
  extensions : ∀ entry ∈ extensions, entry.1 ∉ fields.map (·.name)

variable {fields : List (RecordField σ)} {extensions : List (String × Json)} {field : RecordField σ} {s : σ}

theorem mem_present {entry : String × Json} :
    entry ∈ present fields s ↔
      ∃ field ∈ fields, field.put s = some entry.2 ∧ field.name = entry.1 := by
  simp only [present, List.mem_filterMap, Option.map_eq_some_iff, Prod.ext_iff]
  constructor
  · rintro ⟨field, member, value, put, name, is⟩
    exact ⟨field, member, is ▸ put, name⟩
  · rintro ⟨field, member, put, name⟩
    exact ⟨field, member, entry.2, put, name, rfl⟩

theorem lookup_absent {entries : List (String × Json)} {name : String}
    (absent : ∀ entry ∈ entries, entry.1 ≠ name) : entries.lookup name = none := by
  rw [List.lookup_eq_none_iff]
  intro entry member
  simpa using Ne.symm (absent entry member)

/-- What stands under a field's name is what the field put there. -/
theorem lookup_present (apart : Apart fields extensions) (member : field ∈ fields) (s : σ) :
    (present fields s ++ extensions).lookup field.name = field.put s := by
  have beside : extensions.lookup field.name = none := by
    refine lookup_absent (fun entry inside same => ?_)
    exact apart.extensions entry inside (same ▸ List.mem_map_of_mem member)
  have own : (present fields s).lookup field.name = field.put s := by
    have names := apart.names
    clear apart beside
    induction fields with
    | nil => cases member
    | cons first rest ih =>
      rw [List.map_cons, List.nodup_cons] at names
      have skip : (present rest s).lookup first.name = none := by
        refine lookup_absent (fun entry inside same => ?_)
        obtain ⟨other, there, _, name⟩ := mem_present.mp inside
        exact names.1 (List.mem_map.mpr ⟨other, there, name.trans same⟩)
      rcases List.mem_cons.mp member with rfl | later
      · cases put : field.put s with
        | none => simpa [present, put] using skip
        | some value => simp [present, put]
      · have other : (field.name == first.name) = false := by
          rw [beq_eq_false_iff_ne]
          exact fun same => names.1 (same ▸ List.mem_map_of_mem later)
        have tail := ih later names.2
        cases put : first.put s with
        | none => simpa [present, put] using tail
        | some value => simpa [present, put, List.lookup_cons, other] using tail
  rw [List.lookup_append, own, beside, Option.or_none]

theorem visit_ok_iff {entries : List (String × Json)} :
    visit fields entries = .ok () ↔ ∀ entry ∈ entries, ∀ field,
      fields.find? (·.name == entry.1) = some field → field.check entry.2 = .ok () := by
  induction entries with
  | nil => simp [visit]
  | cons entry rest ih =>
    rw [visit, bind_ok, List.forall_mem_cons, ← ih]
    constructor
    · rintro ⟨_, here, later⟩
      refine ⟨fun field found => ?_, later⟩
      rw [checkEntry, found] at here
      exact here
    · rintro ⟨here, later⟩
      refine ⟨(), ?_, later⟩
      unfold checkEntry
      split
      · rename_i field found
        exact here field found
      · rfl

/-- A written record passes the checks of its fields. -/
theorem visit_present (apart : Apart fields extensions) (s : σ) :
    visit fields (present fields s ++ extensions) = .ok () := by
  rw [visit_ok_iff]
  intro entry member found is
  have there := List.mem_of_find?_eq_some is
  have name : found.name = entry.1 := by simpa using List.find?_some is
  rcases List.mem_append.mp member with written | beside
  · obtain ⟨field, inside, put, own⟩ := mem_present.mp written
    have same : found = field :=
      List.inj_on_of_nodup_map apart.names there inside (name.trans own.symm)
    rw [same]
    exact field.sound s entry.2 put
  · exact absurd (List.mem_map.mpr ⟨found, there, name⟩) (apart.extensions entry beside)

theorem others_present (apart : Apart fields extensions) (s : σ) :
    others fields (present fields s ++ extensions) = extensions := by
  have own : others fields (present fields s) = [] := by
    rw [others, List.filter_eq_nil_iff]
    intro entry member all
    obtain ⟨field, inside, _, name⟩ := mem_present.mp member
    have ne := List.all_eq_true.mp all field inside
    simp [name] at ne
  have beside : others fields extensions = extensions := by
    rw [others, List.filter_eq_self]
    intro entry member
    rw [List.all_eq_true]
    intro field inside
    have ne : field.name ≠ entry.1 := fun same =>
      apart.extensions entry member (List.mem_map.mpr ⟨field, inside, same⟩)
    simpa using ne
  rw [others, List.filter_append]
  exact (congrArg₂ (· ++ ·) own beside).trans (List.nil_append _)

section Reading
variable {codec : Codec α} {name : String}

theorem readRequired_present {get : σ → α} (apart : Apart fields extensions) (i : Nat)
    (here : fields[i]? = some (RecordField.required name codec get)) (s : σ) :
    readRequired codec name (present fields s ++ extensions) = .ok (get s) := by
  have found := lookup_present apart (List.mem_of_getElem? here) s
  simp only [RecordField.required] at found
  rw [readRequired, found]
  exact codec.round (get s)

theorem readOptional_skipped {get : σ → Option α} (apart : Apart fields extensions) (i : Nat)
    (here : fields[i]? = some (RecordField.skipped name codec get)) (s : σ) :
    readOptional codec name (present fields s ++ extensions) = .ok (get s) := by
  have found := lookup_present apart (List.mem_of_getElem? here) s
  simp only [RecordField.skipped] at found
  rw [readOptional, found]
  cases get s with
  | none => rfl
  | some a => exact codec.orNull_encode a

theorem readOptional_nullable {get : σ → Option α} (apart : Apart fields extensions) (i : Nat)
    (here : fields[i]? = some (RecordField.nullable name codec get)) (s : σ) :
    readOptional codec name (present fields s ++ extensions) = .ok (get s) := by
  have found := lookup_present apart (List.mem_of_getElem? here) s
  simp only [RecordField.nullable] at found
  rw [readOptional, found]
  cases get s with
  | none => rfl
  | some a => exact codec.orNull_encode a

theorem readListed_present {get : σ → List α} (apart : Apart fields extensions) (i : Nat)
    (here : fields[i]? = some (RecordField.listed name codec get)) (s : σ) :
    readListed codec name (present fields s ++ extensions) = .ok (get s) := by
  have found := lookup_present apart (List.mem_of_getElem? here) s
  simp only [RecordField.listed] at found
  rw [readListed, found]
  by_cases empty : (get s).isEmpty
  · rw [if_pos empty, List.isEmpty_iff.mp empty]
  · rw [if_neg empty]
    exact codec.list.round (get s)

theorem readDocument_present {get : σ → Json} (apart : Apart fields extensions) (i : Nat)
    (here : fields[i]? = some (RecordField.document name get)) (s : σ) :
    readDocument name (present fields s ++ extensions) = .ok (get s) := by
  have found := lookup_present apart (List.mem_of_getElem? here) s
  simp only [RecordField.document] at found
  rw [readDocument, found]
  rfl

theorem readOptionalDocument_present {get : σ → Option Json} (apart : Apart fields extensions) (i : Nat)
    (here : fields[i]? = some (RecordField.skippedDocument name get)) (s : σ) (solid : get s ≠ some .null) :
    readOptionalDocument name (present fields s ++ extensions) = get s := by
  have found := lookup_present apart (List.mem_of_getElem? here) s
  simp only [RecordField.skippedDocument] at found
  rw [readOptionalDocument, found]
  split
  · rename_i null
    exact absurd null solid
  · rfl

end Reading

section Structures

/-- A field of a record that comes as an array. -/
def element {β : Type} (items : List Json) (expected : String) (i : Nat)
    (decode : Json → Except DecodeError β) : Except DecodeError β :=
  match items[i]? with
  | some value => decode value
  | none => .error (.invalidLength i expected)

def elementOr {β : Type} (items : List Json) (i : Nat) (decode : Json → Except DecodeError β)
    (missing : β) : Except DecodeError β :=
  match items[i]? with
  | some value => decode value
  | none => .ok missing

def endOfElements (items : List Json) (count : Nat) : Except DecodeError Unit :=
  require (items.length ≤ count) (.invalidLength items.length "fewer elements in array")

/-- A record of its own: an object of its fields, or an array of them. -/
def Codec.record (name : String) (fields : List (RecordField σ))
    (read : List (String × Json) → Except DecodeError σ)
    (elements : List Json → Except DecodeError σ) (apart : Apart fields [])
    (reads : ∀ s, read (present fields s ++ []) = .ok s) : Codec σ where
  encode := fun s => .object (present fields s)
  decode := fun value => match value with
    | .object entries => do
      visit fields entries
      read entries
    | .array items => elements items
    | other => .error (.invalidType other s!"struct {name}")
  solid := fun _ same => by cases same
  round := fun s => by
    have visited := visit_present apart s
    have read := reads s
    rw [List.append_nil] at visited read
    simp only [visited, bind_ok_eq, read]

end Structures

end Records

section Lengths
variable {σ α : Type}

/-- The length of an object of members; those that are left out have none. -/
def objectLength (members : List (String × Option Nat)) : Nat :=
  let written := members.filterMap fun member =>
    member.2.map fun length => Json.stringSize member.1 + 1 + length
  2 + (written.length - 1) + written.sum

def arrayLength (items : List Nat) : Nat := 2 + (items.length - 1) + items.sum

/-- The length of a value or null. -/
def orNullLength (length : α → Nat) : Option α → Nat
  | some a => length a
  | none => 4

def naturalLength (n : Nat) : Nat := (Nat.toDigits 10 n).length

def integerLength (i : Int) : Nat :=
  if 0 ≤ i then naturalLength i.toNat else 1 + naturalLength i.natAbs

theorem entriesSize_eq (entries : List (String × Json)) : Json.entriesSize entries =
    (entries.map fun entry => Json.stringSize entry.1 + 1 + entry.2.size).sum := by
  induction entries with
  | nil => rfl
  | cons entry rest ih => rw [Json.entriesSize, ih, List.map_cons, List.sum_cons]

theorem itemsSize_eq (items : List Json) : Json.itemsSize items = (items.map Json.size).sum := by
  induction items with
  | nil => rfl
  | cons item rest ih => rw [Json.itemsSize, ih, List.map_cons, List.sum_cons]

theorem size_list (codec : Codec α) (list : List α) :
    (codec.list.encode list).size = arrayLength (list.map fun a => (codec.encode a).size) := by
  simp only [Codec.list, Json.size, itemsSize_eq, arrayLength, List.map_map, List.length_map]
  rfl

theorem size_ofOption (encode : α → Json) (value : Option α) :
    (Json.ofOption encode value).size = orNullLength (fun a => (encode a).size) value := by
  cases value with
  | none => rfl
  | some a => rfl

theorem size_integer (type : IntegerType α) (a : α) :
    ((Codec.integer type).encode a).size = integerLength (type.toInt a) := by
  have low := type.low a
  have high := type.high a
  unfold integerLength
  simp only [Codec.integer, Json.ofInt]
  split
  · have back : (UInt64.ofNat (type.toInt a).toNat).toNat = (type.toInt a).toNat :=
      UInt64.toNat_ofNat_of_lt' (by simp [UInt64.size]; omega)
    rw [Json.size, Json.numberSize, back, naturalLength]
  · have back : (Int64.ofInt (type.toInt a)).toInt = type.toInt a :=
      Int64.toInt_ofInt_of_le (by simpa using low) (by simp; omega)
    rw [Json.size, Json.numberSize, back, naturalLength]

/-- The length of a written record is that of its members. -/
theorem size_present (fields : List (RecordField σ)) (s : σ) (extensions : List (String × Json)) :
    (Json.object (present fields s ++ extensions)).size =
      objectLength ((fields.map fun field => (field.name, (field.put s).map Json.size)) ++
        extensions.map fun entry => (entry.1, some entry.2.size)) := by
  have own : ∀ fields : List (RecordField σ),
      (present fields s).map (fun entry => Json.stringSize entry.1 + 1 + entry.2.size) =
        (fields.map fun field => (field.name, (field.put s).map Json.size)).filterMap fun member =>
          member.2.map fun length => Json.stringSize member.1 + 1 + length := by
    intro fields
    induction fields with
    | nil => rfl
    | cons field rest ih =>
      cases put : field.put s with
      | none => simpa [present, put] using ih
      | some value => simpa [present, put] using ih
  have beside : extensions.map (fun entry => Json.stringSize entry.1 + 1 + entry.2.size) =
      (extensions.map fun entry => (entry.1, some entry.2.size)).filterMap fun member =>
        member.2.map fun length => Json.stringSize member.1 + 1 + length := by
    rw [List.filterMap_map, ← List.filterMap_eq_map]
    rfl
  have lengths := congrArg List.length (congrArg₂ (· ++ ·) (own fields) beside)
  simp only [List.length_append, List.length_map] at lengths
  rw [Json.size, entriesSize_eq, objectLength, List.map_append, own, beside, List.filterMap_append,
    List.length_append, List.length_append, lengths]

theorem size_record (fields : List (RecordField σ)) (s : σ) : (Json.object (present fields s)).size =
    objectLength (fields.map fun field => (field.name, (field.put s).map Json.size)) := by
  have size := size_present fields s []
  rw [List.append_nil, List.map_nil, List.append_nil] at size
  exact size

/-- The text of an identifier has no characters that are escaped. -/
theorem size_uuid (id : BitVec 128) : (Codec.uuid.encode id).size = 38 := by
  have one : ∀ c ∈ uuidText id.toNat, Json.charSize c = 1 := by
    intro c member
    rcases mem_uuidText member with hyphen | ⟨d, small, digit⟩
    · rw [hyphen]
      decide
    · have digits : ∀ d < 16, Json.charSize (hexDigit d) = 1 := by decide
      rw [digit, digits d small]
  have sum : ((uuidText id.toNat).map Json.charSize).sum = 36 := by
    rw [List.map_congr_left one, List.map_const', uuidText_length]
    decide
  rw [Codec.uuid, Json.size, Json.stringSize, String.toList_ofList, sum]

@[simp] theorem name_required (name : String) (codec : Codec α) (get : σ → α) :
    (RecordField.required name codec get).name = name := rfl

@[simp] theorem name_skipped (name : String) (codec : Codec α) (get : σ → Option α) :
    (RecordField.skipped name codec get).name = name := rfl

@[simp] theorem name_nullable (name : String) (codec : Codec α) (get : σ → Option α) :
    (RecordField.nullable name codec get).name = name := rfl

@[simp] theorem name_listed (name : String) (codec : Codec α) (get : σ → List α) :
    (RecordField.listed name codec get).name = name := rfl

@[simp] theorem name_document (name : String) (get : σ → Json) :
    (RecordField.document name get).name = name := rfl

@[simp] theorem name_skippedDocument (name : String) (get : σ → Option Json) :
    (RecordField.skippedDocument name get).name = name := rfl

/-- The lengths of the members that the fields write. -/
@[simp] theorem length_required (name : String) (codec : Codec α) (get : σ → α) (s : σ) :
    ((RecordField.required name codec get).put s).map Json.size = some (codec.encode (get s)).size := rfl

@[simp] theorem length_skipped (name : String) (codec : Codec α) (get : σ → Option α) (s : σ) :
    ((RecordField.skipped name codec get).put s).map Json.size =
      (get s).map fun a => (codec.encode a).size := by
  simp only [RecordField.skipped, Option.map_map]
  rfl

@[simp] theorem length_nullable (name : String) (codec : Codec α) (get : σ → Option α) (s : σ) :
    ((RecordField.nullable name codec get).put s).map Json.size =
      some (orNullLength (fun a => (codec.encode a).size) (get s)) :=
  congrArg some (size_ofOption codec.encode (get s))

@[simp] theorem length_document (name : String) (get : σ → Json) (s : σ) :
    ((RecordField.document name get).put s).map Json.size = some (get s).size := rfl

@[simp] theorem length_skippedDocument (name : String) (get : σ → Option Json) (s : σ) :
    ((RecordField.skippedDocument name get).put s).map Json.size = (get s).map Json.size := rfl

@[simp] theorem length_listed (name : String) (codec : Codec α) (get : σ → List α) (s : σ) :
    ((RecordField.listed name codec get).put s).map Json.size = if (get s).isEmpty then none
      else some (arrayLength ((get s).map fun a => (codec.encode a).size)) := by
  simp only [RecordField.listed]
  split
  · rfl
  · exact congrArg some (size_list codec (get s))

end Lengths

end Foundation
