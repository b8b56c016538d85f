import VersionedStore.Json.Fault
import VersionedStore.Schema.Encode

/-!
# Values from JSON

Reading a value that is already JSON. A record is read from an object, whose members are taken in
their order, or from an array of its fields; what is left out is settled at the end, in the order of
the fields. The first fault met is the answer.
-/

namespace VersionedStore

open Json (Fault Found)

/-- What a value is called where another one was expected. -/
def Json.found : Json → Found
  | .null => .null
  | .bool b => .boolean b
  | .int n => .integer n
  | .float _ => .float
  | .str s => .string s
  | .arr _ => .sequence
  | .obj _ => .map

/-- The fault of a value of the wrong kind. -/
def Json.wrong {α : Type} (v : Json) (expected : String) : Except Fault α :=
  .error (.wrongType v.found expected)

/-- A truth value. -/
def Json.asFlag : Json → Except Fault Bool
  | .bool b => .ok b
  | v => v.wrong "a boolean"

/-- An integer, and what it stands for. -/
def Json.numberAs {α : Type} (expected : String) (convert : Int → Except Fault α) :
    Json → Except Fault α
  | .int n => convert n
  | v => v.wrong expected

/-- A string, and what its text stands for. -/
def Json.stringAs {α : Type} (expected : String) (convert : String → Except Fault α) :
    Json → Except Fault α
  | .str s => convert s
  | v => v.wrong expected

/-- A null, or what another value stands for. -/
def Json.asOption {α : Type} (inner : Json → Except Fault α) : Json → Except Fault (Option α)
  | .null => .ok none
  | v => (inner v).map some

/-- What each item of a list stands for. -/
def Json.asItems {α : Type} (item : Json → Except Fault α) : Json → Except Fault (List α)
  | .arr vs => vs.mapM item
  | v => v.wrong "a sequence"

/-- What the members of an object stand for, or the items of a list. -/
def Json.asRecord {α : Type} (expected : String) (members : List (String × Json) → Except Fault α)
    (items : List Json → Except Fault α) : Json → Except Fault α
  | .obj ms => members ms
  | .arr vs => items vs
  | v => v.wrong expected

/-- What a name alone stands for, or the only member of an object. -/
def Json.asCase {α : Type} (pick : String → Option Json → Except Fault α) : Json → Except Fault α
  | .str key => pick key none
  | .obj [(key, held)] => pick key (some held)
  | .obj _ => .error .notOneKey
  | v => v.wrong "string or map"

/-- The name of the words of so many bits. -/
def wordName (bits : Nat) : String := "u" ++ Text.Decimal.ofNat bits

/-- The integer as a word, if it is one. -/
def Word.ofInt (bits : Nat) (n : Int) : Except Fault (Word bits) :=
  if h : 0 ≤ n ∧ n.toNat < Nat.pow 2 bits then .ok ⟨n.toNat, h.2⟩
  else .error (.outOfRange n (wordName bits))

/-- The integer as one of 64 bits, if it is one. -/
def Int64Value.ofInt (n : Int) : Except Fault Int64Value :=
  if h : -0x8000000000000000 ≤ n ∧ n < 0x8000000000000000 then .ok ⟨n, h⟩
  else .error (.outOfRange n "i64")

/-- What a UUID is called where another value stands. -/
def uuidName : String := "a formatted UUID string"

/-- What an instant is called where another value stands. -/
def instantName : String := "an RFC 3339 formatted date and time string"

/-- The UUID of a text. -/
def uuidOfText (s : String) : Except Fault Uuid :=
  match Uuid.read? s with
  | some u => .ok u
  | none => .error .badUuid

/-- The instant of a text. -/
def instantOfText (s : String) : Except Fault Instant := (Instant.read s).mapError .badInstant

/-- A record as it is called when an array has too few items for it. -/
def lengthName (expected : String) (count : Nat) : String :=
  expected ++ " with " ++ Text.Decimal.ofNat count ++ (if count = 1 then " element" else " elements")

/-- The value of a field that is not given. -/
def absentValue (name : String) (presence : Presence) : (s : Schema) → Except Fault s.Value
  | .optional _ => .ok none
  | s => if presence = .required then .error (.missingField name) else .ok s.initial

/-- The values of all fields, once every member has been taken. -/
def Fields.settle : (fs : Fields) → fs.Partial → Except Fault fs.Values
  | .nil, _ => .ok ()
  | .cons name presence schema rest, (given, others) => do
    let v ← match given with
      | some v => .ok v
      | none => absentValue name presence schema
    let vs ← rest.settle others
    .ok (v, vs)

/-- Take members one by one; a key that belongs to no field is a fault when the record is closed. -/
def takeMembers {P : Type} (closed : Bool) (names : List String)
    (take : String → Json → P → Except Fault (Option P)) : List (String × Json) → P → Except Fault P
  | [], p => .ok p
  | (key, v) :: rest, p => do
    match ← take key v p with
    | some p => takeMembers closed names take rest p
    | none =>
      if closed then .error (.unknownField key names) else takeMembers closed names take rest p

mutual

/-- Read a value. -/
def Schema.decode : (s : Schema) → Json → Except Fault s.Value
  | .flag _, v => v.asFlag
  | .word bits _, v => v.numberAs (wordName bits) (Word.ofInt bits)
  | .int64, v => v.numberAs "i64" Int64Value.ofInt
  | .text, v => v.stringAs "a string" .ok
  | .uuid, v => v.stringAs uuidName uuidOfText
  | .instant, v => v.stringAs instantName instantOfText
  | .document, v => .ok (Document.ofJson v)
  | .optional inner, v => v.asOption inner.decode
  | .list item, v => v.asItems item.decode
  | .record expected closed fields, v => v.asRecord expected
    (fun ms ↦ do
      let p ← takeMembers closed fields.names fields.decodeMember ms fields.unset
      fields.settle p)
    (fun vs ↦ do
      let (values, left) ← fields.decodeItems (lengthName expected fields.count) 0 vs
      if left = 0 then .ok values else .error (.wrongLength vs.length "fewer elements in array"))
  | .choice name content others, v => v.asCase fun key held ↦
    if key = name then (content.decode held).map .inl
    else (others.decode (name :: others.names) key held).map .inr

/-- Read the member of one key into the fields; none when no field has that name. -/
def Fields.decodeMember : (fs : Fields) → String → Json → fs.Partial →
    Except Fault (Option fs.Partial)
  | .nil, _, _, _ => .ok none
  | .cons name _ schema rest, key, v, (given, others) =>
    if key = name then
      match given with
      | some _ => .error (.duplicateField name)
      | none => (schema.decode v).map fun value ↦ some (some value, others)
    else (rest.decodeMember key v others).map fun p ↦ p.map fun others ↦ (given, others)

/-- Read the fields from the items of an array, with the number of items that are left over. -/
def Fields.decodeItems : (fs : Fields) → String → Nat → List Json →
    Except Fault (fs.Values × Nat)
  | .nil, _, _, vs => .ok ((), vs.length)
  | .cons _ presence schema rest, expected, index, vs =>
    match vs with
    | [] =>
      if presence = .required then .error (.wrongLength index expected)
      else do
        let (others, left) ← rest.decodeItems expected (index + 1) []
        .ok ((schema.initial, others), left)
    | v :: vs => do
      let value ← schema.decode v
      let (others, left) ← rest.decodeItems expected (index + 1) vs
      .ok ((value, others), left)

/-- Read what a case holds. -/
def Content.decode : (c : Content) → Option Json → Except Fault c.Value
  | .nothing, held =>
    match held with
    | none | some .null => .ok ()
    | some v => v.wrong "unit"
  | .one schema, held =>
    match held with
    | none => .error (.wrongType .bareCase "newtype variant")
    | some v => schema.decode v
  | .fields _ fields, held =>
    match held with
    | none => .error (.wrongType .bareCase "struct variant")
    | some (.obj ms) => do
      let p ← takeMembers false fields.names fields.decodeMember ms fields.unset
      fields.settle p
    | some v => v.wrong "struct variant"

/-- Read the case with this name. -/
def Cases.decode : (cs : Cases) → List String → String → Option Json → Except Fault cs.Value
  | .nil, known, key, _ => .error (.unknownCase key known)
  | .cons name content rest, known, key, held =>
    if key = name then (content.decode held).map .inl else (rest.decode known key held).map .inr

end

/-- A word is read from its number. -/
theorem Word.ofInt_val {bits : Nat} (n : Word bits) : Word.ofInt bits n.val = .ok n := by
  simp [Word.ofInt]

/-- An integer of 64 bits is read from its number. -/
theorem Int64Value.ofInt_value (n : Int64Value) : Int64Value.ofInt n.value = .ok n := by
  unfold Int64Value.ofInt
  rw [dif_pos n.bounds]

end VersionedStore
