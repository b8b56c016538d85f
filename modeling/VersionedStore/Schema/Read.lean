import VersionedStore.Json.Scanner
import VersionedStore.Schema.Decode

/-!
# Values from JSON text

Reading a value from text, from left to right: the first fault met is the answer, be it of type or
of form. A key may not be repeated, containers may be nested 127 deep, and a field that belongs to
no record is passed over. Nothing but blanks may follow the value.
-/

namespace VersionedStore

open Json (Fault Malformed Reader stop skipGap readWord readString readUnsigned skipValue unexpected)

/-- How deep containers may be nested, plus one. -/
def depthLimit : Nat := 128

/-- Go one container deeper. -/
def enter {α : Type} (room : Nat) (body : Nat → Except Fault α) : Except Fault α :=
  match room with
  | 0 | 1 => stop .tooDeep
  | room + 2 => body (room + 1)

/-- Where the next item of a list begins, if there is one. -/
def nextItem (first : Bool) (cs : List Char) : Except Fault (Option (List Char)) :=
  match skipGap cs with
  | [] => stop .endOfList
  | ']' :: _ => .ok none
  | c :: rest =>
    if first then .ok (some (c :: rest))
    else if c = ',' then
      match skipGap rest with
      | [] => stop .endOfValue
      | ']' :: _ => stop .trailingComma
      | rest => .ok (some rest)
    else stop .commaOrBracket

/-- The end of a list. -/
def endList (cs : List Char) : Except Fault (List Char) :=
  match skipGap cs with
  | [] => stop .endOfList
  | ']' :: rest => .ok rest
  | ',' :: rest => if (skipGap rest).head? = some ']' then stop .trailingComma
    else stop .trailingCharacters
  | _ => stop .trailingCharacters

/-- The next key of an object, if there is one. -/
def nextKey (first : Bool) (cs : List Char) : Except Fault (Option (String × List Char)) :=
  match skipGap cs with
  | [] => stop .endOfObject
  | '\x7d' :: _ => .ok none
  | c :: rest =>
    if first then
      if c = '"' then (readString rest).map some else stop .key
    else if c = ',' then
      match skipGap rest with
      | [] => stop .endOfValue
      | '"' :: rest => (readString rest).map some
      | '\x7d' :: _ => stop .trailingComma
      | _ => stop .key
    else stop .commaOrBrace

/-- The end of an object. -/
def endObject (cs : List Char) : Except Fault (List Char) :=
  match skipGap cs with
  | [] => stop .endOfObject
  | '\x7d' :: rest => .ok rest
  | ',' :: _ => stop .trailingComma
  | _ => stop .trailingCharacters

/-- The colon behind a key. -/
def readColon (cs : List Char) : Except Fault (List Char) :=
  match skipGap cs with
  | [] => stop .endOfObject
  | ':' :: rest => .ok rest
  | _ => stop .colon

/-- The items of a list up to its end. Each takes a character, so the length of the text bounds the
number of steps. -/
def readItems {α : Type} (item : Reader α) : Nat → Bool → Reader (List α)
  | 0, _, _ => stop .endOfList
  | steps + 1, first, cs => do
    match ← nextItem first cs with
    | none => .ok ([], cs)
    | some cs =>
      let (v, cs) ← item cs
      let (vs, cs) ← readItems item steps false cs
      .ok (v :: vs, cs)

/-- The members of an object up to its end. -/
def readMembers {P : Type} (closed : Bool) (names : List String)
    (take : String → P → List Char → Except Fault (Option (P × List Char))) :
    Nat → Bool → P → Reader P
  | 0, _, _, _ => stop .endOfObject
  | steps + 1, first, p, cs => do
    match ← nextKey first cs with
    | none => .ok (p, cs)
    | some (key, cs) =>
      match ← take key p cs with
      | some (p, cs) => readMembers closed names take steps false p cs
      | none =>
        if closed then .error (.unknownField key names)
        else do
          let cs ← readColon cs >>= skipValue
          readMembers closed names take steps false p cs

/-- A number, which begins with a minus sign or a digit. -/
def readNumberAs {α : Type} (expected : String) (convert : Int → Except Fault α) : Reader α :=
  fun cs ↦ do
    let (number, rest) ← match cs with
      | '-' :: rest => readUnsigned true rest
      | c :: rest => if Json.isDigit c then readUnsigned false (c :: rest) else unexpected expected cs
      | [] => stop .endOfValue
    match number with
    | .int n => do
      let v ← convert n
      .ok (v, rest)
    | .float _ => .error (.wrongType .float expected)

/-- A string, and what its text stands for. -/
def readStringAs {α : Type} (expected : String) (convert : String → Except Fault α) : Reader α :=
  fun cs ↦
    match cs with
    | [] => stop .endOfValue
    | '"' :: rest => do
      let (s, rest) ← readString rest
      let v ← convert s
      .ok (v, rest)
    | cs => unexpected expected cs

/-- A JSON value of any kind. Each container takes a step, and `room` bounds their number. -/
def readJson : Nat → Reader Json
  | room, cs =>
    match skipGap cs with
    | [] => stop .endOfValue
    | 'n' :: rest => (readWord ['u', 'l', 'l'] rest).map fun rest ↦ (.null, rest)
    | 't' :: rest => (readWord ['r', 'u', 'e'] rest).map fun rest ↦ (.bool true, rest)
    | 'f' :: rest => (readWord ['a', 'l', 's', 'e'] rest).map fun rest ↦ (.bool false, rest)
    | '-' :: rest => (readUnsigned true rest).map fun p ↦ (p.1.toJson, p.2)
    | '"' :: rest => (readString rest).map fun p ↦ (.str p.1, p.2)
    | '[' :: rest =>
      match room with
      | room + 2 => do
        let (vs, rest) ← readItems (readJson (room + 1)) (rest.length + 1) true rest
        let rest ← endList rest
        .ok (.arr vs, rest)
      | _ => stop .tooDeep
    | '\x7b' :: rest =>
      match room with
      | room + 2 => do
        let member (key : String) (ms : List (String × Json)) (cs : List Char) :
            Except Fault (Option (List (String × Json) × List Char)) := do
          let (v, cs) ← readColon cs >>= readJson (room + 1)
          .ok (some (ms ++ [(key, v)], cs))
        let (ms, rest) ← readMembers false [] member (rest.length + 1) true [] rest
        let rest ← endObject rest
        .ok (.obj ms, rest)
      | _ => stop .tooDeep
    | c :: rest =>
      if Json.isDigit c then (readUnsigned false (c :: rest)).map fun p ↦ (p.1.toJson, p.2)
      else stop .value

mutual

/-- Read a value off the front of a text. -/
def Schema.readFront : (s : Schema) → Nat → Reader s.Value
  | .flag _, _, cs =>
    match skipGap cs with
    | 't' :: rest => (readWord ['r', 'u', 'e'] rest).map fun rest ↦ (true, rest)
    | 'f' :: rest => (readWord ['a', 'l', 's', 'e'] rest).map fun rest ↦ (false, rest)
    | cs => unexpected "a boolean" cs
  | .word bits _, _, cs => readNumberAs (wordName bits) (Word.ofInt bits) (skipGap cs)
  | .int64, _, cs => readNumberAs "i64" Int64Value.ofInt (skipGap cs)
  | .text, _, cs => readStringAs "a string" .ok (skipGap cs)
  | .uuid, _, cs => readStringAs uuidName uuidOfText (skipGap cs)
  | .instant, _, cs => readStringAs instantName instantOfText (skipGap cs)
  | .document, room, cs => (readJson room cs).map fun p ↦ (Document.ofJson p.1, p.2)
  | .optional inner, room, cs =>
    match skipGap cs with
    | 'n' :: rest => (readWord ['u', 'l', 'l'] rest).map fun rest ↦ (none, rest)
    | cs => (inner.readFront room cs).map fun p ↦ (some p.1, p.2)
  | .list item, room, cs =>
    match skipGap cs with
    | '[' :: rest => enter room fun room ↦ do
      let (vs, rest) ← readItems (item.readFront room) (rest.length + 1) true rest
      let rest ← endList rest
      .ok (vs, rest)
    | cs => unexpected "a sequence" cs
  | .record expected closed fields, room, cs =>
    match skipGap cs with
    | '[' :: rest => enter room fun room ↦ do
      let (vs, rest) ← fields.readItems (lengthName expected fields.count) 0 room rest
      let rest ← endList rest
      .ok (vs, rest)
    | '\x7b' :: rest => enter room fun room ↦ do
      let (p, rest) ← readMembers closed fields.names (fields.readMember room) (rest.length + 1) true
        fields.unset rest
      let vs ← fields.settle p
      let rest ← endObject rest
      .ok (vs, rest)
    | cs => unexpected expected cs
  | .choice name content others, room, cs =>
    let pick (bare : Bool) (room : Nat) (key : String) (rest : List Char) :
        Except Fault ((content.Value ⊕ others.Value) × List Char) :=
      if key = name then (content.readFront bare room rest).map fun p ↦ (.inl p.1, p.2)
      else (others.readFront (name :: others.names) key bare room rest).map fun p ↦ (.inr p.1, p.2)
    match skipGap cs with
    | [] => stop .endOfValue
    | '"' :: rest => do
      let (key, rest) ← readString rest
      pick true room key rest
    | '\x7b' :: rest => enter room fun room ↦ do
      let (key, rest) ← readStringAs "variant identifier" .ok (skipGap rest)
      let (v, rest) ← pick false room key rest
      match skipGap rest with
      | [] => stop .endOfObject
      | '\x7d' :: rest => .ok (v, rest)
      | _ => stop .value
    | _ => stop .value

/-- Read the member of one key into the fields; none when no field has that name. -/
def Fields.readMember : (fs : Fields) → Nat → String → fs.Partial → List Char →
    Except Fault (Option (fs.Partial × List Char))
  | .nil, _, _, _, _ => .ok none
  | .cons name _ schema rest, room, key, (given, others), cs =>
    if key = name then
      match given with
      | some _ => .error (.duplicateField name)
      | none => do
        let (v, cs) ← readColon cs >>= schema.readFront room
        .ok (some ((some v, others), cs))
    else (rest.readMember room key others cs).map fun r ↦ r.map fun p ↦ ((given, p.1), p.2)

/-- Read the fields from the items of a list, of which `index` have been read. -/
def Fields.readItems : (fs : Fields) → String → Nat → Nat → Reader fs.Values
  | .nil, _, _, _, cs => .ok ((), cs)
  | .cons _ presence schema rest, expected, index, room, cs => do
    match ← nextItem (index == 0) cs with
    | none =>
      if presence = .required then .error (.wrongLength index expected)
      else do
        let (vs, cs) ← rest.readItems expected (index + 1) room cs
        .ok ((schema.initial, vs), cs)
    | some cs => do
      let (v, cs) ← schema.readFront room cs
      let (vs, cs) ← rest.readItems expected (index + 1) room cs
      .ok ((v, vs), cs)

/-- Read what a case holds, behind its name; a bare name holds nothing. -/
def Content.readFront : (c : Content) → Bool → Nat → Reader c.Value
  | .nothing, bare, _, cs =>
    if bare then .ok ((), cs)
    else do
      let cs ← readColon cs
      match skipGap cs with
      | 'n' :: rest => (readWord ['u', 'l', 'l'] rest).map fun rest ↦ ((), rest)
      | cs => unexpected "unit" cs
  | .one schema, bare, room, cs =>
    if bare then .error (.wrongType .bareCase "newtype variant")
    else readColon cs >>= schema.readFront room
  | .fields expected fields, bare, room, cs =>
    if bare then .error (.wrongType .bareCase "struct variant")
    else do
      let cs ← readColon cs
      match skipGap cs with
      | '[' :: rest => enter room fun room ↦ do
        let (vs, rest) ← fields.readItems (lengthName expected fields.count) 0 room rest
        let rest ← endList rest
        .ok (vs, rest)
      | '\x7b' :: rest => enter room fun room ↦ do
        let (p, rest) ← readMembers false fields.names (fields.readMember room) (rest.length + 1) true
          fields.unset rest
        let vs ← fields.settle p
        let rest ← endObject rest
        .ok (vs, rest)
      | cs => unexpected expected cs

/-- Read the case with this name. -/
def Cases.readFront : (cs : Cases) → List String → String → Bool → Nat → Reader cs.Value
  | .nil, known, key, _, _, _ => .error (.unknownCase key known)
  | .cons name content rest, known, key, bare, room, cs =>
    if key = name then (content.readFront bare room cs).map fun p ↦ (.inl p.1, p.2)
    else (rest.readFront known key bare room cs).map fun p ↦ (.inr p.1, p.2)

end

/-- Read a value from all of a text. -/
def Schema.read (s : Schema) (text : String) : Except Fault s.Value := do
  let (v, rest) ← s.readFront depthLimit text.toList
  Json.readEnd rest
  .ok v

/-- Read a document from all of a text. -/
def Document.read (text : String) : Except Fault Document := Schema.document.read text

end VersionedStore
