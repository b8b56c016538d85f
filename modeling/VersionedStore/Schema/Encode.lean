import VersionedStore.Instant.Rfc3339
import VersionedStore.Json.Printer
import VersionedStore.Schema.Basic

/-!
# Values as JSON

A value is written as its schema says, the fields of a record in their order. A case that holds
nothing is written as its name, another one as an object with its name as the only key.
-/

namespace VersionedStore

/-- Is the value the null? -/
def Json.isNull : Json → Bool
  | .null => true
  | _ => false

mutual

/-- The JSON of a value. -/
def Schema.encode : (s : Schema) → s.Value → Json
  | .flag _, b => .bool b
  | .word _ _, n => .int n.val
  | .int64, n => .int n.value
  | .text, s => .str s
  | .uuid, u => .str u.text
  | .instant, t => .str t.text
  | .document, d => d.json
  | .optional _, none => .null
  | .optional inner, some v => inner.encode v
  | .list item, vs => .arr (List.map item.encode vs)
  | .record _ _ fields, vs => .obj (fields.encode vs)
  | .choice name content _, .inl v => content.encode name v
  | .choice _ _ others, .inr v => others.encode v

/-- The members of a record. -/
def Fields.encode : (fs : Fields) → fs.Values → List (String × Json)
  | .nil, _ => []
  | .cons name presence schema rest, (v, vs) =>
    let member := schema.encode v
    if presence = .sparse ∧ member.isNull then rest.encode vs
    else (name, member) :: rest.encode vs

/-- A case under its name. -/
def Content.encode : (c : Content) → String → c.Value → Json
  | .nothing, name, _ => .str name
  | .one schema, name, v => .obj [(name, schema.encode v)]
  | .fields _ fields, name, vs => .obj [(name, .obj (fields.encode vs))]

/-- One of the cases under its name. -/
def Cases.encode : (cs : Cases) → cs.Value → Json
  | .nil, v => nomatch v
  | .cons name content _, .inl v => content.encode name v
  | .cons _ _ rest, .inr v => rest.encode v

end

/-- The text of a value. -/
def Schema.render (s : Schema) (v : s.Value) : String := (s.encode v).text

/-- The document of a value: its JSON with all keys in order. -/
def Schema.toDocument (s : Schema) (v : s.Value) : Document := Document.ofJson (s.encode v)

end VersionedStore
