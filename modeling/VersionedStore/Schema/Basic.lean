import VersionedStore.Instant.Basic
import VersionedStore.Json.Basic
import VersionedStore.Uuid

/-!
# Schemas

A schema says which JSON a value is written as: a plain kind, an option, a list, a record of named
fields, or a choice among named cases. `Schema.Value` is the type of the values that a schema
describes, so a value fits its schema by its type. Every schema has a value to take when nothing is
given, and every value can be written: doubles stand inside documents only, words have no more bits
than JSON keeps, and there is no schema of maps or of choices that do not name their case.
-/

namespace VersionedStore

/-- A natural number of at most so many bits. -/
abbrev Word (bits : Nat) := Fin (Nat.pow 2 bits)

/-- The zero of words. -/
def Word.zero (bits : Nat) : Word bits := ⟨0, Nat.two_pow_pos bits⟩

/-- An integer of 64 bits. -/
structure Int64Value where
  value : Int
  bounds : -0x8000000000000000 ≤ value ∧ value < 0x8000000000000000
  deriving DecidableEq

/-- The zero of integers of 64 bits. -/
def Int64Value.zero : Int64Value := ⟨0, by decide⟩

/-- The natural number of an integer of 64 bits has 63. -/
theorem Int64Value.toNat_lt (n : Int64Value) : n.value.toNat < Nat.pow 2 63 := by
  have := n.bounds
  have : n.value.toNat < 0x8000000000000000 := by omega
  exact this

/-- What a record does about a field that is not given or not worth writing. -/
inductive Presence where
  /-- The field must be given, except that an option may be left out of an object. -/
  | required
  /-- A field that is left out takes the schema's own value for that. -/
  | filled
  /-- As `filled`, and a field that would be written as null is not written. -/
  | sparse
  deriving DecidableEq, Repr

mutual

/-- How values are written as JSON. A flag carries the value it takes when it is not given; JSON has
no words of more than 64 bits. -/
inductive Schema where
  | flag (initial : Bool)
  | word (bits : Nat) (small : bits ≤ 64 := by decide)
  | int64
  | text
  | uuid
  | instant
  | document
  | optional (inner : Schema)
  | list (item : Schema)
  | record (expected : String) (closed : Bool) (fields : Fields)
  | choice (name : String) (content : Content) (others : Cases)
  deriving DecidableEq

/-- The fields of a record in their order. -/
inductive Fields where
  | nil
  | cons (name : String) (presence : Presence) (schema : Schema) (rest : Fields)
  deriving DecidableEq

/-- What a case of a choice holds: nothing, one value, or fields of its own. -/
inductive Content where
  | nothing
  | one (schema : Schema)
  | fields (expected : String) (fields : Fields)
  deriving DecidableEq

/-- The cases of a choice after the first. -/
inductive Cases where
  | nil
  | cons (name : String) (content : Content) (rest : Cases)
  deriving DecidableEq

end

/-- The schema of the longest words. -/
abbrev Schema.longWord : Schema := .word 64

mutual

/-- The values that a schema describes. -/
def Schema.Value : Schema → Type
  | .flag _ => Bool
  | .word bits _ => Word bits
  | .int64 => Int64Value
  | .text => String
  | .uuid => Uuid
  | .instant => Instant
  | .document => Document
  | .optional inner => Option inner.Value
  | .list item => List item.Value
  | .record _ _ fields => fields.Values
  | .choice _ content others => content.Value ⊕ others.Value

/-- One value for each field. -/
def Fields.Values : Fields → Type
  | .nil => Unit
  | .cons _ _ schema rest => schema.Value × rest.Values

/-- What a case holds. -/
def Content.Value : Content → Type
  | .nothing => Unit
  | .one schema => schema.Value
  | .fields _ fields => fields.Values

/-- What one of the cases holds. -/
def Cases.Value : Cases → Type
  | .nil => Empty
  | .cons _ content rest => content.Value ⊕ rest.Value

end

mutual

/-- The value to take when none is given; a choice takes its first case. -/
def Schema.initial : (s : Schema) → s.Value
  | .flag initial => initial
  | .word bits _ => Word.zero bits
  | .int64 => Int64Value.zero
  | .text => ""
  | .uuid => (⟨List.replicate 32 0, by decide⟩ : Uuid)
  | .instant => Instant.epoch
  | .document => Document.null
  | .optional _ => none
  | .list _ => []
  | .record _ _ fields => fields.initial
  | .choice _ content _ => .inl content.initial

/-- The value of each field when none is given. -/
def Fields.initial : (fs : Fields) → fs.Values
  | .nil => ()
  | .cons _ _ schema rest => (schema.initial, rest.initial)

/-- What a case holds when nothing is given. -/
def Content.initial : (c : Content) → c.Value
  | .nothing => ()
  | .one schema => schema.initial
  | .fields _ fields => fields.initial

end

mutual

/-- Values of one schema can be compared. -/
def Schema.decEqValue : (s : Schema) → DecidableEq s.Value
  | .flag _ => inferInstanceAs (DecidableEq Bool)
  | .word bits _ => inferInstanceAs (DecidableEq (Word bits))
  | .int64 => inferInstanceAs (DecidableEq Int64Value)
  | .text => inferInstanceAs (DecidableEq String)
  | .uuid => inferInstanceAs (DecidableEq Uuid)
  | .instant => inferInstanceAs (DecidableEq Instant)
  | .document => inferInstanceAs (DecidableEq Document)
  | .optional inner =>
    have := inner.decEqValue
    inferInstanceAs (DecidableEq (Option inner.Value))
  | .list item =>
    have := item.decEqValue
    inferInstanceAs (DecidableEq (List item.Value))
  | .record _ _ fields => fields.decEqValues
  | .choice _ content others =>
    have := content.decEqValue
    have := others.decEqValue
    inferInstanceAs (DecidableEq (content.Value ⊕ others.Value))

/-- Values of the same fields can be compared. -/
def Fields.decEqValues : (fs : Fields) → DecidableEq fs.Values
  | .nil => inferInstanceAs (DecidableEq Unit)
  | .cons _ _ schema rest =>
    have := schema.decEqValue
    have := rest.decEqValues
    inferInstanceAs (DecidableEq (schema.Value × rest.Values))

/-- Contents of one case can be compared. -/
def Content.decEqValue : (c : Content) → DecidableEq c.Value
  | .nothing => inferInstanceAs (DecidableEq Unit)
  | .one schema => schema.decEqValue
  | .fields _ fields => fields.decEqValues

/-- Cases of one choice can be compared. -/
def Cases.decEqValue : (cs : Cases) → DecidableEq cs.Value
  | .nil => inferInstanceAs (DecidableEq Empty)
  | .cons _ content rest =>
    have := content.decEqValue
    have := rest.decEqValue
    inferInstanceAs (DecidableEq (content.Value ⊕ rest.Value))

end

instance (s : Schema) : DecidableEq s.Value := s.decEqValue

instance (fs : Fields) : DecidableEq fs.Values := fs.decEqValues

namespace Fields

/-- The names of the fields in their order. -/
def names : Fields → List String
  | .nil => []
  | .cons name _ _ rest => name :: rest.names

/-- The number of fields. -/
def count (fs : Fields) : Nat := fs.names.length

/-- Values for some of the fields. -/
def Partial : Fields → Type
  | .nil => Unit
  | .cons _ _ schema rest => Option schema.Value × rest.Partial

/-- No field has a value yet. -/
def unset : (fs : Fields) → fs.Partial
  | .nil => ()
  | .cons _ _ _ rest => (none, rest.unset)

end Fields

/-- The names of the cases. -/
def Cases.names : Cases → List String
  | .nil => []
  | .cons name _ rest => name :: rest.names

end VersionedStore
