import VersionedStore.Schema.Read

/-!
# Types with a schema

A type has a schema when its values correspond one to one to those that the schema describes. Such a
type is written as JSON, and read from a JSON value or from text, by its schema.
-/

namespace VersionedStore

open Json (Fault)

/-- A type whose values are those of a schema. -/
class Coded (α : Type) where
  schema : Schema
  toValue : α → schema.Value
  ofValue : schema.Value → α
  ofValue_toValue : ∀ a, ofValue (toValue a) = a
  toValue_ofValue : ∀ v, toValue (ofValue v) = v

variable {α : Type} [Coded α]

/-- The JSON of a value. -/
def toJson (a : α) : Json := (Coded.schema α).encode (Coded.toValue a)

/-- The JSON text of a value. -/
def jsonText (a : α) : String := (toJson a).text

/-- The document of a value: its JSON with all keys in order. -/
def toDocument (a : α) : Document := Document.ofJson (toJson a)

/-- The value that a JSON value stands for. -/
def ofJson (α : Type) [Coded α] (v : Json) : Except Fault α :=
  ((Coded.schema α).decode v).map Coded.ofValue

/-- The value that a JSON text stands for. -/
def ofJsonText (α : Type) [Coded α] (s : String) : Except Fault α :=
  ((Coded.schema α).read s).map Coded.ofValue

/-- Values that a schema gives the same name are equal. -/
theorem Coded.toValue_injective {a b : α} (h : toValue a = toValue b) : a = b := by
  rw [← ofValue_toValue a, h, ofValue_toValue]

/-- Coded types can be compared. -/
def Coded.decEq : DecidableEq α := fun a b ↦
  decidable_of_iff (toValue a = toValue b) ⟨toValue_injective, fun h ↦ by rw [h]⟩

/-- The values of a schema are coded by themselves. -/
@[reducible]
def Schema.coded (s : Schema) : Coded s.Value where
  schema := s
  toValue v := v
  ofValue v := v
  ofValue_toValue _ := rfl
  toValue_ofValue _ := rfl

/-- Integers of 64 bits. -/
instance : Coded Int64Value where
  schema := .int64
  toValue n := n
  ofValue n := n
  ofValue_toValue _ := rfl
  toValue_ofValue _ := rfl

/-- Texts. -/
instance : Coded String where
  schema := .text
  toValue s := s
  ofValue s := s
  ofValue_toValue _ := rfl
  toValue_ofValue _ := rfl

/-- Documents stand for themselves. -/
instance : Coded Document where
  schema := .document
  toValue d := d
  ofValue d := d
  ofValue_toValue _ := rfl
  toValue_ofValue _ := rfl

/-- Instants. -/
instance : Coded Instant where
  schema := .instant
  toValue t := t
  ofValue t := t
  ofValue_toValue _ := rfl
  toValue_ofValue _ := rfl

private theorem map_back {β γ : Type} {f : γ → β} {g : β → γ} (h : ∀ v, f (g v) = v) (vs : List β) :
    (vs.map g).map f = vs := by
  simp [Function.comp_def, h]

private theorem optionMap_back {β γ : Type} {f : γ → β} {g : β → γ} (h : ∀ v, f (g v) = v)
    (v : Option β) : (v.map g).map f = v := by
  simp [Function.comp_def, h]

/-- A list of coded values is written as an array. -/
instance : Coded (List α) where
  schema := .list (Coded.schema α)
  toValue as := as.map Coded.toValue
  ofValue vs := List.map Coded.ofValue vs
  ofValue_toValue as := map_back Coded.ofValue_toValue as
  toValue_ofValue vs := map_back Coded.toValue_ofValue vs

/-- An option is written as null or as its value. -/
instance : Coded (Option α) where
  schema := .optional (Coded.schema α)
  toValue o := o.map Coded.toValue
  ofValue v := Option.map Coded.ofValue v
  ofValue_toValue o := optionMap_back Coded.ofValue_toValue o
  toValue_ofValue v := optionMap_back Coded.toValue_ofValue v

end VersionedStore
