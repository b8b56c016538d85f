import VersionedStore.Model.Oid
import VersionedStore.Schema.Faithful
import VersionedStore.Tracking

/-!
# Models

A model is a kind of stored object: its tag, what its OIDs are, and its own fields, each with a
schema. Besides its own fields every object has an OID, a numeric id, a version and tracking, which
may go under other names in a model's JSON. Whatever is left out of an object takes an initial
value. The fields have names of their own and faithful schemas, so the JSON of an object tells what
it is.
-/

namespace VersionedStore

/-- The names under which an object's OID and metadata are written. -/
structure MetadataNames where
  oid : String
  numericId : String
  version : String
  tracking : String
  deriving DecidableEq, Repr

namespace MetadataNames

/-- The usual names. -/
def standard : MetadataNames := ⟨"oid", "numeric_id", "entity_version", "tracking"⟩

/-- The usual names in camel case. -/
def camelCase : MetadataNames := ⟨"oid", "numericId", "entityVersion", "tracking"⟩

/-- The usual names in Pascal case. -/
def pascalCase : MetadataNames := ⟨"Oid", "NumericId", "EntityVersion", "Tracking"⟩

/-- The names in the order in which the fields are written. -/
def toList (n : MetadataNames) : List String := [n.oid, n.numericId, n.version, n.tracking]

end MetadataNames

/-- The fields with these names and schemas, any of which may be left out. -/
def Fields.ofList : List (String × Schema) → Fields
  | [] => .nil
  | (name, schema) :: rest => .cons name .filled schema (ofList rest)

/-- A kind of stored object. Its name tells it from other kinds; the record's name, which readers
show, may be another. -/
structure Model where
  tag : String
  name : String
  recordName : String := name
  oidKind : OidKind
  names : MetadataNames := .standard
  closed : Bool := false
  own : List (String × Schema)
  distinct : (names.toList ++ own.map Prod.fst).Nodup := by decide
  faithful : ∀ f ∈ own, f.2.faithful = true := by decide
  deriving DecidableEq

namespace Model

/-- The OIDs of a model. -/
abbrev Oid (M : Model) : Type := M.oidKind.Oid

/-- The own fields of a model. -/
def ownFields (M : Model) : Fields := .ofList M.own

/-- All fields of a model, the own ones last. -/
def fields (M : Model) : Fields :=
  .cons M.names.oid .filled (.optional M.oidKind.schema) <|
  .cons M.names.numericId .filled (.optional .longWord) <|
  .cons M.names.version .filled .longWord <|
  .cons M.names.tracking .filled (Coded.schema Tracking) M.ownFields

/-- How the objects of a model are written as JSON. -/
def schema (M : Model) : Schema := .record ("struct " ++ M.recordName) M.closed M.fields

end Model

/-- The names of listed fields are the listed names. -/
theorem Fields.names_ofList (own : List (String × Schema)) :
    (Fields.ofList own).names = own.map Prod.fst := by
  induction own with
  | nil => rfl
  | cons f own ih => simp [ofList, names, ih]

/-- No two fields of a model have the same name. -/
theorem Model.names_fields_nodup (M : Model) : M.fields.names.Nodup := by
  have := M.distinct
  simpa [Model.fields, Fields.names, Model.ownFields, Fields.names_ofList, MetadataNames.toList]
    using this

/-- Listed fields are faithful when each is and their names are distinct. -/
theorem Fields.faithful_ofList {own : List (String × Schema)} (distinct : (own.map Prod.fst).Nodup)
    (faithful : ∀ f ∈ own, f.2.faithful = true) : (Fields.ofList own).faithful = true := by
  induction own with
  | nil => rfl
  | cons f own ih =>
    rw [List.map_cons, List.nodup_cons] at distinct
    rw [List.forall_mem_cons] at faithful
    rw [ofList, faithful_cons, names_ofList]
    exact ⟨distinct.1, faithful.1, ih distinct.2 faithful.2⟩

/-- OIDs are faithful and never null. -/
theorem OidKind.faithful_schema (k : OidKind) :
    k.schema.nullable = false ∧ k.schema.faithful = true := by
  cases k <;> decide

/-- The own fields of a model are written in ways of their own. -/
theorem Model.faithful_ownFields (M : Model) : M.ownFields.faithful = true :=
  Fields.faithful_ofList (List.nodup_append.mp M.distinct).2.1 M.faithful

/-- Objects of a model are written in ways of their own. -/
theorem Model.faithful_schema (M : Model) : M.schema.faithful = true := by
  have distinct := M.names_fields_nodup
  simp only [fields, Fields.names, List.nodup_cons] at distinct
  obtain ⟨oid, numericId, version, tracking, -⟩ := distinct
  rw [schema, Schema.faithful, fields]
  simp only [Fields.faithful_cons, Fields.names]
  exact ⟨oid, Schema.faithful_optional.mpr M.oidKind.faithful_schema, numericId, by decide, version,
    by decide, tracking, by decide, M.faithful_ownFields⟩

end VersionedStore
