import VersionedStore.Declaration.Fields
import VersionedStore.Declaration.SnakeCase
import VersionedStore.Declaration.Source
import VersionedStore.Text.Part

/-!
# Expansion

What the declaration of a model or of an identifier stands for: the struct with what it lacked, and
the outline of the implementations that go with it.
-/

namespace VersionedStore.Declaration

open Text

/-- The outline of an implementation; one without a trait has methods alone. -/
structure Implementation where
  parameters : List Tree
  trait : List Tree
  target : List Tree
  conditions : List Tree
  deriving DecidableEq

/-- What a declaration stands for. A model has a tag; `associated` is the type that the main trait
asks for. -/
structure Expansion where
  struct : Struct
  implementations : List Implementation
  tag : Option String
  associated : List Tree
  deriving DecidableEq

namespace Path

/-- Values can be copied. -/
def clone : Path := ⟨[.word "Clone"], rfl⟩

/-- Values can be shown. -/
def debug : Path := ⟨[.word "Debug"], rfl⟩

/-- There is a value to start with. -/
def default : Path := ⟨[.word "Default"], rfl⟩

/-- Equality can be decided. -/
def partialEq : Path := ⟨[.word "PartialEq"], rfl⟩

/-- Equality is reflexive. -/
def eq : Path := ⟨[.word "Eq"], rfl⟩

/-- Values can be hashed. -/
def hash : Path := ⟨[.word "Hash"], rfl⟩

/-- Values can be written. -/
def serialize : Path :=
  ⟨[.word "serde", .mark ':' true, .mark ':' false, .word "Serialize"], rfl⟩

/-- Values can be read. -/
def deserialize : Path :=
  ⟨[.word "serde", .mark ':' true, .mark ':' false, .word "Deserialize"], rfl⟩

end Path

/-- The traits that a model derives. -/
def modelTraits (shown : Bool) : List Path :=
  (if shown then [.debug] else []) ++ [.default, .serialize, .deserialize]

/-- The traits that an identifier derives. -/
def oidTraits (shown : Bool) : List Path :=
  .clone :: (if shown then [.debug] else []) ++
    [.serialize, .deserialize, .partialEq, .eq, .hash]

/-- An optional value of a type. -/
def optionOf (type : List Tree) : List Tree := rooted ["std", "option", "Option"] ++ angled type

/-- The fields that every model has. -/
def modelFields (oid : List Tree) : List RequiredField :=
  [⟨"oid", optionOf oid⟩, ⟨"numeric_id", optionOf [.word "u64"]⟩,
    ⟨"entity_version", rooted ["r01f_domain", "value_object", "EntityVersion"]⟩,
    ⟨"tracking", rooted ["r01f_domain", "value_object", "TrackingInfo"]⟩]

/-- Do the attributes speak of defaults for fields that are left out? -/
def mentionsDefault (as : List Attribute) : Bool :=
  as.any fun a ↦ a.name? == some "serde" &&
    Tree.anyTokenOf (containsPart "default".toList) a.content

/-- The attribute by which fields may be left out. -/
def defaultAttribute : Attribute := ⟨[.word "serde", .group .parenthesis [.word "default"]]⟩

/-- Attributes with the one by which fields may be left out, unless they speak of it. -/
def withDefault (as : List Attribute) : List Attribute :=
  if mentionsDefault as then as else as ++ [defaultAttribute]

/-- What a model stands for. -/
def modelExpansion (as : ModelArguments) (item : Item) : Except Refusal Expansion :=
  match item, as.oid with
  | .other, _ => .error .modelNotStruct
  | .struct _, none => .error .modelWithoutOid
  | .struct s, some oid =>
    match s.shape with
    | .named fields =>
      let derives := modelTraits (as.debug.getD true)
      let struct := { s with
        attributes := withDefault (withDerives derives s.attributes)
        shape := .named (leadingFields (modelFields oid) s.visibility fields) }
      .ok {
        struct
        implementations := [⟨s.generics.spelled Parameter.requirement,
          rooted ["r01f_domain", "model_object", "ModelObject"], s.type, s.constraints⟩]
        tag := some (as.tag.getD (snakeCase s.name))
        associated := oid }
    | _ => .error .modelNotNamed

/-- A struct is expanded as a model if its fields have names and there is an identifier. -/
theorem modelExpansion_eq_ok_iff {as : ModelArguments} {s : Struct} {e : Expansion} :
    modelExpansion as (.struct s) = .ok e ↔
      ∃ oid fields, as.oid = some oid ∧ s.shape = .named fields ∧
        e = {
          struct := { s with
            attributes := withDefault (withDerives (modelTraits (as.debug.getD true)) s.attributes)
            shape := .named (leadingFields (modelFields oid) s.visibility fields) }
          implementations := [⟨s.generics.spelled Parameter.requirement,
            rooted ["r01f_domain", "model_object", "ModelObject"], s.type, s.constraints⟩]
          tag := some (as.tag.getD (snakeCase s.name))
          associated := oid } := by
  cases oid : as.oid with
  | none => simp [modelExpansion, oid]
  | some type => cases shape : s.shape <;> simp [modelExpansion, oid, shape, eq_comm]

/-- Expand the declaration of a model, given the arguments of its attribute. -/
def expandModel (arguments item : String) : Except Refusal Expansion := do
  let arguments ← source arguments
  let item ← source item
  let as ← ModelArguments.read arguments
  let item ← orMalformed (Item.read? item)
  modelExpansion as item

/-- The outlines of the implementations for an identifier over a type. -/
def oidImplementations (name : String) (inner : List Tree) : List Implementation :=
  let self : List Tree := [.word name]
  let conversion (trait : String) (type : List Tree) : List Tree :=
    rooted ["core", "convert", trait] ++ angled type
  let outline (trait target : List Tree) : Implementation := ⟨[], trait, target, []⟩
  [outline [] self, outline (rooted ["r01f_domain", "oid", "Oid"]) self,
    outline (rooted ["std", "str", "FromStr"]) self, outline (rooted ["std", "fmt", "Display"]) self,
    outline (conversion "AsRef" inner) self, outline (conversion "From" self) inner,
    outline (conversion "From" inner) self]

/-- What an identifier stands for. -/
def oidExpansion (debug : Option Bool) (item : Item) : Except Refusal Expansion :=
  match item with
  | .other => .error .oidNotStruct
  | .struct s =>
    match s.shape with
    | .tuple [field] =>
      let error := angled (field.type ++ .word "as" :: rooted ["std", "str", "FromStr"]) ++
        rooted ["Err"]
      .ok {
        struct := { s with attributes := withDerives (oidTraits (debug.getD true)) s.attributes }
        implementations := oidImplementations s.name field.type
        tag := none
        associated := error }
    | .tuple _ => .error .oidFieldCount
    | _ => .error .oidNotTuple

/-- Expand the declaration of an identifier, given the arguments of its attribute. -/
def expandOid (arguments item : String) : Except Refusal Expansion := do
  let arguments ← source arguments
  let item ← source item
  let debug ← readOidDebug arguments
  let item ← orMalformed (Item.read? item)
  oidExpansion debug item

/-- Attributes that speak of defaults are left as they are. -/
theorem withDefault_of_mentionsDefault {as : List Attribute} (h : mentionsDefault as = true) :
    withDefault as = as := by simp [withDefault, h]

end VersionedStore.Declaration
