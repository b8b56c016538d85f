import VersionedStore.Model.Basic

/-!
# Objects

An object of a model carries its OID, its metadata and the values of its own fields. Its content is
its document without the metadata, so objects that differ in metadata only have the same content.
-/

namespace VersionedStore

/-- An object of a model. -/
structure Model.Object (M : Model) where
  oid : Option M.Oid
  numericId : Option (Word 64)
  version : Version
  tracking : Tracking
  own : M.ownFields.Values
  deriving DecidableEq

/-- The keys that content leaves out. -/
def metadataKeys : List String := ["numeric_id", "entity_version", "tracking"]

/-- A document without some of its members. -/
def Document.without (ks : List String) (d : Document) : Document where
  json := d.json.without ks
  sorted := by
    obtain ⟨v, h⟩ := d
    cases v with
    | obj ms =>
      refine ⟨Dictionary.ascending_without h.1, ?_⟩
      have rest := h.2
      clear h
      induction ms with
      | nil => trivial
      | cons m ms ih =>
        simp only [Dictionary.without, List.filter_cons] at ih ⊢
        split
        · exact ⟨rest.1, ih rest.2⟩
        · exact ih rest.2
    | _ => exact h

namespace Model.Object

variable {M : Model}

/-- An object without OID that has never been stored, with initial values. -/
def initial (M : Model) : M.Object := ⟨none, none, .unsaved, .empty, M.ownFields.initial⟩

instance : Inhabited M.Object := ⟨initial M⟩

/-- Objects are written as their model says. -/
instance : Coded M.Object where
  schema := M.schema
  toValue m := (m.oid, m.numericId, Coded.toValue m.version, Coded.toValue m.tracking, m.own)
  ofValue v :=
    let (oid, numericId, version, tracking, own) := v
    ⟨oid, numericId, Coded.ofValue version, Coded.ofValue tracking, own⟩
  ofValue_toValue _ := rfl
  toValue_ofValue _ := rfl

/-- The text of the OID; empty where there is none. -/
def oidText (m : M.Object) : String := (m.oid.map M.oidKind.textOf).getD ""

/-- The object's document without its metadata. -/
def content (m : M.Object) : Document := (toDocument m).without metadataKeys

/-- Do two objects have the same content? -/
def sameContent (m n : M.Object) : Bool := m.content.same n.content

/-- An object has the same content as itself. -/
theorem sameContent_self (m : M.Object) : m.sameContent m = true := Json.same_self _

end Model.Object

end VersionedStore
