import VersionedStore.Schema.Basic

/-!
# Faithful schemas

JSON has one null, so an option of a value that may be null itself has two values that look alike,
and a record with two fields of one name writes two members of which one is lost. A faithful schema
has neither: every value is written in a way of its own.
-/

namespace VersionedStore

/-- May a value of the schema be written as null? -/
def Schema.nullable : Schema → Bool
  | .optional _ | .document => true
  | _ => false

mutual

/-- Is every value written in a way of its own? -/
def Schema.faithful : Schema → Bool
  | .flag _ | .word _ _ | .int64 | .text | .uuid | .instant | .document => true
  | .optional inner => !inner.nullable && inner.faithful
  | .list item => item.faithful
  | .record _ _ fields => fields.faithful
  | .choice name content others =>
    !others.names.contains name && content.faithful && others.faithful

/-- Are the fields faithful and their names distinct? -/
def Fields.faithful : Fields → Bool
  | .nil => true
  | .cons name _ schema rest => !rest.names.contains name && schema.faithful && rest.faithful

/-- Is what a case holds faithful? -/
def Content.faithful : Content → Bool
  | .nothing => true
  | .one schema => schema.faithful
  | .fields _ fields => fields.faithful

/-- Are the cases faithful and their names distinct? -/
def Cases.faithful : Cases → Bool
  | .nil => true
  | .cons name content rest => !rest.names.contains name && content.faithful && rest.faithful

end

/-- An option is faithful when its values are, and are never null. -/
theorem Schema.faithful_optional {inner : Schema} :
    (Schema.optional inner).faithful = true ↔ inner.nullable = false ∧ inner.faithful = true := by
  simp [faithful]

/-- Fields are faithful when the first is, its name is its own, and the others are. -/
theorem Fields.faithful_cons {name : String} {presence : Presence} {schema : Schema}
    {rest : Fields} :
    (Fields.cons name presence schema rest).faithful = true ↔
      name ∉ rest.names ∧ schema.faithful = true ∧ rest.faithful = true := by
  simp [faithful, and_assoc]

/-- Cases are faithful when the first is, its name is its own, and the others are. -/
theorem Cases.faithful_cons {name : String} {content : Content} {rest : Cases} :
    (Cases.cons name content rest).faithful = true ↔
      name ∉ rest.names ∧ content.faithful = true ∧ rest.faithful = true := by
  simp [faithful, and_assoc]

/-- A choice is faithful when its cases are. -/
theorem Schema.faithful_choice {name : String} {content : Content} {others : Cases} :
    (Schema.choice name content others).faithful = true ↔
      (Cases.cons name content others).faithful = true := by
  simp [faithful, Cases.faithful]

end VersionedStore
