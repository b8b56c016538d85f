import VersionedStore.Schema.Coded

/-!
# The table of objects

One table holds the objects of any number of models, a row for each tag and OID. `Statement` lists
the statements that are run on it, each with the type of its result, and `Table.run` says what each
does. Only an insert moves the sequence of numeric ids, and it does so even if it meets a row that
is there.
-/

namespace VersionedStore

/-- A row of the table. -/
structure Row where
  tag : String
  oid : String
  numericId : Int64Value
  version : Int64Value
  payload : Document
  deriving DecidableEq

/-- The integer after this one; the last one stays. -/
def Int64Value.after (n : Int64Value) : Int64Value :=
  if h : n.value + 1 < 0x8000000000000000 then ⟨n.value + 1, by have := n.bounds; omega⟩ else n

/-- The rows of the table, and the last numeric id that was given out. -/
structure Table where
  rows : List Row
  sequence : Int64Value
  deriving DecidableEq

/-- A statement on the table, with the type of its result. -/
inductive Statement : Type → Type where
  /-- Make sure that there is a table. -/
  | createTable : Statement Unit
  /-- The row of a key. -/
  | selectOne (tag oid : String) : Statement (Option Row)
  /-- The rows of a tag by their numeric ids. -/
  | selectAll (tag : String) : Statement (List Row)
  /-- The version in the row of a key. -/
  | selectVersion (tag oid : String) : Statement (Option Int64Value)
  /-- Add a row with a new numeric id, unless there is one with its key. -/
  | insert (tag oid : String) (version : Int64Value) (payload : Document) :
    Statement (Option Int64Value)
  /-- Change the row of a key if it has the expected version; the result tells whether it had. -/
  | update (tag oid : String) (expected version : Int64Value) (payload : Document) : Statement Bool
  /-- Take out the row of a key. -/
  | delete (tag oid : String) : Statement (Option Row)

namespace Row

/-- Does the row have this key? -/
def hasKey (tag oid : String) (r : Row) : Bool := r.tag == tag && r.oid == oid

/-- Does the first row's numeric id not come after the second's? -/
def numericOrder (r s : Row) : Bool := r.numericId.value ≤ s.numericId.value

end Row

namespace Table

/-- A table without rows. -/
def empty : Table := ⟨[], .zero⟩

instance : Inhabited Table := ⟨empty⟩

/-- The row of a key. -/
def row? (tag oid : String) (t : Table) : Option Row := t.rows.find? (Row.hasKey tag oid)

/-- The table with some of its rows changed. -/
def change (which : Row → Bool) (f : Row → Row) (t : Table) : Table :=
  { t with rows := t.rows.map fun r ↦ if which r then f r else r }

/-- The table without some of its rows. -/
def drop (which : Row → Bool) (t : Table) : Table := { t with rows := t.rows.filter fun r ↦ !which r }

/-- The table after a row has been added. -/
def add (tag oid : String) (version : Int64Value) (payload : Document) (t : Table) : Table :=
  ⟨t.rows ++ [⟨tag, oid, t.sequence.after, version, payload⟩], t.sequence.after⟩

/-- What a statement gives, and the table after it. -/
def run {α : Type} : Statement α → Table → α × Table
  | .createTable, t => ((), t)
  | .selectOne tag oid, t => (t.row? tag oid, t)
  | .selectAll tag, t => ((t.rows.filter fun r ↦ r.tag == tag).mergeSort Row.numericOrder, t)
  | .selectVersion tag oid, t => ((t.row? tag oid).map Row.version, t)
  | .insert tag oid version payload, t =>
    match t.row? tag oid with
    | some _ => (none, { t with sequence := t.sequence.after })
    | none => (some t.sequence.after, t.add tag oid version payload)
  | .update tag oid expected version payload, t =>
    let hit (r : Row) : Bool := r.hasKey tag oid && r.version == expected
    (t.rows.any hit, t.change hit fun r ↦ { r with version, payload })
  | .delete tag oid, t => (t.row? tag oid, t.drop (Row.hasKey tag oid))

end Table

/-- The kinds of statements. -/
inductive StatementKind where
  | createTable
  | selectOne
  | selectAll
  | selectVersion
  | insert
  | update
  | delete
  deriving DecidableEq, Repr

/-- The name of a kind of statement. -/
def StatementKind.name : StatementKind → String
  | .createTable => "create_table"
  | .selectOne => "select_one"
  | .selectAll => "select_all"
  | .selectVersion => "select_version"
  | .insert => "insert"
  | .update => "update"
  | .delete => "delete"

namespace Statement

variable {α : Type}

/-- The kind of a statement. -/
def kind : Statement α → StatementKind
  | .createTable => .createTable
  | .selectOne .. => .selectOne
  | .selectAll _ => .selectAll
  | .selectVersion .. => .selectVersion
  | .insert .. => .insert
  | .update .. => .update
  | .delete .. => .delete

/-- Is a row one of those that the statement is about? -/
def addresses : Statement α → Row → Bool
  | .createTable, _ => false
  | .selectAll tag, r => r.tag == tag
  | .selectOne tag oid, r | .selectVersion tag oid, r | .insert tag oid _ _, r
  | .update tag oid _ _ _, r | .delete tag oid, r => r.hasKey tag oid

end Statement

/-- Looking for a row leaves the table alone. -/
theorem Table.run_selectOne (tag oid : String) (t : Table) :
    Table.run (.selectOne tag oid) t = (t.row? tag oid, t) := rfl

end VersionedStore
