import VersionedStore.Store.Relational

/-!
# A table with other writers

Between the statements of one store another writer may change the rows that the next statement is
about, or that statement may fail. A disturbed table holds such disturbances until the statement
that they wait for, and remembers which statements were run.
-/

namespace VersionedStore

open Crud

/-- What happens just before a statement. -/
inductive Disturbance where
  /-- The statement fails. -/
  | fail (reason : String)
  /-- The rows that it is about get the next version. -/
  | bump
  /-- The rows that it is about are taken out. -/
  | delete
  deriving DecidableEq, Repr

/-- A table, what is going to disturb it, and the statements that were run on it. -/
structure DisturbedTable where
  table : Table
  pending : List (StatementKind × Disturbance)
  statements : List StatementKind

namespace DisturbedTable

/-- A table that nothing has happened to yet. -/
def ofTable (t : Table) : DisturbedTable := ⟨t, [], []⟩

/-- The first disturbance that waits for a kind of statement, and the others. -/
def takeDisturbance (kind : StatementKind) :
    List (StatementKind × Disturbance) → Option Disturbance × List (StatementKind × Disturbance)
  | [] => (none, [])
  | (k, d) :: rest =>
    if k = kind then (some d, rest)
    else
      let (found, others) := takeDisturbance kind rest
      (found, (k, d) :: others)

/-- Run a statement on a disturbed table. -/
def run {α : Type} (statement : Statement α) (s : DisturbedTable) :
    Except Failure α × DisturbedTable :=
  let (disturbance, pending) := takeDisturbance statement.kind s.pending
  let statements := s.statements ++ [statement.kind]
  let answer (t : Table) : Except Failure α × DisturbedTable :=
    let (a, t) := t.run statement
    (.ok a, ⟨t, pending, statements⟩)
  match disturbance with
  | none => answer s.table
  | some (.fail reason) => (.error (.database (.stated reason)), ⟨s.table, pending, statements⟩)
  | some .bump =>
    answer (s.table.change statement.addresses fun r ↦ { r with version := r.version.after })
  | some .delete => answer (s.table.drop statement.addresses)

/-- A disturbed table runs statements. -/
def engine : Engine DisturbedTable := fun statement ↦
  ExceptT.mk (Action.of fun s ↦ ⟨(run statement s).1, (run statement s).2, []⟩)

/-- Without disturbances a statement does what it does to the table. -/
theorem run_of_calm {α : Type} (statement : Statement α) (t : Table) (log : List StatementKind) :
    run statement ⟨t, [], log⟩ =
      (.ok (t.run statement).1, ⟨(t.run statement).2, [], log ++ [statement.kind]⟩) := rfl

end DisturbedTable

end VersionedStore
