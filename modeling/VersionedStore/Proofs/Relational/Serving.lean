import VersionedStore.Proofs.Store.Run
import VersionedStore.Store.Relational

/-!
# Tables behind engines

All that a store over a table may rely on: each statement is run at once, does to the rows what it
does to those of a table, and gives them back as they were put in; numeric ids ascend, but some may
be skipped. `Serving` says so of an engine, and the table itself is such an engine.
-/

namespace VersionedStore

open Crud

/-- Does a statement draw a numeric id? -/
def Statement.draws {α : Type} : Statement α → Bool
  | .insert .. => true
  | _ => false

namespace Table

/-- The table with its sequence at another number. -/
def skipTo (start : Int64Value) (t : Table) : Table := { t with sequence := start }

/-- The rows of a tag. -/
def tagged (tag : String) (t : Table) : List Row := t.rows.filter fun r ↦ r.tag == tag

/-- The row with another version and payload. -/
def rewriteRow (version : Int64Value) (payload : Document) (r : Row) : Row :=
  { r with version, payload }

/-- The table with another version and payload in the row of a key, if it has the expected version.
-/
def rewrite (tag oid : String) (expected version : Int64Value) (payload : Document) (t : Table) :
    Table :=
  t.change (fun r ↦ r.hasKey tag oid && r.version == expected) (rewriteRow version payload)

/-- How many numeric ids are left in the sequence. -/
def left (t : Table) : Nat := (0x7fffffffffffffff - t.sequence.value).toNat

end Table

/-- A table behind an engine. Every statement is run on the table, some numeric ids being skipped
before; as long as there is `room`, there are numeric ids left. -/
structure Serving {σ : Type} (engine : Engine σ) where
  table : σ → Table
  room : σ → Nat
  serves : ∀ {α : Type} (statement : Statement α) (s : σ),
    ∃ (start : Int64Value) (t : σ) (events : List Event),
      (engine statement).run.run s =
        ⟨.ok (Table.run statement ((table s).skipTo start)).1, t, events⟩ ∧
      table t = (Table.run statement ((table s).skipTo start)).2 ∧
      (table s).sequence.value ≤ start.value ∧
      (0 < room s → start.value + 1 < 0x8000000000000000) ∧
      room s ≤ room t + statement.draws.toNat

/-- Numbers of a sequence do not descend. -/
theorem Int64Value.le_after (n : Int64Value) : n.value ≤ n.after.value := by
  unfold after
  split
  · exact Int.le_add_one (Int.le_refl _)
  · exact Int.le_refl _

/-- While integers of 64 bits last, the one after another is the next. -/
theorem Int64Value.value_after {n : Int64Value} (h : n.value + 1 < 0x8000000000000000) :
    n.after.value = n.value + 1 := by
  rw [after, dif_pos h]

/-- The table itself runs statements without skipping a numeric id. -/
def Table.serving : Serving Table.engine where
  table t := t
  room t := t.left
  serves statement t := by
    have value := t.sequence.bounds
    refine ⟨t.sequence, (Table.run statement t).2, [], rfl, rfl, Int.le_refl _, ?_, ?_⟩
    · rw [Table.left]
      omega
    · cases statement with
      | insert tag oid version payload =>
        have drawn : (Table.run (.insert tag oid version payload) t).2.sequence =
            t.sequence.after := by
          rw [Table.run]
          split <;> rfl
        rw [Table.left, Table.left, drawn]
        simp only [Statement.draws, Bool.toNat_true]
        by_cases last : t.sequence.value + 1 < 0x8000000000000000
        · rw [Int64Value.value_after last]
          omega
        · omega
      | _ => exact Nat.le_refl _

namespace Serving

variable {σ : Type} {engine : Engine σ} (serving : Serving engine)

/-- An engine leaves these rows, takes no numeric id back and uses up so many at most. -/
structure Leaves (s t : σ) (rows : List Row) (used : Nat) : Prop where
  rows : (serving.table t).rows = rows
  later : (serving.table s).sequence.value ≤ (serving.table t).sequence.value
  room : serving.room s ≤ serving.room t + used

variable {serving}

/-- What is left when nothing is done. -/
theorem Leaves.refl (s : σ) : serving.Leaves s s (serving.table s).rows 0 :=
  ⟨rfl, Int.le_refl _, Nat.le_refl _⟩

/-- What is left after one thing and then another. -/
theorem Leaves.trans {s t u : σ} {rows more : List Row} {used drawn : Nat}
    (h : serving.Leaves s t rows used) (next : serving.Leaves t u more drawn) :
    serving.Leaves s u more (used + drawn) where
  rows := next.rows
  later := Int.le_trans h.later next.later
  room := by
    have := h.room
    have := next.room
    omega

/-- What is left when the table is this one. -/
theorem Leaves.of_table {s t : σ} {after : Table} {rows : List Row} {used : Nat}
    (table : serving.table t = after) (same : after.rows = rows)
    (later : (serving.table s).sequence.value ≤ after.sequence.value)
    (room : serving.room s ≤ serving.room t + used) : serving.Leaves s t rows used := by
  subst table
  exact ⟨same, later, room⟩

variable (serving)

/-- Looking for a row leaves the rows alone. -/
theorem run_selectOne (tag oid : String) (s : σ) : ∃ t events,
    (engine (.selectOne tag oid)).run.run s =
      ⟨.ok ((serving.table s).row? tag oid), t, events⟩ ∧
    serving.Leaves s t (serving.table s).rows 0 := by
  obtain ⟨start, t, events, run, table, later, -, room⟩ := serving.serves (.selectOne tag oid) s
  exact ⟨t, events, run, .of_table table rfl later room⟩

/-- Listing rows leaves them alone. -/
theorem run_selectAll (tag : String) (s : σ) : ∃ t events,
    (engine (.selectAll tag)).run.run s =
      ⟨.ok (((serving.table s).tagged tag).mergeSort Row.numericOrder), t, events⟩ ∧
    serving.Leaves s t (serving.table s).rows 0 := by
  obtain ⟨start, t, events, run, table, later, -, room⟩ := serving.serves (.selectAll tag) s
  exact ⟨t, events, run, .of_table table rfl later room⟩

/-- Deleting a row gives it and drops it. -/
theorem run_delete (tag oid : String) (s : σ) : ∃ t events,
    (engine (.delete tag oid)).run.run s = ⟨.ok ((serving.table s).row? tag oid), t, events⟩ ∧
    serving.Leaves s t ((serving.table s).drop (Row.hasKey tag oid)).rows 0 := by
  obtain ⟨start, t, events, run, table, later, -, room⟩ := serving.serves (.delete tag oid) s
  exact ⟨t, events, run, .of_table table rfl later room⟩

/-- Updating a row of the expected version rewrites it. -/
theorem run_update (tag oid : String) (expected version : Int64Value) (payload : Document) {s : σ}
    {r : Row} (there : (serving.table s).row? tag oid = some r) (same : r.version = expected) :
    ∃ t events,
      (engine (.update tag oid expected version payload)).run.run s = ⟨.ok true, t, events⟩ ∧
      serving.Leaves s t ((serving.table s).rewrite tag oid expected version payload).rows 0 := by
  obtain ⟨start, t, events, run, table, later, -, room⟩ :=
    serving.serves (.update tag oid expected version payload) s
  have hit : (serving.table s).rows.any (fun r ↦ r.hasKey tag oid && r.version == expected) =
      true := by
    refine List.any_eq_true.mpr ⟨r, List.mem_of_find?_eq_some there, ?_⟩
    rw [List.find?_some there, same, Bool.true_and, beq_self_eq_true]
  refine ⟨t, events, ?_, .of_table table rfl later room⟩
  rw [← hit]
  exact run

/-- Inserting under a key that is taken leaves the rows alone. -/
theorem run_insert_taken (tag oid : String) (version : Int64Value) (payload : Document) {s : σ}
    {r : Row} (there : (serving.table s).row? tag oid = some r) : ∃ t events,
    (engine (.insert tag oid version payload)).run.run s = ⟨.ok none, t, events⟩ ∧
    serving.Leaves s t (serving.table s).rows 1 := by
  obtain ⟨start, t, events, run, table, later, -, room⟩ :=
    serving.serves (.insert tag oid version payload) s
  have met : ((serving.table s).skipTo start).row? tag oid = some r := there
  rw [Table.run, met] at run table
  exact ⟨t, events, run, .of_table table rfl (Int.le_trans later start.le_after) room⟩

/-- Inserting under a free key adds a row with a new numeric id, as long as there is room. -/
theorem run_insert_free (tag oid : String) (version : Int64Value) (payload : Document) {s : σ}
    (free : (serving.table s).row? tag oid = none) (space : 0 < serving.room s) :
    ∃ (numericId : Int64Value) (t : σ) (events : List Event),
      (engine (.insert tag oid version payload)).run.run s = ⟨.ok (some numericId), t, events⟩ ∧
      (serving.table s).sequence.value < numericId.value ∧
      (serving.table t).sequence = numericId ∧
      serving.Leaves s t
        ((serving.table s).rows ++ [⟨tag, oid, numericId, version, payload⟩]) 1 := by
  obtain ⟨start, t, events, run, table, later, last, room⟩ :=
    serving.serves (.insert tag oid version payload) s
  have missed : ((serving.table s).skipTo start).row? tag oid = none := free
  rw [Table.run, missed] at run table
  have next := Int64Value.value_after (last space)
  have sequence : (serving.table t).sequence = start.after := congrArg Table.sequence table
  have above : (serving.table s).sequence.value < start.after.value := by omega
  exact ⟨start.after, t, events, run, above, sequence,
    .of_table table rfl (Int.le_of_lt above) room⟩

end Serving

end VersionedStore
