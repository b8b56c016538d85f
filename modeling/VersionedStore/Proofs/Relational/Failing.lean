import VersionedStore.Proofs.Memory.Invariant
import VersionedStore.Proofs.Relational.Serving
import VersionedStore.Store.Disturbed

/-!
# Calls on the table that fail

An engine is `Atomic` when each statement does to the rows what it does to those of a table, or
fails and leaves them alone. A call makes up to three statements and reads what they give, so it may
also fail between or after them. Every failing call leaves the rows as they were, but for two that
read after they have written: a removal whose row is no object, and a persist that drew a negative
numeric id.
-/

namespace VersionedStore

open Crud

/-- Does a statement add, change or take out rows? -/
def Statement.writes {α : Type} : Statement α → Bool
  | .insert .. | .update .. | .delete .. => true
  | .createTable | .selectOne .. | .selectAll _ | .selectVersion .. => false

/-- A statement that does not write leaves the rows alone. -/
theorem Table.rows_run_of_not_writes {α : Type} {statement : Statement α}
    (reads : statement.writes = false) (t : Table) : (Table.run statement t).2.rows = t.rows := by
  cases statement with
  | insert | update | delete => cases reads
  | createTable | selectOne | selectAll | selectVersion => rfl

private theorem Table.rows_run_update_of_false {tag oid : String} {expected version : Int64Value}
    {payload : Document} {t : Table}
    (missed : (Table.run (.update tag oid expected version payload) t).1 = false) :
    (Table.run (.update tag oid expected version payload) t).2.rows = t.rows := by
  have none : ∀ r ∈ t.rows, ¬(r.hasKey tag oid && r.version == expected) = true :=
    List.any_eq_false.mp missed
  rw [run, change, List.map_congr_left fun r hr ↦ if_neg (none r hr)]
  exact List.map_id _

/-- A table behind an engine whose statements are run at once or fail. As long as the engine is
`calm`, a statement does to the rows what it does to those of a table, whichever numeric ids were
skipped before, or it leaves them alone. -/
structure Atomic {σ : Type} (engine : Engine σ) where
  table : σ → Table
  calm : σ → Prop
  runs : ∀ {α : Type} (statement : Statement α) (s : σ), calm s →
    ∃ t, calm t ∧
      ((∃ start events, (engine statement).run.run s =
          ⟨.ok (Table.run statement ((table s).skipTo start)).1, t, events⟩ ∧
        (table t).rows = (Table.run statement ((table s).skipTo start)).2.rows) ∨
      (∃ failure events, (engine statement).run.run s = ⟨.error failure, t, events⟩ ∧
        (table t).rows = (table s).rows))

/-- An engine that runs every statement on a table is atomic. -/
def Serving.atomic {σ : Type} {engine : Engine σ} (serving : Serving engine) : Atomic engine where
  table := serving.table
  calm _ := True
  runs statement s _ := by
    obtain ⟨start, t, events, run, table, -⟩ := serving.serves statement s
    exact ⟨t, trivial, .inl ⟨start, events, run, congrArg Table.rows table⟩⟩

namespace DisturbedTable

/-- Nobody else writes: all that may disturb the table are statements that fail. -/
def Calm (s : DisturbedTable) : Prop := ∀ d ∈ s.pending, ∃ reason, d.2 = .fail reason

private theorem takeDisturbance_of_calm (kind : StatementKind)
    {pending : List (StatementKind × Disturbance)}
    (calm : ∀ d ∈ pending, ∃ reason, d.2 = .fail reason) :
    ((takeDisturbance kind pending).1 = none ∨
      ∃ reason, (takeDisturbance kind pending).1 = some (.fail reason)) ∧
    ∀ d ∈ (takeDisturbance kind pending).2, d ∈ pending := by
  induction pending with
  | nil => simp [takeDisturbance]
  | cons first rest ih =>
    obtain ⟨k, d⟩ := first
    rw [List.forall_mem_cons] at calm
    obtain ⟨taken, others⟩ := ih calm.2
    by_cases same : k = kind
    · obtain ⟨reason, rfl⟩ := calm.1
      simp only [takeDisturbance, same, if_true]
      constructor
      · exact .inr ⟨reason, rfl⟩
      · intro e he
        exact List.mem_cons_of_mem _ he
    · simp only [takeDisturbance, same, if_false]
      constructor
      · exact taken
      · intro e he
        rcases List.mem_cons.mp he with rfl | he
        · exact List.mem_cons_self
        · exact List.mem_cons_of_mem _ (others e he)

/-- A disturbed table is atomic as long as nobody else writes. -/
def atomic : Atomic engine where
  table := DisturbedTable.table
  calm := Calm
  runs {α} statement s calm := by
    obtain ⟨taken, others⟩ := takeDisturbance_of_calm statement.kind calm
    have run : (engine statement).run.run s = ⟨(run statement s).1, (run statement s).2, []⟩ := rfl
    have pending : (DisturbedTable.run statement s).2.pending =
        (takeDisturbance statement.kind s.pending).2 := by
      rcases taken with none | ⟨reason, fails⟩
      · simp only [DisturbedTable.run, none]
      · simp only [DisturbedTable.run, fails]
    refine ⟨(DisturbedTable.run statement s).2, ?_, ?_⟩
    · intro d hd
      rw [pending] at hd
      exact calm d (others d hd)
    · rcases taken with none | ⟨reason, fails⟩
      · left
        refine ⟨s.table.sequence, [], ?_, ?_⟩
        · rw [run]
          simp only [DisturbedTable.run, none]
          rfl
        · simp only [DisturbedTable.run, none]
          rfl
      · right
        refine ⟨.database (.stated reason), [], ?_, ?_⟩
        · rw [run]
          simp only [DisturbedTable.run, fails]
        · simp only [DisturbedTable.run, fails]

end DisturbedTable

namespace Relational

open Store (Call Result)

variable {M : Model} {σ : Type} {engine : Engine σ} (atomic : Atomic engine)

/-- The engine is calm and its table has these rows. -/
structure Still (before : List Row) (u : σ) : Prop where
  calm : atomic.calm u
  rows : (atomic.table u).rows = before

/-- However an attempt ends, it leaves these rows alone. -/
def Reading {α : Type} (before : List Row) (x : Attempt σ α) : Prop :=
  ∀ u, Still atomic before u → x.run.Ends u fun v _ ↦ Still atomic before v

/-- An attempt that starts from these rows and fails leaves rows of which this holds. -/
def Failing {α : Type} (before : List Row) (E : Failure → List Row → Prop) (x : Attempt σ α) :
    Prop :=
  ∀ u, Still atomic before u →
    x.run.Ends u fun v r ↦ ∀ failure, r = .error failure → E failure (atomic.table v).rows

variable {atomic} {before : List Row} {E : Failure → List Row → Prop} {α β : Type}

private theorem reading_lift (r : Except Failure α) :
    Reading atomic before (liftM r : Attempt σ α) := by
  intro u still
  rw [Action.Ends, Attempt.run_lift]
  exact still

private theorem reading_throw (failure : Failure) : Reading atomic before
    (throw failure : Attempt σ α) :=
  reading_lift (.error failure)

private theorem reading_statement {statement : Statement α} (reads : statement.writes = false) :
    Reading atomic before (engine statement) := by
  intro u still
  obtain ⟨t, calm, ⟨start, events, run, rows⟩ | ⟨failure, events, run, rows⟩⟩ :=
    atomic.runs statement u still.calm
  · rw [Action.Ends, run]
    exact ⟨calm, by rw [rows, Table.rows_run_of_not_writes reads]; exact still.rows⟩
  · rw [Action.Ends, run]
    exact ⟨calm, rows.trans still.rows⟩

/-- One thing after another leaves the rows alone if both do. -/
theorem Reading.bind {x : Attempt σ α} {f : α → Attempt σ β} (first : Reading atomic before x)
    (rest : ∀ a, Reading atomic before (f a)) : Reading atomic before (x >>= f) :=
  fun u still ↦
    Attempt.ends_bind (first u still) (fun v a still ↦ rest a v still) fun _ _ still ↦ still

/-- What leaves the rows alone does so when it fails. -/
theorem Reading.failing {x : Attempt σ α} (reading : Reading atomic before x)
    (same : ∀ failure, E failure before) : Failing atomic before E x := by
  intro u still failure _
  rw [(reading u still).rows]
  exact same failure

/-- After something that leaves the rows alone, what follows may fail as it does from there. -/
theorem Reading.bind_failing {x : Attempt σ α} {f : α → Attempt σ β}
    (first : Reading atomic before x) (same : ∀ failure, E failure before)
    (rest : ∀ a, Failing atomic before E (f a)) : Failing atomic before E (x >>= f) := by
  intro u still
  refine Attempt.ends_bind (first u still) (fun v a still ↦ rest a v still) ?_
  intro v failure left _ _
  rw [left.rows]
  exact same _

private theorem failing_bind_statement {statement : Statement α} {f : α → Attempt σ β}
    (same : ∀ failure, E failure before)
    (rest : ∀ t : Table, t.rows = before →
      Failing atomic (Table.run statement t).2.rows E (f (Table.run statement t).1)) :
    Failing atomic before E (engine statement >>= f) := by
  intro u still
  obtain ⟨v, calm, ⟨start, events, run, rows⟩ | ⟨failure, events, run, rows⟩⟩ :=
    atomic.runs statement u still.calm
  · rw [Action.Ends, Attempt.run_bind_of_ok run]
    exact rest ((atomic.table u).skipTo start) still.rows v ⟨calm, rows⟩
  · rw [Action.Ends, Attempt.run_bind_of_error run]
    intro _ _
    rw [rows, still.rows]
    exact same _

private theorem failing_pure (a : α) : Failing atomic before E (pure a : Attempt σ α) := by
  rintro u - failure ⟨⟩

private theorem failing_lift {r : Except Failure α}
    (fails : ∀ failure, r = .error failure → E failure before) :
    Failing atomic before E (liftM r : Attempt σ α) := by
  intro u still
  rw [Action.Ends, Attempt.run_lift, still.rows]
  exact fails

private theorem failing_bind_lift {r : Except Failure α} {f : α → Attempt σ β}
    (fails : ∀ failure, r = .error failure → E failure before)
    (rest : ∀ a, r = .ok a → Failing atomic before E (f a)) :
    Failing atomic before E (liftM r >>= f) := by
  intro u still
  cases known : r with
  | ok a =>
    rw [Action.Ends, Attempt.run_bind_of_ok (Attempt.run_lift _ u)]
    exact rest a known u still
  | error failure =>
    rw [Action.Ends, Attempt.run_bind_of_error (Attempt.run_lift _ u)]
    rintro _ ⟨⟩
    rw [still.rows]
    exact fails failure known

/-- A column has no number exactly when it is negative. -/
theorem ofColumn_eq_error_iff {n : Int64Value} {failure : Failure} :
    ofColumn n = .error failure ↔
      n.value < 0 ∧ failure = .database (.negativeColumn n.value) := by
  unfold ofColumn
  split
  · next positive => simp [Int.not_lt.mpr positive]
  · next negative => simp [Int.not_le.mp negative, eq_comm]

/-- A row that is there is read, or not, as it is. -/
theorem ofRow?_some_eq_error_iff {r : Row} {failure : Failure} :
    ofRow? M (some r) = .error failure ↔ ofRow M r = .error failure := by
  rw [ofRow?, Option.mapM_some]
  cases ofRow M r with
  | ok m => constructor <;> rintro ⟨⟩
  | error other =>
    constructor
    · rintro ⟨⟩
      rfl
    · rintro ⟨⟩
      rfl

/-- A failing call of a store for `M` that has written: it took out a row that it cannot read, or
added one whose numeric id it cannot read. -/
inductive Spilt (M : Model) (before : List Row) : Call M → Failure → List Row → Prop
  | removed {oid : M.Oid} {r : Row} {failure : Failure}
      (row : before.find? (Row.hasKey M.tag (M.oidKind.textOf oid)) = some r)
      (unreadable : ofRow M r = .error failure) :
      Spilt M before (.remove oid) failure
        (before.filter fun r ↦ !r.hasKey M.tag (M.oidKind.textOf oid))
  | persisted {m : M.Object} {oid : M.Oid} {numericId version : Int64Value} {payload : Document}
      (own : m.oid = some oid) (negative : numericId.value < 0) :
      Spilt M before (.persist m) (.database (.negativeColumn numericId.value))
        (before ++ [⟨M.tag, M.oidKind.textOf oid, numericId, version, payload⟩])

/-- A failing call leaves the rows alone, or has written. -/
def Kept (M : Model) (before : List Row) (c : Call M) (failure : Failure) (after : List Row) :
    Prop :=
  after = before ∨ Spilt M before c failure after

private theorem reading_find (oid : M.Oid) : Reading atomic before (find engine oid) :=
  (reading_statement rfl).bind fun _ ↦ reading_lift _

private theorem reading_contains (oid : M.Oid) :
    Reading atomic before (containsByFind (find engine) oid) :=
  (reading_find oid).bind fun found ↦ reading_lift (.ok found.isSome)

private theorem reading_findAll : Reading atomic before (findAll (M := M) engine) :=
  (reading_statement rfl).bind fun _ ↦ reading_lift _

private theorem failing_remove (oid : M.Oid) :
    Failing atomic before (Kept M before (.remove oid)) (remove engine oid) := by
  refine failing_bind_statement (fun _ ↦ .inl rfl) fun t rows ↦ ?_
  subst rows
  cases row : t.row? M.tag (M.oidKind.textOf oid) with
  | none =>
    simp only [Table.run, row]
    exact failing_pure none
  | some r =>
    simp only [Table.run, row]
    -- The row is gone: only reading it may still fail.
    refine failing_lift fun failure unreadable ↦ .inr ?_
    exact .removed row (ofRow?_some_eq_error_iff.mp unreadable)

private theorem failing_persist (m : M.Object) :
    Failing atomic before (Kept M before (.persist m)) (persist engine m) := by
  refine failing_bind_lift (fun _ _ ↦ .inl rfl) fun oid required ↦ ?_
  refine failing_bind_lift (fun _ _ ↦ .inl rfl) fun _ _ ↦ ?_
  refine failing_bind_lift (fun _ _ ↦ .inl rfl) fun version _ ↦ ?_
  refine failing_bind_statement (fun _ ↦ .inl rfl) fun t rows ↦ ?_
  subst rows
  cases row : t.row? M.tag (M.oidKind.textOf oid) with
  | some r =>
    simp only [Table.run, row]
    exact (reading_throw _).failing fun _ ↦ .inl rfl
  | none =>
    simp only [Table.run, row, Table.add]
    -- The row is there: only its numeric id may still be refused.
    refine failing_bind_lift (fun failure refused ↦ .inr ?_) fun _ _ ↦ failing_pure _
    obtain ⟨negative, rfl⟩ := ofColumn_eq_error_iff.mp refused
    exact .persisted (Model.Object.requireOid_eq_ok_iff.mp required) negative

private theorem failing_supersede (same : ∀ failure, E failure before) (text : String)
    (stored m : M.Object) : Failing atomic before E (supersede engine text stored m) := by
  refine failing_bind_lift (fun _ _ ↦ same _) fun _ _ ↦ ?_
  refine failing_bind_lift (fun _ _ ↦ same _) fun version _ ↦ ?_
  refine failing_bind_lift (fun _ _ ↦ same _) fun after _ ↦ ?_
  refine failing_bind_lift (fun _ _ ↦ same _) fun expected _ ↦ ?_
  refine failing_bind_statement same fun t rows ↦ ?_
  cases hit : (Table.run (.update M.tag text expected after
    (toDocument (m.succeeding stored version))) t).1 with
  | true => exact failing_pure _
  | false =>
    -- Somebody else has changed the row since it was read, so this update has not.
    rw [Table.rows_run_update_of_false hit, rows]
    refine (reading_statement rfl).bind_failing same fun found ↦ ?_
    cases found with
    | none => exact (reading_throw _).failing same
    | some actual => exact ((reading_lift _).bind fun _ ↦ reading_throw _).failing same

private theorem failing_merge (same : ∀ failure, E failure before) (m : M.Object) :
    Failing atomic before E (merge engine m) := by
  refine failing_bind_lift (fun _ _ ↦ same _) fun oid _ ↦ ?_
  refine (reading_find oid).bind_failing same fun found ↦ ?_
  cases found with
  | none => exact (reading_throw _).failing same
  | some stored =>
    have compared : Failing atomic before E (if stored.sameContent m then
        pure (.notModified stored) else supersede engine (M.oidKind.textOf oid) stored m) := by
      split
      · exact failing_pure _
      · exact failing_supersede same _ stored m
    simp only [mergeInto]
    split
    · exact (reading_throw _).bind_failing same fun _ ↦ compared
    · exact compared

private theorem ends_perform {x : Attempt σ α} (failing : Failing atomic before E x) {u : σ}
    (still : Still atomic before u) {wrap : α → Result M}
    (wraps : ∀ a failure, wrap a ≠ .failed failure) :
    (do return .of wrap (← x.run) : Action σ (Result M)).Ends u fun v r ↦
      ∀ failure, r = .failed failure → E failure (atomic.table v).rows := by
  apply Action.Ends.map
  intro failure failed
  apply failing u still failure
  cases value : (x.run.run u).value with
  | ok a =>
    rw [value] at failed
    exact absurd failed (wraps a failure)
  | error other =>
    rw [value] at failed
    cases failed
    rfl

/-- Behind an engine whose statements do to the rows what they say or fail and leave them alone, and
with nobody else writing, whatever rows there are: a call that fails leaves them as they were, or
it is a removal whose row is no object of the model, and gone, or a persist that drew a negative
numeric id for a row that is there. -/
theorem rows_of_failed (atomic : Atomic engine) {u : σ} (calm : atomic.calm u) (c : Call M)
    {failure : Failure} (failed : (((store M engine).perform c).run u).value = .failed failure) :
    (atomic.table (((store M engine).perform c).run u).state).rows = (atomic.table u).rows ∨
    Spilt M (atomic.table u).rows c failure
      (atomic.table (((store M engine).perform c).run u).state).rows := by
  have still : Still atomic (atomic.table u).rows u := ⟨calm, rfl⟩
  have same : ∀ f, Kept M (atomic.table u).rows c f (atomic.table u).rows := fun _ ↦ .inl rfl
  cases c with
  | find oid =>
    exact ends_perform ((reading_find oid).failing same) still (by rintro _ _ ⟨⟩) failure failed
  | contains oid =>
    exact ends_perform ((reading_contains oid).failing same) still (by rintro _ _ ⟨⟩) failure failed
  | findAll =>
    exact ends_perform (reading_findAll.failing same) still (by rintro _ _ ⟨⟩) failure failed
  | persist m => exact ends_perform (failing_persist m) still (by rintro _ _ ⟨⟩) failure failed
  | merge m => exact ends_perform (failing_merge same m) still (by rintro _ _ ⟨⟩) failure failed
  | remove oid => exact ends_perform (failing_remove oid) still (by rintro _ _ ⟨⟩) failure failed

/-- A note of the first version in its row. -/
def keptRow : Row :=
  ⟨"note", "a", Int64Value.zero.after, Int64Value.zero.after,
    toDocument (Memory.submitted Memory.noteA "kept" .first)⟩

/-- A table with a note and a row that is none, whose next update fails. -/
def brokenOff : DisturbedTable :=
  ⟨⟨[keptRow, { keptRow with oid := "b", version := ⟨-7, by decide⟩ }], Int64Value.zero.after⟩,
    [(.update, .fail "connection refused")], []⟩

/-- A merge whose update fails leaves the rows as they were. -/
theorem rows_of_failed_update :
    let merge := (store Catalogue.note DisturbedTable.engine).perform
      (.merge (Memory.submitted Memory.noteA "changed" .first))
    brokenOff.Calm ∧
    (merge.run brokenOff).value = .failed (.database (.stated "connection refused")) ∧
    (merge.run brokenOff).state.table.rows = brokenOff.table.rows := by
  intro merge
  have calm : brokenOff.Calm := by simp [DisturbedTable.Calm, brokenOff]
  have failed : (merge.run brokenOff).value =
      .failed (.database (.stated "connection refused")) := by decide +kernel
  refine ⟨calm, failed, (rows_of_failed DisturbedTable.atomic calm _ failed).resolve_right ?_⟩
  rintro ⟨⟩

/-- A row of notes whose title is a number. -/
def spoiltRow : Row :=
  { keptRow with payload := Document.ofJson (.obj [("oid", .str "a"), ("title", .int 5)]) }

/-- A removal of a row that is no note fails, and the row is gone; a persist that draws a negative
numeric id fails, and its row is there. -/
theorem failed_after_writing :
    let notes := store Catalogue.note Table.engine
    let removed := (notes.perform (.remove Memory.noteA)).run ⟨[spoiltRow], .zero⟩
    let persisted := (notes.perform (.persist (Memory.submitted Memory.noteA "new" .unsaved))).run
      ⟨[], ⟨-7, by decide⟩⟩
    removed.value = .failed (.serialization (.wrongType (.integer 5) "a string")) ∧
    removed.state.rows = [] ∧
    persisted.value = .failed (.database (.negativeColumn (-6))) ∧
    persisted.state.rows.map Row.oid = ["a"] := by decide +kernel

end Relational

end VersionedStore
