import VersionedStore.Proofs.Relational.Failing
import VersionedStore.Proofs.Schema.Document
import VersionedStore.Proofs.Store.Addresses

/-!
# Rows hold their own objects

The payload of a row says for itself which OID its object has. `OwnRows` says that this is the OID
of the row, as it is in every row that the store over a table has written; then the store gives
objects under their own OIDs, behind any engine whose statements are run at once or fail.
-/

namespace VersionedStore

open Crud

namespace Relational

variable {M : Model} {σ : Type} {engine : Engine σ} {α β : Type}

/-- A payload is no object, or one with the OID of this text. -/
def OwnPayload (M : Model) (text : String) (payload : Document) : Prop :=
  ∀ m, ofJson M.Object payload.json = .ok m → ∃ oid, m.oid = some oid ∧ M.oidKind.textOf oid = text

/-- The rows of the model hold objects with the OIDs of the rows. -/
def OwnRows (M : Model) (rows : List Row) : Prop :=
  ∀ r ∈ rows, r.tag = M.tag → OwnPayload M r.oid r.payload

/-- The engine is calm, and the rows of the model in its table are their own. -/
structure Own (atomic : Atomic engine) (M : Model) (u : σ) : Prop where
  calm : atomic.calm u
  rows : OwnRows M (atomic.table u).rows

/-- The document of an object is a payload for its OID. -/
theorem ownPayload_toDocument {m : M.Object} {oid : M.Oid} (own : m.oid = some oid) :
    OwnPayload M (M.oidKind.textOf oid) (toDocument m) := by
  intro n read
  rw [ofJson_toDocument M.faithful_schema] at read
  cases read
  exact ⟨oid, own, rfl⟩

private theorem payload_of_ofRow {r : Row} {m : M.Object} (read : ofRow M r = .ok m) :
    ∃ n, ofJson M.Object r.payload.json = .ok n ∧ n.oid = m.oid := by
  obtain ⟨n, payload, read⟩ := ok_of_bind read
  obtain ⟨numericId, -, read⟩ := ok_of_bind read
  obtain ⟨version, -, read⟩ := ok_of_bind read
  cases decoded : ofJson M.Object r.payload.json with
  | error fault =>
    rw [decoded] at payload
    cases payload
  | ok n' =>
    rw [decoded] at payload
    cases payload
    cases read
    exact ⟨n, rfl, rfl⟩

/-- The object of a row that is found under an OID has this OID. -/
theorem OwnRows.oid_of_ofRow? {t : Table} (own : OwnRows M t.rows) {oid : M.Oid} {m : M.Object}
    (read : ofRow? M (t.row? M.tag (M.oidKind.textOf oid)) = .ok (some m)) : m.oid = some oid := by
  cases found : t.row? M.tag (M.oidKind.textOf oid) with
  | none =>
    rw [found] at read
    cases read
  | some r =>
    have key : r.tag = M.tag ∧ r.oid = M.oidKind.textOf oid := by
      have := List.find?_some found
      simpa [Row.hasKey] using this
    have object : ofRow M r = .ok m := by
      rw [found, ofRow?, Option.mapM_some] at read
      obtain ⟨n, decoded, same⟩ := ok_of_map read
      cases same
      exact decoded
    obtain ⟨n, decoded, same⟩ := payload_of_ofRow object
    obtain ⟨other, has, text⟩ := own r (List.mem_of_find?_eq_some found) key.1 n decoded
    obtain rfl : other = oid := OidKind.textOf_injective (text.trans key.2)
    exact same.symm.trans has

/-- A row that is added under the OID of its payload keeps the rows their own. -/
theorem OwnRows.insert {t : Table} (own : OwnRows M t.rows) {text : String}
    {version : Int64Value} {payload : Document} (fits : OwnPayload M text payload) :
    OwnRows M (Table.run (.insert M.tag text version payload) t).2.rows := by
  rw [Table.run]
  cases t.row? M.tag text with
  | some taken => exact own
  | none =>
    intro r hr
    rcases List.mem_append.mp hr with old | new
    · exact own r old
    · rw [List.mem_singleton.mp new]
      exact fun _ ↦ fits

/-- A payload that is put in the row of its OID keeps the rows their own. -/
theorem OwnRows.update {t : Table} (own : OwnRows M t.rows) {text : String}
    {expected version : Int64Value} {payload : Document} (fits : OwnPayload M text payload) :
    OwnRows M (Table.run (.update M.tag text expected version payload) t).2.rows := by
  intro r hr
  obtain ⟨old, ho, rfl⟩ := List.mem_map.mp hr
  split
  · next hit =>
    intro _
    have key : old.oid = text := by
      simp only [Row.hasKey, Bool.and_eq_true, beq_iff_eq] at hit
      exact hit.1.2
    show OwnPayload M old.oid payload
    rw [key]
    exact fits
  · exact own old ho

/-- Rows that are taken out leave the others their own. -/
theorem OwnRows.delete {t : Table} (own : OwnRows M t.rows) (tag oid : String) :
    OwnRows M (Table.run (.delete tag oid) t).2.rows :=
  fun r hr ↦ own r (List.mem_filter.mp hr).1

variable {atomic : Atomic engine}

/-- From a table whose rows are their own, an attempt leaves such a table, and what it gives has a
property. -/
def Giving (atomic : Atomic engine) (M : Model) (P : α → Prop) (x : Attempt σ α) : Prop :=
  ∀ u, Own atomic M u → x.run.Ends u fun v r ↦ Own atomic M v ∧ ∀ a, r = .ok a → P a

private theorem giving_lift {P : α → Prop} {r : Except Failure α} (known : ∀ a, r = .ok a → P a) :
    Giving atomic M P (liftM r : Attempt σ α) := by
  intro u own
  rw [Action.Ends, Attempt.run_lift]
  exact ⟨own, known⟩

private theorem giving_pure {P : α → Prop} {a : α} (h : P a) :
    Giving atomic M P (pure a : Attempt σ α) := by
  refine fun u own ↦ ⟨own, ?_⟩
  rintro _ ⟨⟩
  exact h

private theorem giving_throw {P : α → Prop} (failure : Failure) :
    Giving atomic M P (throw failure : Attempt σ α) :=
  giving_lift (r := .error failure) fun _ h ↦ nomatch h

/-- What follows may rely on what was given. -/
theorem Giving.bind {P : α → Prop} {Q : β → Prop} {x : Attempt σ α} {f : α → Attempt σ β}
    (first : Giving atomic M P x) (rest : ∀ a, P a → Giving atomic M Q (f a)) :
    Giving atomic M Q (x >>= f) := by
  intro u own
  refine Attempt.ends_bind (first u own) (fun v a given ↦ rest a (given.2 a rfl) v given.1) ?_
  exact fun _ _ given ↦ ⟨given.1, fun _ h ↦ nomatch h⟩

private theorem giving_statement {statement : Statement α}
    (keeps : ∀ t : Table, OwnRows M t.rows → OwnRows M (Table.run statement t).2.rows) :
    Giving atomic M (fun a ↦ ∃ t : Table, OwnRows M t.rows ∧ (Table.run statement t).1 = a)
      (engine statement) := by
  intro u own
  obtain ⟨v, calm, ⟨start, events, run, rows⟩ | ⟨failure, events, run, rows⟩⟩ :=
    atomic.runs statement u own.calm
  · rw [Action.Ends, run]
    constructor
    · constructor
      · exact calm
      · rw [rows]
        exact keeps _ own.rows
    · rintro _ ⟨⟩
      exact ⟨(atomic.table u).skipTo start, own.rows, rfl⟩
  · rw [Action.Ends, run]
    constructor
    · constructor
      · exact calm
      · rw [rows]
        exact own.rows
    · rintro _ ⟨⟩

private theorem giving_reading {statement : Statement α} (reads : statement.writes = false) :
    Giving atomic M (fun a ↦ ∃ t : Table, OwnRows M t.rows ∧ (Table.run statement t).1 = a)
      (engine statement) := by
  apply giving_statement
  intro t own
  rw [Table.rows_run_of_not_writes reads]
  exact own

private theorem giving_find (oid : M.Oid) :
    Giving atomic M (fun found ↦ ∀ m, found = some m → m.oid = some oid) (find engine oid) := by
  refine (giving_reading rfl).bind fun row given ↦ giving_lift fun found read m here ↦ ?_
  obtain ⟨t, own, rfl⟩ := given
  subst here
  exact own.oid_of_ofRow? read

private theorem giving_remove (oid : M.Oid) :
    Giving atomic M (fun found ↦ ∀ m, found = some m → m.oid = some oid) (remove engine oid) := by
  refine (giving_statement fun t own ↦ own.delete _ _).bind fun row given ↦
    giving_lift fun found read m here ↦ ?_
  obtain ⟨t, own, rfl⟩ := given
  subst here
  exact own.oid_of_ofRow? read

private theorem giving_persist (m : M.Object) :
    Giving atomic M (fun stored ↦ stored.oid = m.oid) (persist engine m) := by
  refine (giving_lift fun _ required ↦ Model.Object.requireOid_eq_ok_iff.mp required).bind
    fun oid own ↦ ?_
  refine (giving_lift fun _ _ ↦ trivial).bind fun _ _ ↦ ?_
  refine (giving_lift fun _ _ ↦ trivial).bind fun version _ ↦ ?_
  have fits : OwnPayload M (M.oidKind.textOf oid)
      (toDocument ({ m with version := .first } : M.Object)) := ownPayload_toDocument own
  refine (giving_statement fun t rows ↦ rows.insert fits).bind fun drawn _ ↦ ?_
  cases drawn with
  | none => exact giving_throw _
  | some numericId =>
    exact (giving_lift fun _ _ ↦ trivial).bind fun _ _ ↦ giving_pure rfl

private theorem giving_supersede {m : M.Object} {oid : M.Oid} (own : m.oid = some oid)
    (stored : M.Object) : Giving atomic M (fun merged ↦ merged.object.oid = m.oid)
      (supersede engine (M.oidKind.textOf oid) stored m) := by
  refine (giving_lift fun _ _ ↦ trivial).bind fun _ _ ↦ ?_
  refine (giving_lift fun _ _ ↦ trivial).bind fun version _ ↦ ?_
  refine (giving_lift fun _ _ ↦ trivial).bind fun after _ ↦ ?_
  refine (giving_lift fun _ _ ↦ trivial).bind fun expected _ ↦ ?_
  have fits : OwnPayload M (M.oidKind.textOf oid) (toDocument (m.succeeding stored version)) :=
    ownPayload_toDocument own
  refine (giving_statement fun t rows ↦ rows.update fits).bind fun hit _ ↦ ?_
  cases hit with
  | true => exact giving_pure rfl
  | false =>
    -- Somebody else has changed the row; only its version is looked at.
    refine (giving_reading rfl).bind fun found _ ↦ ?_
    cases found with
    | none => exact giving_throw _
    | some actual => exact (giving_lift fun _ _ ↦ trivial).bind fun _ _ ↦ giving_throw _

private theorem giving_merge (m : M.Object) :
    Giving atomic M (fun merged ↦ merged.object.oid = m.oid) (merge engine m) := by
  refine (giving_lift fun _ required ↦ Model.Object.requireOid_eq_ok_iff.mp required).bind
    fun oid own ↦ ?_
  refine (giving_find oid).bind fun found has ↦ ?_
  cases found with
  | none => exact giving_throw _
  | some stored =>
    have compared : Giving atomic M (fun merged ↦ merged.object.oid = m.oid)
        (if stored.sameContent m then pure (.notModified stored)
          else supersede engine (M.oidKind.textOf oid) stored m) := by
      split
      · exact giving_pure ((has stored rfl).trans own.symm)
      · exact giving_supersede own stored
    simp only [mergeInto]
    split
    · exact Giving.bind (P := fun _ ↦ True) (giving_throw _) fun _ _ ↦ compared
    · exact compared

/-- The store over a table gives objects under their own OIDs as long as the rows are their own. -/
theorem addresses_store (atomic : Atomic engine) (M : Model) :
    (store M engine).Addresses (Own atomic M) where
  find oid u own := by
    have given := giving_find oid u own
    exact ⟨given.1, fun m found ↦ given.2 _ found m rfl⟩
  contains oid u own := by
    have asked : Giving atomic M (fun _ ↦ True) (containsByFind (find engine) oid) :=
      (giving_find oid).bind fun _ _ ↦ giving_pure trivial
    exact (asked u own).1
  findAll u own := by
    have listed : Giving atomic M (fun _ ↦ True) (findAll (M := M) engine) :=
      (giving_reading rfl).bind fun _ _ ↦ giving_lift fun _ _ ↦ trivial
    exact (listed u own).1
  persist m u own := giving_persist m u own
  merge m u own := giving_merge m u own
  remove oid u own := by
    have given := giving_remove oid u own
    exact ⟨given.1, fun m found ↦ given.2 _ found m rfl⟩

end Relational

end VersionedStore
