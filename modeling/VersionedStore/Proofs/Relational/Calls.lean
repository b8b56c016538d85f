import VersionedStore.Proofs.Memory.Tidy
import VersionedStore.Proofs.Relational.Rows

/-!
# Calls on a table that mirrors a memory

Each operation of the store over the table is followed statement by statement: it gives what the
operation on the memory gives, with other names for the numeric ids, and leaves a mirror of the
memory after it. `simulates` says so of every call.
-/

namespace VersionedStore

open Crud

namespace Store

variable {M : Model}

/-- What a merge gives, its object renumbered. -/
def renumberMerged (ρ : Word 64 → Word 64) : Merged M.Object → Merged M.Object
  | .updated m => .updated (m.renumber ρ)
  | .notModified m => .notModified (m.renumber ρ)

/-- The result of a call, its objects renumbered. -/
def Result.renumber (ρ : Word 64 → Word 64) : Result M → Result M
  | .found m => .found (m.map (Model.Object.renumber ρ))
  | .contained there => .contained there
  | .listed ms => .listed (ms.map (Model.Object.renumber ρ))
  | .persisted m => .persisted (m.renumber ρ)
  | .merged r => .merged (renumberMerged ρ r)
  | .removed m => .removed (m.map (Model.Object.renumber ρ))
  | .failed failure => .failed failure

/-- Only the names of the numeric ids in a result matter. -/
theorem Result.renumber_congr {ρ ρ' : Word 64 → Word 64} {last : Word 64} {r : Result M}
    (numbered : r.Numbered last) (keeps : ∀ n ≤ last, ρ n = ρ' n) :
    r.renumber ρ = r.renumber ρ' := by
  have same : ∀ m ∈ r.objects, m.renumber ρ = m.renumber ρ' := by
    intro m hm
    obtain ⟨n, own, -, most⟩ := numbered m hm
    rw [Model.Object.renumber, Model.Object.renumber, own, Option.map_some, Option.map_some,
      keeps n most]
  cases r with
  | found m | removed m =>
    cases m with
    | none => rfl
    | some m => simpa [renumber, objects] using same
  | listed ms => exact congrArg Result.listed (List.map_congr_left same)
  | persisted m => exact congrArg Result.persisted (same m List.mem_cons_self)
  | merged merged =>
    cases merged with
    | updated m => exact congrArg (Result.merged ∘ .updated) (same m List.mem_cons_self)
    | notModified m => exact congrArg (Result.merged ∘ .notModified) (same m List.mem_cons_self)
  | contained | failed => rfl

end Store

namespace Relational

open Memory (Admits Fails Meets Succeeds Transition)
open Store (Call Result)

variable {M : Model} {σ : Type} {engine : Engine σ} {serving : Serving engine}
  {ρ : Word 64 → Word 64} {s : Memory M} {u : σ}

/-- The row of a key is read as the object under the OID, renumbered. -/
theorem Mirrors.ofRow? {t : Table} (h : Mirrors ρ s t) (oid : M.Oid) :
    ofRow? M (t.row? M.tag (M.oidKind.textOf oid)) =
      .ok ((s.get? oid).map (Model.Object.renumber ρ)) := by
  cases there : s.get? oid with
  | none =>
    rw [h.row?_of_none there]
    rfl
  | some m =>
    obtain ⟨r, row, shows⟩ := h.row?_of_some there
    rw [row]
    exact (congrArg (Except.map some) shows.ofRow :)

private theorem ofRows_of_shows {objects : List (M.Oid × M.Object)} {rows : List Row}
    (h : List.Forall₂ (Shows ρ) objects rows) :
    ofRows M rows = .ok ((objects.map Prod.snd).map (Model.Object.renumber ρ)) := by
  induction h with
  | nil => rfl
  | cons shows others ih =>
    rw [ofRows, List.mapM_cons]
    exact (bind_of_ok shows.ofRow _).trans (bind_of_ok ih _)

/-- The rows of a model lie in the order of their numeric ids already. -/
theorem Mirrors.sorted {t : Table} (h : Mirrors ρ s t) {count : Nat} (tidy : s.Tidy count) :
    (t.tagged M.tag).mergeSort Row.numericOrder = t.tagged M.tag := by
  have names : s.objects.map (fun e ↦ e.2.numericId.map ρ) =
      (t.tagged M.tag).map fun r ↦ (ofColumn r.numericId).toOption := by
    rw [← List.forall₂_eq_eq_eq, List.forall₂_map_left_iff, List.forall₂_map_right_iff]
    refine h.rows.imp fun e r shows ↦ ?_
    obtain ⟨n, own, numbered⟩ := shows.numbered
    rw [own, numbered]
    rfl
  have ordered : (s.objects.map fun e ↦ e.2.numericId.map ρ).Pairwise
      fun a b ↦ ∃ i j, a = some i ∧ b = some j ∧ i < j := by
    refine List.pairwise_map.mpr ((List.pairwise_map.mp tidy.ascending).imp_of_mem ?_)
    rintro e f he hf ⟨i, j, hi, hj, less⟩
    obtain ⟨n, hn, one, -⟩ := tidy.numbered e he
    obtain ⟨m, hm, -, most⟩ := tidy.numbered f hf
    obtain rfl : i = n := Option.some.inj (hi.symm.trans hn)
    obtain rfl : j = m := Option.some.inj (hj.symm.trans hm)
    exact ⟨ρ i, ρ j, by rw [hi]; rfl, by rw [hj]; rfl, h.ascending i j one less most⟩
  rw [names, List.pairwise_map] at ordered
  apply List.mergeSort_of_pairwise
  refine ordered.imp ?_
  rintro r q ⟨i, j, hi, hj, less⟩
  have value {c : Int64Value} {n : Word 64} (h : (ofColumn c).toOption = some n) :
      c.value = n.val := by
    cases read : ofColumn c with
    | ok m =>
      rw [read] at h
      cases h
      exact value_of_ofColumn read
    | error failure =>
      rw [read] at h
      cases h
  have below : i.val < j.val := less
  rw [Row.numericOrder, decide_eq_true_iff, value hi, value hj]
  omega

/-! ### Operations on the table -/

/-- What a call for one tag leaves alone: the rows of other tags, the numeric ids that were drawn,
and the room for others but one. -/
structure Frames (serving : Serving engine) (tag : String) (u v : σ) : Prop where
  others : ∀ other, other ≠ tag → (serving.table v).tagged other = (serving.table u).tagged other
  later : (serving.table u).sequence.value ≤ (serving.table v).sequence.value
  room : serving.room u ≤ serving.room v + 1

/-- A call on a table does what it did in memory: it gives the result renumbered and leaves a mirror
of the memory after it. Names that were given before stay. -/
def Simulates (serving : Serving engine) (ρ : Word 64 → Word 64) (s : Memory M) (u : σ) (c : Call M)
    (r : Result M) (t : Memory M) : Prop :=
  ∃ ρ' v events, (∀ i ≤ s.sequence, ρ' i = ρ i) ∧
    ((store M engine).perform c).run u = ⟨r.renumber ρ', v, events⟩ ∧
    Mirrors ρ' t (serving.table v) ∧ Frames serving M.tag u v

/-- A call ends as its operation does. -/
theorem run_perform {α : Type} {x : Attempt σ α} {u v : σ} {value : Except Failure α}
    {events : List Event} (run : x.run.run u = ⟨value, v, events⟩) (wrap : α → Result M) :
    (do return .of wrap (← x.run) : Action σ (Result M)).run u =
      ⟨.of wrap value, v, events ++ []⟩ :=
  Action.run_bind_of run _

private theorem run_persist_of_insert {m : M.Object} {oid : M.Oid} {version numericId : Int64Value}
    {n : Word 64} {u v : σ} {events : List Event} (own : m.oid = some oid)
    (coherent : m.tracking.validate = .ok ())
    (column : toColumn Version.first.number = .ok version)
    (insert : (engine (.insert M.tag (M.oidKind.textOf oid) version
      (toDocument { m with version := .first }))).run.run u = ⟨.ok (some numericId), v, events⟩)
    (number : ofColumn numericId = .ok n) :
    (persist engine m).run.run u =
      ⟨.ok { m with numericId := some n, version := .first }, v, events ++ []⟩ := by
  have required : m.requireOid = .ok oid := Model.Object.requireOid_eq_ok_iff.mpr own
  simp only [persist, required, coherent, column]
  rw [Attempt.run_bind_of_ok (Attempt.run_lift _ u),
    Attempt.run_bind_of_ok (Attempt.run_lift _ u),
    Attempt.run_bind_of_ok (Attempt.run_lift _ u), Attempt.run_bind_of_ok insert]
  simp only [number]
  rfl

private theorem run_supersede_of_update {text : String} {m stored : M.Object} {version : Version}
    {before after : Int64Value} {u v : σ} {events : List Event}
    (coherent : (m.tracking.carryCreation stored.tracking).validate = .ok ())
    (counts : m.version.tryNext = .ok version)
    (columnAfter : toColumn version.number = .ok after)
    (columnBefore : toColumn m.version.number = .ok before)
    (update : (engine (.update M.tag text before after
      (toDocument (m.succeeding stored version)))).run.run u = ⟨.ok true, v, events⟩) :
    (supersede engine text stored m).run.run u =
      ⟨.ok (.updated (m.succeeding stored version)), v, events ++ []⟩ := by
  have column : toColumn (m.succeeding stored version).version.number = .ok after := columnAfter
  simp only [supersede, coherent, counts]
  rw [Attempt.run_bind_of_ok (Attempt.run_lift _ u),
    Attempt.run_bind_of_ok (Attempt.run_lift _ u), column, columnBefore,
    Attempt.run_bind_of_ok (Attempt.run_lift _ u),
    Attempt.run_bind_of_ok (Attempt.run_lift _ u), Attempt.run_bind_of_ok update]
  rfl

private theorem simulates_of_same (h : Mirrors ρ s (serving.table u)) {c : Call M} {r : Result M}
    {v : σ}
    {events : List Event} (run : ((store M engine).perform c).run u = ⟨r.renumber ρ, v, events⟩)
    {used : Nat} (leaves : serving.Leaves u v (serving.table u).rows used) (few : used ≤ 1) :
    Simulates serving ρ s u c r s := by
  have same := tagged_congr leaves.rows
  refine ⟨ρ, v, events, fun _ _ ↦ rfl, run, h.frame (same M.tag) leaves.later, ?_⟩
  have := leaves.room
  exact ⟨fun other _ ↦ same other, leaves.later, by omega⟩

variable (h : Mirrors ρ s (serving.table u))
include h

/-- A find reads the object that is under the OID in memory. -/
theorem run_find (oid : M.Oid) : ∃ v events,
    (find engine oid).run.run u = ⟨.ok ((s.get? oid).map (Model.Object.renumber ρ)), v, events⟩ ∧
    serving.Leaves u v (serving.table u).rows 0 := by
  obtain ⟨v, events, run, leaves⟩ := serving.run_selectOne M.tag (M.oidKind.textOf oid) u
  refine ⟨v, events ++ [], ?_, leaves⟩
  rw [find, Attempt.run_bind_of_ok run, h.ofRow? oid]
  rfl

private theorem simulates_find (oid : M.Oid) :
    Simulates serving ρ s u (.find oid) (.found (s.get? oid)) s := by
  obtain ⟨v, events, run, leaves⟩ := run_find h oid
  exact simulates_of_same h (run_perform run .found) leaves (Nat.zero_le 1)

private theorem simulates_contains (oid : M.Oid) :
    Simulates serving ρ s u (.contains oid) (.contained (s.get? oid).isSome) s := by
  obtain ⟨v, events, run, leaves⟩ := run_find h oid
  have asked : (containsByFind (find engine) oid).run.run u =
      ⟨.ok (s.get? oid).isSome, v, events ++ []⟩ := by
    rw [containsByFind, Attempt.run_bind_of_ok run]
    cases s.get? oid <;> rfl
  exact simulates_of_same h (run_perform asked .contained) leaves (Nat.zero_le 1)

private theorem simulates_findAll {count : Nat} (tidy : s.Tidy count) :
    Simulates serving ρ s u .findAll (.listed s.all) s := by
  obtain ⟨v, events, run, leaves⟩ := serving.run_selectAll M.tag u
  have listed : (findAll engine).run.run u =
      ⟨.ok (s.all.map (Model.Object.renumber ρ)), v, events ++ []⟩ := by
    rw [findAll, Attempt.run_bind_of_ok run, h.sorted tidy, ofRows_of_shows h.rows,
      Memory.all_of_ascending tidy.ascending]
    rfl
  exact simulates_of_same h (run_perform listed .listed) leaves (Nat.zero_le 1)

private theorem simulates_remove (oid : M.Oid) :
    Simulates serving ρ s u (.remove oid) (.removed (s.get? oid)) (s.erase oid) := by
  obtain ⟨v, events, run, leaves⟩ := serving.run_delete M.tag (M.oidKind.textOf oid) u
  have removed : (remove engine oid).run.run u =
      ⟨.ok ((s.get? oid).map (Model.Object.renumber ρ)), v, events ++ []⟩ := by
    rw [remove, Attempt.run_bind_of_ok run, h.ofRow? oid]
    rfl
  refine ⟨ρ, v, _, fun _ _ ↦ rfl, run_perform removed .removed,
    h.drop leaves.rows leaves.later, ?_, leaves.later, Nat.le_succ_of_le leaves.room⟩
  intro other ne
  exact (tagged_congr leaves.rows other).trans (tagged_drop_ne ne _)

private theorem simulates_persist {count : Nat} (tidy : s.Tidy count)
    (few : count + 1 < Nat.pow 2 63)
    (space : 0 < serving.room u) {m : M.Object} {oid : M.Oid} (admits : Admits s m oid) :
    Simulates serving ρ s u (.persist m) (.persisted (m.entering s.sequence.after))
      (s.insert oid (m.entering s.sequence.after)) := by
  have counted := tidy.counted
  have small : Nat.pow 2 63 ≤ Nat.pow 2 64 := by decide
  obtain ⟨version, column, first⟩ := toColumn_of_lt (n := Version.first.number) (by decide)
  obtain ⟨numericId, v, events, run, above, last, leaves⟩ := serving.run_insert_free M.tag
    (M.oidKind.textOf oid) version (toDocument { m with version := .first })
    (h.row?_of_none admits.free) space
  have positive : 0 ≤ numericId.value := Int.le_trans h.start (Int.le_of_lt above)
  obtain ⟨n, number, value⟩ := ofColumn_of_nonneg positive
  have renumbered : (m.entering s.sequence.after).renumber (Function.update ρ s.sequence.after n) =
      { m with numericId := some n, version := .first } := by
    simp [Model.Object.renumber, Model.Object.entering, Function.update_self]
  have persisted := run_persist_of_insert admits.own admits.coherent column run number
  rw [← renumbered] at persisted
  refine ⟨Function.update ρ s.sequence.after n, v, _, ?_, run_perform persisted .persisted,
    h.add (by omega) ?_ first number value above leaves.rows last, ?_, leaves.later, leaves.room⟩
  · intro i most
    exact update_after_of_le (by omega) most ρ n
  · intro e he
    obtain ⟨i, own, -, most⟩ := tidy.numbered e he
    exact ⟨i, own, most⟩
  · intro other ne
    exact tagged_append_ne ne leaves.rows

private theorem simulates_persist_failed {m : M.Object} {failure : Failure}
    (cause : Fails s (.persist m) failure) :
    Simulates serving ρ s u (.persist m) (.failed failure) s := by
  -- Only a persist of a key that is taken gets as far as the table.
  cases cause with
  | persistWithoutOid none =>
    have failed : (persist engine m).run.run u =
        ⟨.error (.invalidState (.withoutOid M.tag)), u, []⟩ := by
      simp only [persist, Model.Object.requireOid, none]
      exact Attempt.run_bind_of_error (Attempt.run_lift _ u) _
    exact simulates_of_same h (run_perform failed .persisted) (.refl u) (Nat.zero_le 1)
  | @persistIncoherent _ oid _ own incoherent =>
    have required : m.requireOid = .ok oid := Model.Object.requireOid_eq_ok_iff.mpr own
    have failed : (persist engine m).run.run u = ⟨.error failure, u, []⟩ := by
      simp only [persist, required, incoherent]
      rw [Attempt.run_bind_of_ok (Attempt.run_lift _ u),
        Attempt.run_bind_of_error (Attempt.run_lift _ u)]
      rfl
    exact simulates_of_same h (run_perform failed .persisted) (.refl u) (Nat.zero_le 1)
  | @occupied _ stored oid own coherent there =>
    have required : m.requireOid = .ok oid := Model.Object.requireOid_eq_ok_iff.mpr own
    obtain ⟨version, column, -⟩ := toColumn_of_lt (n := Version.first.number) (by decide)
    obtain ⟨r, row, -⟩ := h.row?_of_some there
    obtain ⟨v, events, run, leaves⟩ := serving.run_insert_taken M.tag (M.oidKind.textOf oid) version
      (toDocument { m with version := .first }) row
    have failed : (persist engine m).run.run u =
        ⟨.error (.alreadyExists M.tag (M.oidKind.textOf oid)), v, events ++ []⟩ := by
      simp only [persist, required, coherent, column]
      rw [Attempt.run_bind_of_ok (Attempt.run_lift _ u),
        Attempt.run_bind_of_ok (Attempt.run_lift _ u),
        Attempt.run_bind_of_ok (Attempt.run_lift _ u), Attempt.run_bind_of_ok run]
      rfl
    exact simulates_of_same h (run_perform failed .persisted) leaves (Nat.le_refl 1)

/-- A merge that finds an object in memory finds it in its row, and goes on from there. -/
theorem run_merge_of_some {m stored : M.Object} {oid : M.Oid} (own : m.oid = some oid)
    (there : s.get? oid = some stored) : ∃ v events,
    serving.Leaves u v (serving.table u).rows 0 ∧
    ∀ outcome, (mergeInto engine (M.oidKind.textOf oid) (stored.renumber ρ) m).run.run v = outcome →
      (merge engine m).run.run u = ⟨outcome.value, outcome.state, events ++ outcome.events⟩ := by
  obtain ⟨v, events, run, leaves⟩ := run_find h oid
  have required : m.requireOid = .ok oid := Model.Object.requireOid_eq_ok_iff.mpr own
  refine ⟨v, events, leaves, ?_⟩
  rintro _ rfl
  rw [there] at run
  simp only [merge, required]
  rw [Attempt.run_bind_of_ok (Attempt.run_lift _ u), Attempt.run_bind_of_ok run]
  rfl

private theorem simulates_merge_same (conventional : M.Conventional) {m stored : M.Object}
    {oid : M.Oid}
    (meets : Meets s m oid stored) (same : stored.sameContent m = true) :
    Simulates serving ρ s u (.merge m) (.merged (.notModified stored)) s := by
  obtain ⟨v, events, leaves, run⟩ := run_merge_of_some h meets.own meets.there
  have content : (stored.renumber ρ).sameContent m = true := by
    rwa [Model.Object.sameContent, Model.Object.content_renumber conventional]
  have agrees : (stored.renumber ρ).version = m.version := meets.agrees
  have merged := run ⟨.ok (.notModified (stored.renumber ρ)), v, []⟩ (by
    simp only [mergeInto, ne_eq, agrees, not_true_eq_false, if_false, content, if_true]
    rfl)
  exact simulates_of_same h (run_perform merged .merged) leaves (Nat.zero_le 1)

/-- A merge that finds the stored version and other content puts its object in the place of the
stored one. -/
theorem run_merge_of_differs (conventional : M.Conventional) {m stored : M.Object} {oid : M.Oid}
    (meets : Meets s m oid stored) (differs : stored.sameContent m = false) : ∃ v events,
    serving.Leaves u v (serving.table u).rows 0 ∧
    ∀ outcome, (supersede engine (M.oidKind.textOf oid) (stored.renumber ρ) m).run.run v = outcome →
      (merge engine m).run.run u = ⟨outcome.value, outcome.state, events ++ outcome.events⟩ := by
  obtain ⟨v, events, leaves, run⟩ := run_merge_of_some h meets.own meets.there
  have content : (stored.renumber ρ).sameContent m = false := by
    rwa [Model.Object.sameContent, Model.Object.content_renumber conventional]
  have agrees : (stored.renumber ρ).version = m.version := meets.agrees
  refine ⟨v, events, leaves, fun outcome rest ↦ run outcome ?_⟩
  rw [← rest]
  simp only [mergeInto, ne_eq, agrees, not_true_eq_false, if_false, content]
  rfl

private theorem simulates_merge {count : Nat} (tidy : s.Tidy count) (few : count + 1 < Nat.pow 2 63)
    (conventional : M.Conventional) {m stored : M.Object} {oid : M.Oid} {version : Version}
    (succeeds : Succeeds s m oid stored version) :
    Simulates serving ρ s u (.merge m) (.merged (.updated (m.succeeding stored version)))
      (s.replace oid (m.succeeding stored version)) := by
  have limit : Nat.pow 2 63 = 0x8000000000000000 := rfl
  have there := Memory.mem_of_get? succeeds.there
  have counted : stored.version.number.val ≤ count := tidy.versions _ there
  have next := Version.number_of_next? succeeds.next
  obtain ⟨n, own⟩ : ∃ n, stored.numericId = some n :=
    Option.isSome_iff_exists.mp (tidy.consistent.fits_of_get? succeeds.there).numbered
  obtain ⟨v, events, leaves, run⟩ :=
    run_merge_of_differs h conventional succeeds.toMeets succeeds.differs
  obtain ⟨after, columnAfter, afterNumber⟩ := toColumn_of_lt (n := version.number) (by omega)
  obtain ⟨before, columnBefore, beforeNumber⟩ :=
    toColumn_of_lt (n := m.version.number) (by rw [← succeeds.agrees]; omega)
  -- The row is still there: nothing happened since it was read.
  have still := h.frame (tagged_congr leaves.rows M.tag) leaves.later
  obtain ⟨r, row, shows⟩ := still.row?_of_some succeeds.there
  have current : r.version = before :=
    ofColumn_injective
      (shows.versioned.trans (congrArg (Except.ok ∘ Version.number) succeeds.agrees)) beforeNumber
  obtain ⟨w, more, update, changed⟩ := serving.run_update M.tag (M.oidKind.textOf oid) before after
    (toDocument ((m.succeeding stored version).renumber ρ)) row current
  have coherent : (m.tracking.carryCreation (stored.renumber ρ).tracking).validate = .ok () :=
    succeeds.coherent
  have counts : m.version.tryNext = .ok version := by
    rw [← succeeds.agrees, Version.tryNext, succeeds.next]
  have made := Model.Object.succeeding_renumber (m := m) own ρ version
  rw [← made] at update
  have superseded := run_supersede_of_update coherent counts columnAfter columnBefore update
  rw [made] at superseded
  have left := leaves.trans changed
  refine ⟨ρ, w, _, fun _ _ ↦ rfl, run_perform (run _ superseded) .merged,
    still.rewrite tidy.consistent.keys succeeds.there ?_ ?_ afterNumber ⟨_, rfl⟩ changed.rows
      changed.later, ?_, left.later, Nat.le_succ_of_le left.room⟩
  · rw [Model.Object.succeeding, own]
    rfl
  · rw [succeeds.agrees]
    exact beforeNumber
  · intro other ne
    rw [tagged_congr changed.rows, tagged_rewrite_ne ne, tagged_congr leaves.rows]

private theorem simulates_merge_failed (conventional : M.Conventional) {m : M.Object}
    {failure : Failure}
    (cause : Fails s (.merge m) failure) :
    Simulates serving ρ s u (.merge m) (.failed failure) s := by
  cases cause with
  | mergeWithoutOid none =>
    have failed : (merge engine m).run.run u =
        ⟨.error (.invalidState (.withoutOid M.tag)), u, []⟩ := by
      simp only [merge, Model.Object.requireOid, none]
      exact Attempt.run_bind_of_error (Attempt.run_lift _ u) _
    exact simulates_of_same h (run_perform failed .merged) (.refl u) (Nat.zero_le 1)
  | @missing _ oid own free =>
    have required : m.requireOid = .ok oid := Model.Object.requireOid_eq_ok_iff.mpr own
    obtain ⟨v, events, run, leaves⟩ := run_find h oid
    have failed : (merge engine m).run.run u =
        ⟨.error (.notFound M.tag (M.oidKind.textOf oid)), v, events ++ []⟩ := by
      rw [free] at run
      simp only [merge, required]
      rw [Attempt.run_bind_of_ok (Attempt.run_lift _ u), Attempt.run_bind_of_ok run]
      rfl
    exact simulates_of_same h (run_perform failed .merged) leaves (Nat.zero_le 1)
  | @conflict _ stored oid own there other =>
    obtain ⟨v, events, leaves, run⟩ := run_merge_of_some h own there
    have differs : (stored.renumber ρ).version ≠ m.version := other
    have failed := run ⟨.error (.versionConflict m.version stored.version), v, []⟩ (by
      simp only [mergeInto, ne_eq, differs, not_false_eq_true, if_true]
      rfl)
    exact simulates_of_same h (run_perform failed .merged) leaves (Nat.zero_le 1)
  | @mergeIncoherent _ stored oid _ meets differs incoherent =>
    obtain ⟨v, events, leaves, run⟩ := run_merge_of_differs h conventional meets differs
    have rejected : (m.tracking.carryCreation (stored.renumber ρ).tracking).validate =
        .error failure := incoherent
    have failed := run ⟨.error failure, v, []⟩ (by
      simp only [supersede, rejected]
      exact Attempt.run_bind_of_error (Attempt.run_lift _ v) _)
    exact simulates_of_same h (run_perform failed .merged) leaves (Nat.zero_le 1)
  | @lastVersion _ stored oid meets differs coherent last =>
    obtain ⟨v, events, leaves, run⟩ := run_merge_of_differs h conventional meets differs
    have accepted : (m.tracking.carryCreation (stored.renumber ρ).tracking).validate = .ok () :=
      coherent
    have ends : m.version.tryNext = .error (.invalidState (.lastVersion stored.version)) := by
      rw [← meets.agrees, Version.tryNext, last]
    have failed := run ⟨.error (.invalidState (.lastVersion stored.version)), v, []⟩ (by
      simp only [supersede, accepted, ends]
      rw [Attempt.run_bind_of_ok (Attempt.run_lift _ v),
        Attempt.run_bind_of_error (Attempt.run_lift _ v)]
      rfl)
    exact simulates_of_same h (run_perform failed .merged) leaves (Nat.zero_le 1)

/-- Every call on the table does what it does in memory. -/
theorem simulates {count : Nat} (tidy : s.Tidy count) (few : count + 1 < Nat.pow 2 63)
    (space : 0 < serving.room u) (conventional : M.Conventional) {c : Call M} {r : Result M}
    {t : Memory M} (did : Transition s c r t) : Simulates serving ρ s u c r t := by
  cases did with
  | found oid => exact simulates_find h oid
  | contained oid => exact simulates_contains h oid
  | listed => exact simulates_findAll h tidy
  | removed oid => exact simulates_remove h oid
  | persisted admits => exact simulates_persist h tidy few space admits
  | notModified meets same => exact simulates_merge_same h conventional meets same
  | updated succeeds => exact simulates_merge h tidy few conventional succeeds
  | failed cause =>
    cases c with
    | persist m => exact simulates_persist_failed h cause
    | merge m => exact simulates_merge_failed h conventional cause
    | find | contains | findAll | remove => nomatch cause

end Relational

end VersionedStore
