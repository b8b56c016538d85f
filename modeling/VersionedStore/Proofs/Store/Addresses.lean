import VersionedStore.Proofs.Memory.Invariant

/-!
# Objects lie under their own OIDs

A store `Addresses` its objects if what it gives for an OID is an object with this OID, and what it
gives for an object has the OID of the object. That may depend on what is in the store; the store in
memory does so as long as it is consistent.
-/

namespace VersionedStore

open Crud

variable {M : Model} {σ : Type}

/-- From states of which something holds, a store gives objects under their own OIDs, and it leaves
such states. -/
structure Store.Addresses (store : Store M σ) (good : σ → Prop) : Prop where
  find : ∀ oid s, good s → (store.find oid).run.Ends s fun t r ↦
    good t ∧ ∀ m, r = .ok (some m) → m.oid = some oid
  contains : ∀ oid s, good s → (store.contains oid).run.Ends s fun t _ ↦ good t
  findAll : ∀ s, good s → store.findAll.run.Ends s fun t _ ↦ good t
  persist : ∀ m s, good s → (store.persist m).run.Ends s fun t r ↦
    good t ∧ ∀ stored, r = .ok stored → stored.oid = m.oid
  merge : ∀ m s, good s → (store.merge m).run.Ends s fun t r ↦
    good t ∧ ∀ merged, r = .ok merged → merged.object.oid = m.oid
  remove : ∀ oid s, good s → (store.remove oid).run.Ends s fun t r ↦
    good t ∧ ∀ m, r = .ok (some m) → m.oid = some oid

namespace Memory

/-- What is found in a consistent store has the OID under which it lies. -/
theorem Consistent.oid_of_get? {s : Memory M} (consistent : Consistent s) {oid : M.Oid}
    {m : M.Object} (found : (.ok (s.get? oid) : Except Failure _) = .ok (some m)) :
    m.oid = some oid :=
  (consistent.fits_of_get? (Except.ok.inj found)).own

/-- The store in memory gives objects under their own OIDs as long as it is consistent. -/
theorem addresses_store (M : Model) : (store M).Addresses Consistent where
  find oid s consistent := ⟨consistent, fun _ found ↦ consistent.oid_of_get? found⟩
  contains _ _ consistent := consistent
  findAll _ consistent := consistent
  persist m s consistent := by
    show (persist m).run.Ends s _
    obtain ⟨failure, -, h⟩ | ⟨oid, admits, h⟩ := persist_cases m s
    · rw [Action.Ends, h]
      refine ⟨consistent, ?_⟩
      rintro _ ⟨⟩
    · rw [Action.Ends, h]
      refine ⟨consistent_insert consistent admits.free (admits.fits _), ?_⟩
      rintro _ ⟨⟩
      rfl
  merge m s consistent := by
    show (merge m).run.Ends s _
    obtain ⟨failure, -, h⟩ | ⟨oid, stored, meets, -, h⟩ | ⟨oid, stored, version, succeeds, h⟩ :=
      merge_cases m s
    · rw [Action.Ends, h]
      refine ⟨consistent, ?_⟩
      rintro _ ⟨⟩
    · rw [Action.Ends, h]
      refine ⟨consistent, ?_⟩
      rintro _ ⟨⟩
      exact (consistent.fits_of_get? meets.there).own.trans meets.own.symm
    · rw [Action.Ends, h]
      have fits := succeeds.fits (consistent.fits_of_get? succeeds.there)
      refine ⟨consistent_replace consistent fits, ?_⟩
      rintro _ ⟨⟩
      rfl
  remove oid s consistent :=
    ⟨consistent_erase consistent oid, fun _ found ↦ consistent.oid_of_get? found⟩

end Memory

end VersionedStore
