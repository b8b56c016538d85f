import VersionedStore.Store.Basic

/-!
# A store that fails on demand

Failures wait for operations of a store: the next call of the operation fails and does nothing else.
Whether an object is there is found out by looking for it, so that fails together with finding.
-/

namespace VersionedStore

open Crud

/-- The operations of a store that can be made to fail. -/
inductive StoreOperation where
  | find
  | findAll
  | persist
  | merge
  | remove
  deriving DecidableEq, Repr

/-- A state with the failures that wait for operations. -/
structure Faulty (σ : Type) where
  state : σ
  faults : List (StoreOperation × Failure)

namespace Faulty

variable {σ : Type}

/-- The first failure that waits for an operation, and the others. -/
def takeFault (operation : StoreOperation) :
    List (StoreOperation × Failure) → Option Failure × List (StoreOperation × Failure)
  | [] => (none, [])
  | (o, f) :: rest =>
    if o = operation then (some f, rest)
    else
      let (found, others) := takeFault operation rest
      (found, (o, f) :: others)

/-- Run an attempt unless a failure waits for its operation. -/
def guarded {α : Type} (operation : StoreOperation) (x : Attempt σ α) : Attempt (Faulty σ) α :=
  ExceptT.mk <| Action.of fun s ↦
    match takeFault operation s.faults with
    | (some failure, faults) => ⟨.error failure, { s with faults }, []⟩
    | (none, _) => (Action.focus Faulty.state (fun s state ↦ { s with state }) x.run).run s

/-- The operations of a store that fails on demand. -/
def store {M : Model} (inner : Store M σ) : Store M (Faulty σ) where
  find oid := guarded .find (inner.find oid)
  contains := containsByFind fun oid ↦ guarded .find (inner.find oid)
  findAll := guarded .findAll inner.findAll
  persist m := guarded .persist (inner.persist m)
  merge m := guarded .merge (inner.merge m)
  remove oid := guarded .remove (inner.remove oid)

end Faulty

end VersionedStore
