import Mathlib.Logic.Function.Basic
import VersionedStore.Proofs.Store.Run
import VersionedStore.Store.Memory

/-!
# Several stores over one state

Stores for several models may share a state, as those over one table do, or have a part of it each,
as memories do. A run of a family of stores makes calls of any of them, one after the other.
-/

namespace VersionedStore

open Crud

namespace Store

variable {M : Model} {σ τ : Type}

/-- The store over one part of a larger state. -/
def focus (part : τ → σ) (put : τ → σ → τ) (store : Store M σ) : Store M τ where
  find oid := ExceptT.mk ((store.find oid).run.focus part put)
  contains oid := ExceptT.mk ((store.contains oid).run.focus part put)
  findAll := ExceptT.mk (store.findAll.run.focus part put)
  persist m := ExceptT.mk ((store.persist m).run.focus part put)
  merge m := ExceptT.mk ((store.merge m).run.focus part put)
  remove oid := ExceptT.mk ((store.remove oid).run.focus part put)

private theorem perform_focus (part : τ → σ) (put : τ → σ → τ) (store : Store M σ) (c : Call M) :
    (store.focus part put).perform c = (store.perform c).focus part put := by
  cases c <;> rfl

variable {ι : Type}

/-- Stores for several models over one state. -/
abbrev Family (models : ι → Model) (σ : Type) : Type := (i : ι) → Store (models i) σ

/-- A call of the store for one of several models. -/
structure FamilyCall (models : ι → Model) where
  which : ι
  call : Call (models which)

/-- A call of the store for one of several models, with its result. -/
structure FamilyStep (models : ι → Model) where
  which : ι
  step : Step (models which)

namespace Family

variable {models : ι → Model}

/-- The state that calls leave, made one after the other. -/
def after (stores : Family models σ) : List (FamilyCall models) → σ → σ
  | [], s => s
  | ⟨i, c⟩ :: calls, s => after stores calls (((stores i).perform c).run s).state

/-- The steps of calls that are made one after the other. -/
def history (stores : Family models σ) : List (FamilyCall models) → σ → List (FamilyStep models)
  | [], _ => []
  | ⟨i, c⟩ :: calls, s =>
    ⟨i, c, (((stores i).perform c).run s).value⟩ ::
      history stores calls (((stores i).perform c).run s).state

end Family

end Store

namespace Memory

variable {ι : Type} [DecidableEq ι]

/-- A memory for each of several models, and the store over it. -/
def family (models : ι → Model) : Store.Family models ((i : ι) → Memory (models i)) :=
  fun i ↦ (store (models i)).focus (fun s ↦ s i) (Function.update · i)

/-- A call of one of several memories leaves the others alone. -/
theorem run_perform_family {models : ι → Model} (i : ι) (c : Store.Call (models i))
    (s : (i : ι) → Memory (models i)) :
    ((family models i).perform c).run s =
      ⟨(((store (models i)).perform c).run (s i)).value,
        Function.update s i (((store (models i)).perform c).run (s i)).state,
        (((store (models i)).perform c).run (s i)).events⟩ := by
  rw [family, Store.perform_focus]
  rfl

/-- What further calls leave after a call of one of several memories. -/
theorem after_family {models : ι → Model} (i : ι) (c : Store.Call (models i))
    (calls : List (Store.FamilyCall models)) (s : (i : ι) → Memory (models i)) :
    Store.Family.after (family models) (⟨i, c⟩ :: calls) s =
      Store.Family.after (family models) calls
        (Function.update s i (((store (models i)).perform c).run (s i)).state) := by
  rw [Store.Family.after, run_perform_family]

/-- The steps of a call of one of several memories and of further calls. -/
theorem history_family {models : ι → Model} (i : ι) (c : Store.Call (models i))
    (calls : List (Store.FamilyCall models)) (s : (i : ι) → Memory (models i)) :
    Store.Family.history (family models) (⟨i, c⟩ :: calls) s =
      ⟨i, c, (((store (models i)).perform c).run (s i)).value⟩ ::
        Store.Family.history (family models) calls
          (Function.update s i (((store (models i)).perform c).run (s i)).state) := by
  rw [Store.Family.history, run_perform_family]

end Memory

end VersionedStore
