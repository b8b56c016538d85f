import VersionedStore.Proofs.Store.Run

/-!
# Stores that keep a record

`recording` is a store that does what another does and keeps the steps that were made on it beside
the state. It mirrors the other store: seen without its record, every operation ends alike. Actions
that are put together from operations of stores that mirror each other mirror each other as well.
-/

namespace VersionedStore

open Crud

namespace Crud.Action

variable {σ τ α β : Type}

/-- From every state, one action does on a part of the state what another does on that part
alone. -/
def Mirrors (part : τ → σ) (x : Action τ α) (y : Action σ α) : Prop :=
  ∀ t, y.run (part t) = ⟨(x.run t).value, part (x.run t).state, (x.run t).events⟩

/-- Giving a value mirrors giving it. -/
theorem mirrors_pure (part : τ → σ) (a : α) : Mirrors part (pure a) (pure a) := fun _ ↦ rfl

/-- Reporting an event mirrors reporting it. -/
theorem mirrors_report (part : τ → σ) (e : Event) : Mirrors part (report e) (report e) :=
  fun _ ↦ rfl

/-- What follows actions that mirror each other may go on in actions that do. -/
theorem Mirrors.bind {part : τ → σ} {x : Action τ α} {y : Action σ α} (h : Mirrors part x y)
    {f : α → Action τ β} {g : α → Action σ β} (rest : ∀ a, Mirrors part (f a) (g a)) :
    Mirrors part (x >>= f) (y >>= g) := by
  intro t
  rw [run_bind_of (h t), run_bind, rest]

/-- A choice between actions mirrors the same choice. -/
theorem Mirrors.ite {part : τ → σ} {c : Prop} [Decidable c] {x x' : Action τ α}
    {y y' : Action σ α} (yes : Mirrors part x y) (no : Mirrors part x' y') :
    Mirrors part (if c then x else x') (if c then y else y') := by
  by_cases h : c
  · rwa [if_pos h, if_pos h]
  · rwa [if_neg h, if_neg h]

end Crud.Action

open Crud.Action (Mirrors)

namespace Store

variable {M : Model} {σ τ : Type}

/-- Each operation of a store mirrors that of another. -/
structure Mirrors (part : τ → σ) (whole : Store M τ) (store : Store M σ) : Prop where
  find : ∀ oid, Action.Mirrors part (whole.find oid).run (store.find oid).run
  contains : ∀ oid, Action.Mirrors part (whole.contains oid).run (store.contains oid).run
  findAll : Action.Mirrors part whole.findAll.run store.findAll.run
  persist : ∀ m, Action.Mirrors part (whole.persist m).run (store.persist m).run
  merge : ∀ m, Action.Mirrors part (whole.merge m).run (store.merge m).run
  remove : ∀ oid, Action.Mirrors part (whole.remove oid).run (store.remove oid).run

/-- Make an attempt, and keep it on the record as a call with its result. -/
def recorded {α : Type} (call : Call M) (wrap : α → Result M) (x : Attempt σ α) :
    Attempt (σ × List (Step M)) α :=
  ExceptT.mk <| Action.of fun s ↦
    let outcome := x.run.run s.1
    ⟨outcome.value, (outcome.state, s.2 ++ [⟨call, .of wrap outcome.value⟩]), outcome.events⟩

/-- The store that keeps the steps made on it beside the state. -/
def recording (store : Store M σ) : Store M (σ × List (Step M)) where
  find oid := recorded (.find oid) .found (store.find oid)
  contains oid := recorded (.contains oid) .contained (store.contains oid)
  findAll := recorded .findAll .listed store.findAll
  persist m := recorded (.persist m) .persisted (store.persist m)
  merge m := recorded (.merge m) .merged (store.merge m)
  remove oid := recorded (.remove oid) .removed (store.remove oid)

/-- A recorded attempt ends as the attempt does, with one step more on the record. -/
theorem run_recorded {α : Type} {x : Attempt σ α} {s t : σ} {value : Except Failure α}
    {events : List Event} (h : x.run.run s = ⟨value, t, events⟩) (call : Call M)
    (wrap : α → Result M) (steps : List (Step M)) :
    (recorded call wrap x).run.run (s, steps) =
      ⟨value, (t, steps ++ [⟨call, .of wrap value⟩]), events⟩ := by
  have run : (recorded call wrap x).run.run (s, steps) = ⟨(x.run.run s).value,
    ((x.run.run s).state, steps ++ [⟨call, .of wrap (x.run.run s).value⟩]),
    (x.run.run s).events⟩ := rfl
  rw [run, h]

private theorem mirrors_recorded {α : Type} (call : Call M) (wrap : α → Result M)
    (x : Attempt σ α) : Action.Mirrors Prod.fst (recorded call wrap x).run x.run := fun _ ↦ rfl

/-- A store that keeps a record mirrors the store. -/
theorem mirrors_recording (store : Store M σ) : Mirrors Prod.fst store.recording store where
  find _ := mirrors_recorded _ _ _
  contains _ := mirrors_recorded _ _ _
  findAll := mirrors_recorded _ _ _
  persist _ := mirrors_recorded _ _ _
  merge _ := mirrors_recorded _ _ _
  remove _ := mirrors_recorded _ _ _

end Store

end VersionedStore
