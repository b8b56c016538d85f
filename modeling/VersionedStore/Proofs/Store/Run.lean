import VersionedStore.Store.Basic

/-!
# Runs of a store

A call is one operation of a store with its argument, and a step is a call with its result. A run
makes calls one after the other: `after` is the state that they leave and `history` their steps.
Laws of runs are proved call by call, `run_induction` carries them along a run. The laws of
`Attempt` say what an operation that may fail leaves, part by part.
-/

namespace VersionedStore

open Crud

/-- What follows an action goes on from where it ends. -/
theorem Crud.Action.run_bind_of {σ α β : Type} {x : Action σ α} {s t : σ} {a : α}
    {events : List Event} (h : x.run s = ⟨a, t, events⟩) (f : α → Action σ β) :
    (x >>= f).run s =
      ⟨((f a).run t).value, ((f a).run t).state, events ++ ((f a).run t).events⟩ := by
  rw [Action.run_bind, h]

/-- An action ends in a state and with a value that go together. -/
def Crud.Action.Ends {σ α : Type} (x : Action σ α) (s : σ) (P : σ → α → Prop) : Prop :=
  P (x.run s).state (x.run s).value

/-- What follows an action ends as it does from where the action ends. -/
theorem Crud.Action.Ends.bind {σ α β : Type} {x : Action σ α} {s t : σ} {a : α}
    {events : List Event} (h : x.run s = ⟨a, t, events⟩) {f : α → Action σ β}
    {P : σ → β → Prop} (rest : (f a).Ends t P) : (x >>= f).Ends s P := by
  rw [Ends, Action.run_bind_of h]
  exact rest

/-- What follows an action ends as it does from where the action ends, wherever that is. -/
theorem Crud.Action.Ends.bind_run {σ α β : Type} {x : Action σ α} {s : σ} {f : α → Action σ β}
    {P : σ → β → Prop} (rest : (f (x.run s).value).Ends (x.run s).state P) : (x >>= f).Ends s P :=
  rest

/-- What follows an action ends as it does from wherever the action may end. -/
theorem Crud.Action.Ends.andThen {σ α β : Type} {x : Action σ α} {s : σ} {f : α → Action σ β}
    {P : σ → α → Prop} {Q : σ → β → Prop} (first : x.Ends s P)
    (rest : ∀ t a, P t a → (f a).Ends t Q) : (x >>= f).Ends s Q :=
  rest _ _ first

/-- Giving the value of an action in another form ends as the action does. -/
theorem Crud.Action.Ends.map {σ α β : Type} {x : Action σ α} {s : σ} {g : α → β}
    {P : σ → β → Prop} (h : x.Ends s fun t a ↦ P t (g a)) : (do return g (← x)).Ends s P :=
  h

/-- A choice between actions ends as the chosen one does. -/
theorem Crud.Action.Ends.ite {σ α : Type} {c : Prop} [Decidable c] {x y : Action σ α} {s : σ}
    {P : σ → α → Prop} (yes : c → x.Ends s P) (no : ¬c → y.Ends s P) :
    (if c then x else y).Ends s P := by
  by_cases h : c
  · rw [if_pos h]
    exact yes h
  · rw [if_neg h]
    exact no h

namespace Attempt

variable {σ α β : Type}

/-- A result that is known leaves the state alone. -/
theorem run_lift (r : Except Failure α) (s : σ) :
    (liftM r : Attempt σ α).run.run s = ⟨r, s, []⟩ := by
  cases r <;> rfl

/-- Reading the state leaves it alone. -/
theorem run_get (s : σ) : (get : Attempt σ σ).run.run s = ⟨.ok s, s, []⟩ := rfl

private theorem run_bind (x : Attempt σ α) (f : α → Attempt σ β) (s : σ) :
    (x >>= f).run.run s =
      ⟨((ExceptT.bindCont f (x.run.run s).value).run (x.run.run s).state).value,
        ((ExceptT.bindCont f (x.run.run s).value).run (x.run.run s).state).state,
        (x.run.run s).events ++
          ((ExceptT.bindCont f (x.run.run s).value).run (x.run.run s).state).events⟩ := rfl

/-- What follows a part that succeeds goes on from there. -/
theorem run_bind_of_ok {x : Attempt σ α} {s t : σ} {a : α} {events : List Event}
    (h : x.run.run s = ⟨.ok a, t, events⟩) (f : α → Attempt σ β) :
    (x >>= f).run.run s =
      ⟨((f a).run.run t).value, ((f a).run.run t).state, events ++ ((f a).run.run t).events⟩ := by
  rw [run_bind, h]
  rfl

/-- What follows a part that fails is not done. -/
theorem run_bind_of_error {x : Attempt σ α} {s t : σ} {failure : Failure} {events : List Event}
    (h : x.run.run s = ⟨.error failure, t, events⟩) (f : α → Attempt σ β) :
    (x >>= f).run.run s = ⟨.error failure, t, events⟩ := by
  rw [run_bind, h]
  exact congrArg (Outcome.mk _ _) (List.append_nil events)

/-- One thing after another ends as the second does from where the first succeeds, or as the first
fails. -/
theorem ends_bind {x : Attempt σ α} {f : α → Attempt σ β} {s : σ}
    {P : σ → Except Failure α → Prop} {Q : σ → Except Failure β → Prop} (first : x.run.Ends s P)
    (succeeded : ∀ t a, P t (.ok a) → (f a).run.Ends t Q)
    (failed : ∀ t failure, P t (.error failure) → Q t (.error failure)) :
    (x >>= f).run.Ends s Q := by
  cases run : x.run.run s with
  | mk value t events =>
    rw [Action.Ends, run] at first
    cases value with
    | ok a =>
      rw [Action.Ends, run_bind_of_ok run]
      exact succeeded t a first
    | error failure =>
      rw [Action.Ends, run_bind_of_error run]
      exact failed t failure first

end Attempt

namespace Store

variable {M : Model} {σ : Type}

/-- A call of a store. -/
inductive Call (M : Model) where
  | find (oid : M.Oid)
  | contains (oid : M.Oid)
  | findAll
  | persist (m : M.Object)
  | merge (m : M.Object)
  | remove (oid : M.Oid)
  deriving DecidableEq

/-- Does a call ask to take in a new object? -/
def Call.isPersist : Call M → Bool
  | .persist _ => true
  | _ => false

/-- What a call gives back. -/
inductive Result (M : Model) where
  | found (m : Option M.Object)
  | contained (there : Bool)
  | listed (ms : List M.Object)
  | persisted (m : M.Object)
  | merged (r : Merged M.Object)
  | removed (m : Option M.Object)
  | failed (failure : Failure)
  deriving DecidableEq

/-- The result of a call whose operation ended this way. -/
def Result.of {α : Type} (wrap : α → Result M) : Except Failure α → Result M
  | .ok a => wrap a
  | .error failure => .failed failure

/-- The objects that a result shows as stored when the call ends; a removed object is none. -/
def Result.snapshots : Result M → List M.Object
  | .found m => m.toList
  | .listed ms => ms
  | .persisted m => [m]
  | .merged r => [r.object]
  | .contained _ | .removed _ | .failed _ => []

/-- A call with its result. -/
structure Step (M : Model) where
  call : Call M
  result : Result M
  deriving DecidableEq

/-- Make a call. -/
def perform (store : Store M σ) : Call M → Action σ (Result M)
  | .find oid => return .of .found (← (store.find oid).run)
  | .contains oid => return .of .contained (← (store.contains oid).run)
  | .findAll => return .of .listed (← store.findAll.run)
  | .persist m => return .of .persisted (← (store.persist m).run)
  | .merge m => return .of .merged (← (store.merge m).run)
  | .remove oid => return .of .removed (← (store.remove oid).run)

/-- The state that calls leave, made one after the other. -/
def after (store : Store M σ) : List (Call M) → σ → σ
  | [], s => s
  | c :: calls, s => store.after calls ((store.perform c).run s).state

/-- The steps of calls that are made one after the other. -/
def history (store : Store M σ) : List (Call M) → σ → List (Step M)
  | [], _ => []
  | c :: calls, s =>
    ⟨c, ((store.perform c).run s).value⟩ :: store.history calls ((store.perform c).run s).state

/-- Calls go on from the state that the calls before them leave. -/
theorem after_append (store : Store M σ) (calls more : List (Call M)) (s : σ) :
    store.after (calls ++ more) s = store.after more (store.after calls s) := by
  induction calls generalizing s with
  | nil => rfl
  | cons c calls ih => exact ih _

/-- The calls of the steps are the calls that were made. -/
theorem map_call_history (store : Store M σ) (calls : List (Call M)) (s : σ) :
    (store.history calls s).map Step.call = calls := by
  induction calls generalizing s with
  | nil => rfl
  | cons c calls ih => simp only [history, List.map_cons, ih]

/-- What holds at first and is kept by every call holds after every run. -/
theorem run_induction (store : Store M σ) {P : List (Step M) → σ → Prop}
    (keep : ∀ steps s c, P steps s →
      P (steps ++ [⟨c, ((store.perform c).run s).value⟩]) ((store.perform c).run s).state)
    (calls : List (Call M)) {steps : List (Step M)} {s : σ} (start : P steps s) :
    P (steps ++ store.history calls s) (store.after calls s) := by
  induction calls generalizing steps s with
  | nil => rwa [history, List.append_nil]
  | cons c calls ih =>
    have rest := ih (keep steps s c start)
    rwa [List.append_assoc] at rest

end Store

end VersionedStore
