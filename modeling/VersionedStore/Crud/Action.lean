import VersionedStore.Crud.Event

/-!
# Actions

An action is a step over a state: from a state it gives a value, the next state and the events that
it reports. Actions are run one after the other; their events are joined in that order.
-/

namespace VersionedStore.Crud

universe u

/-- What a step leaves behind. -/
structure Outcome (σ : Type u) (α : Type) where
  value : α
  state : σ
  events : List Event

/-- A step over a state. -/
def Action (σ α : Type) : Type := σ → Outcome σ α

namespace Action

variable {σ α β : Type}

/-- Run an action from a state. -/
def run (x : Action σ α) (s : σ) : Outcome σ α := x s

/-- The action of a function from states to outcomes. -/
def of (f : σ → Outcome σ α) : Action σ α := f

/-- Leave the state alone and report nothing. -/
def done (a : α) : Action σ α := of fun s ↦ ⟨a, s, []⟩

/-- Run one action and then another that knows its value. -/
def andThen (x : Action σ α) (f : α → Action σ β) : Action σ β := of fun s ↦
  let first := x.run s
  let second := (f first.value).run first.state
  ⟨second.value, second.state, first.events ++ second.events⟩

instance : Monad (Action σ) where
  pure := done
  bind := andThen

/-- Report an event. -/
def report (e : Event) : Action σ Unit := of fun s ↦ ⟨(), s, [e]⟩

instance : MonadStateOf σ (Action σ) where
  get := of fun s ↦ ⟨s, s, []⟩
  set s := of fun _ ↦ ⟨(), s, []⟩
  modifyGet f := of fun s ↦ ⟨(f s).1, (f s).2, []⟩

/-- An action on one part of a state. -/
def focus {τ : Type} (part : σ → τ) (put : σ → τ → σ) (x : Action τ α) : Action σ α := of fun s ↦
  let o := x.run (part s)
  ⟨o.value, put s o.state, o.events⟩

/-- Doing nothing leaves nothing behind but its value. -/
@[simp]
theorem run_pure (a : α) (s : σ) : (pure a : Action σ α).run s = ⟨a, s, []⟩ := rfl

/-- Running two actions joins their events. -/
@[simp]
theorem run_bind (x : Action σ α) (f : α → Action σ β) (s : σ) :
    (x >>= f).run s =
      ⟨((f (x.run s).value).run (x.run s).state).value,
        ((f (x.run s).value).run (x.run s).state).state,
        (x.run s).events ++ ((f (x.run s).value).run (x.run s).state).events⟩ := rfl

/-- Reporting an event leaves the state alone. -/
@[simp]
theorem run_report (e : Event) (s : σ) : (report e).run s = ⟨(), s, [e]⟩ := rfl

/-- Reading the state leaves it alone. -/
@[simp]
theorem run_get (s : σ) : (get : Action σ σ).run s = ⟨s, s, []⟩ := rfl

instance : LawfulMonad (Action σ) := LawfulMonad.mk' (Action σ)
  (fun _ ↦ by
    funext s
    exact congrArg (Outcome.mk _ _) (List.append_nil _))
  (fun _ _ ↦ rfl)
  (fun _ _ _ ↦ by
    funext s
    exact congrArg (Outcome.mk _ _) (List.append_assoc _ _ _))

end Action

end VersionedStore.Crud
