import VersionedStore.Proofs.Service.Visits

/-!
# What a log of visits tells

Things are taken one after the other; `history` keeps each with what was given for it. For visits to
services over the store in memory, `performed?` reads off what was done with an OID, and `Touches`
says what that means for the object under it: of all that a visit may do, only a creation, an update
and a deletion that are reported leave anything else there.
-/

namespace VersionedStore

open Crud

namespace Crud

/-- Does the operation begin or end the life of an object? -/
def Performed.boundsLife : Performed → Bool
  | .created | .deleted => true
  | .updated | .loaded | .notModified => false

/-- What begins or ends a life is a write. -/
theorem Performed.isWrite_of_boundsLife {p : Performed} (h : p.boundsLife = true) :
    p.isWrite = true := by
  cases p with
  | created | deleted => rfl
  | updated | loaded | notModified => cases h

namespace Action

variable {σ ι α : Type}

/-- Something that was asked for, and what was given. -/
structure Turn (ι α : Type) where
  asked : ι
  given : α

/-- The turns of things that are taken one after the other. -/
def history (take : ι → Action σ α) : List ι → σ → List (Turn ι α)
  | [], _ => []
  | i :: rest, s => ⟨i, ((take i).run s).value⟩ :: history take rest ((take i).run s).state

/-- The state that is left when things have been taken one after the other. -/
def after (take : ι → Action σ α) : List ι → σ → σ
  | [], s => s
  | i :: rest, s => after take rest ((take i).run s).state

private theorem history_induction_from {take : ι → Action σ α} {P : List (Turn ι α) → σ → Prop}
    (keep : ∀ turns s i, P turns s → (take i).Ends s fun t a ↦ P (turns ++ [⟨i, a⟩]) t)
    (asked : List ι) {turns : List (Turn ι α)} {s : σ} (start : P turns s) :
    P (turns ++ history take asked s) (after take asked s) := by
  induction asked generalizing turns s with
  | nil => rwa [history, List.append_nil]
  | cons i rest ih =>
    have further := ih (keep turns s i start)
    rwa [List.append_assoc] at further

/-- What holds at first and is kept whenever something is taken holds of the whole history. -/
theorem history_induction {take : ι → Action σ α} {P : List (Turn ι α) → σ → Prop} {s : σ}
    (start : P [] s)
    (keep : ∀ turns s i, P turns s → (take i).Ends s fun t a ↦ P (turns ++ [⟨i, a⟩]) t)
    (asked : List ι) : P (history take asked s) (after take asked s) :=
  history_induction_from keep asked start

/-- What the turns of a history asked for has been asked. -/
theorem asked_mem_of_mem_history {take : ι → Action σ α} {asked : List ι} {s : σ} {turn : Turn ι α}
    (h : turn ∈ history take asked s) : turn.asked ∈ asked := by
  induction asked generalizing s with
  | nil => cases h
  | cons i rest ih =>
    cases h with
    | head => exact List.mem_cons_self
    | tail _ later => exact List.mem_cons_of_mem i (ih later)

end Action

end Crud

/-- The last element of a list with a property, and the elements after it. -/
structure LastWith {α : Type} (p : α → Bool) (as : List α) (a : α) (later : List α) : Prop where
  split : ∃ before, as = before ++ a :: later
  holds : p a = true
  last : ∀ b ∈ later, p b = false

/-- The last element with a property is one of the list. -/
theorem LastWith.mem {α : Type} {p : α → Bool} {as later : List α} {a : α}
    (h : LastWith p as a later) : a ∈ as := by
  obtain ⟨before, rfl⟩ := h.split
  exact List.mem_append_right before List.mem_cons_self

/-- An element with the property is the last one where it has just been added. -/
theorem LastWith.concat {α : Type} {p : α → Bool} (as : List α) {a : α} (holds : p a = true) :
    LastWith p (as ++ [a]) a [] :=
  ⟨⟨as, rfl⟩, holds, by simp⟩

/-- The last element with the property stays the last one when one without it is added. -/
theorem LastWith.append {α : Type} {p : α → Bool} {as later : List α} {a b : α}
    (h : LastWith p as a later) (other : p b = false) :
    LastWith p (as ++ [b]) a (later ++ [b]) where
  split := by
    obtain ⟨before, rfl⟩ := h.split
    exact ⟨before, by simp⟩
  holds := h.holds
  last := by
    intro c hc
    rcases List.mem_append.mp hc with old | new
    · exact h.last c old
    · rwa [List.mem_singleton.mp new]

namespace Service

open Crud.Action (Turn after history)
open Memory (Consistent)

variable {M : Model}

/-- What was given says that the store was changed. -/
def Given.isWrite : Given M → Bool
  | .reply (.ok answer) => answer.isWrite
  | .reply (.error _) | .listing _ => false

/-- What was done with an OID, according to what was given. -/
def Given.performed? (oid : M.Oid) : Given M → Option Performed
  | .reply (.ok (.done success)) =>
    if success.object.oid = some oid then some success.performed else none
  | .reply (.ok (.rejected _)) | .reply (.error _) | .listing _ => none

/-- Was one of these operations done with an OID in a turn? -/
def did (oid : M.Oid) (kind : Performed → Bool) (turn : Turn (Visit M) (Given M)) : Bool :=
  (turn.given.performed? oid).any kind

/-- Something was done with an OID when a request was served with an object that has it. -/
theorem Given.performed?_eq_some_iff {oid : M.Oid} {given : Given M} {performed : Performed} :
    given.performed? oid = some performed ↔ ∃ success, given = .reply (.ok (.done success)) ∧
      success.object.oid = some oid ∧ success.performed = performed := by
  match given with
  | .listing _ | .reply (.error _) | .reply (.ok (.rejected _)) => simp [performed?]
  | .reply (.ok (.done success)) => simp [performed?]

/-- In a turn, an OID was used as the turn tells. -/
theorem did_eq {oid : M.Oid} {v : Visit M} {given : Given M} {performed : Option Performed}
    (told : given.performed? oid = performed) (kind : Performed → Bool) :
    did oid kind ⟨v, given⟩ = performed.any kind := by
  rw [did, told]

/-- In a turn without a write, nothing was done with an OID that only writes do. -/
theorem did_eq_false {oid : M.Oid} {v : Visit M} {given : Given M} {kind : Performed → Bool}
    (idle : (given.performed? oid).any Performed.isWrite = false)
    (writes : ∀ p, kind p = true → p.isWrite = true) : did oid kind ⟨v, given⟩ = false := by
  cases told : given.performed? oid with
  | none => exact did_eq told kind
  | some p =>
    rw [told] at idle
    rw [did_eq told kind]
    apply Bool.eq_false_iff.mpr
    intro kinds
    exact absurd (writes p kinds) (Bool.eq_false_iff.mp idle)

/-- What answering a visit does: the store that it leaves and what it gives. -/
inductive Attends (v : Visit M) (s : Memory M) : Memory M → Given M → Prop
  | served {request : Request M} {t : Memory M} {reply : Reply M.Object}
      (task : v.task = .serve request)
      (serves : Serves v.validate v.caller v.moment s request t reply) :
      Attends v s t (.reply reply)
  | listed (all : Except ServiceError (List M.Object)) : Attends v s s (.listing all)

/-- Every visit is answered. -/
theorem attends_answer (v : Visit M) (s : Memory M) :
    (v.answer (Memory.store M)).Ends s (Attends v s) := by
  obtain ⟨settings, validate, caller, moment, task⟩ := v
  cases task with
  | serve request =>
    exact .served rfl (serves_serve settings validate caller moment request s)
  | loadAll => exact .listed _

variable {v : Visit M} {s t : Memory M} {given : Given M}

/-- Answering a visit keeps a store consistent. -/
theorem Attends.consistent (h : Attends v s t given) (consistent : Consistent s) :
    Consistent t := by
  cases h with
  | served _ serves => exact serves.consistent consistent
  | listed => exact consistent

/-- A visit that is not given a write leaves the store alone. -/
theorem Attends.same (h : Attends v s t given) (idle : given.isWrite = false) : t = s := by
  cases h with
  | listed => rfl
  | served _ serves =>
    cases serves with
    | refused | rejected | invalid | loaded | notModified => rfl
    | created | updated | deleted => cases idle

/-- What a visit does to the object under an OID when it is given this about it. -/
inductive Touches (v : Visit M) : Option M.Object → Option Performed → Option M.Object → Prop
  | spared {found : Option M.Object} {performed : Option Performed}
      (idle : performed.any Performed.isWrite = false) : Touches v found performed found
  | created (m : M.Object) (numericId : Word 64) :
      Touches v none (some .created)
        (some ((m.stampedNew v.caller v.moment.now).entering numericId))
  | updated (m : M.Object) {stored : M.Object} {version : Version}
      (next : stored.version.next? = some version) :
      Touches v (some stored) (some .updated)
        (some ((m.stampedChanged v.caller v.moment.now).succeeding stored version))
  | deleted {stored : M.Object} : Touches v (some stored) (some .deleted) none

section

variable {validate : M.Object → List Violation} {caller : Caller} {moment : Moment}
  {request : Request M} {reply : Reply M.Object}

/-- A request is served with an object that has the OID of the request. -/
theorem Serves.own {success : Success M.Object}
    (h : Serves validate caller moment s request t (.ok (.done success)))
    (consistent : Consistent s) : success.object.oid = some (request.oid moment) :=
  (Memory.get?_of_accounts consistent.keys (h.accounts consistent)).1

private theorem Serves.performed?_self {success : Success M.Object}
    (h : Serves validate caller moment s request t (.ok (.done success)))
    (consistent : Consistent s) :
    (Given.reply (.ok (.done success))).performed? (request.oid moment) =
      some success.performed :=
  if_pos (h.own consistent)

private theorem Serves.performed?_ne (h : Serves validate caller moment s request t reply)
    (consistent : Consistent s) {oid : M.Oid} (other : oid ≠ request.oid moment) :
    (Given.reply reply).performed? oid = none := by
  match reply, h with
  | .error _, _ | .ok (.rejected _), _ => rfl
  | .ok (.done success), h =>
    apply if_neg
    rw [h.own consistent]
    exact fun same ↦ other (Option.some.inj same).symm

/-- The object under an OID that is not the one of the request stays. -/
theorem Serves.get?_ne (h : Serves validate caller moment s request t reply) {oid : M.Oid}
    (other : oid ≠ request.oid moment) : t.get? oid = s.get? oid := by
  cases h with
  | refused | rejected | invalid | loaded | notModified => rfl
  | created => exact Memory.get?_insert_ne _ other
  | updated => exact Memory.get?_replace_ne other
  | deleted => exact Memory.get?_erase_ne other

end

/-- A visit touches the object under each OID as what it is given says. -/
theorem Attends.touches (h : Attends v s t given) (consistent : Consistent s) (oid : M.Oid) :
    Touches v (s.get? oid) (given.performed? oid) (t.get? oid) := by
  cases h with
  | listed => exact .spared rfl
  | @served request _ _ _ serves =>
    by_cases same : oid = request.oid v.moment
    · subst same
      have here {success : Success M.Object} {t : Memory M}
          (h : Serves v.validate v.caller v.moment s request t (.ok (.done success))) :=
        h.performed?_self consistent
      cases serves with
      | refused | rejected | invalid => exact .spared rfl
      | loaded there =>
        rw [Answer.loaded, here (.loaded there)]
        exact .spared rfl
      | notModified sent valid meets content =>
        rw [Answer.notModified, here (.notModified sent valid meets content)]
        exact .spared rfl
      | created requested sent valid admits =>
        rw [Answer.created, here (.created requested sent valid admits), admits.free,
          Memory.get?_insert_self _ admits.free]
        exact .created _ _
      | updated sent valid succeeds =>
        rw [Answer.updated, here (.updated sent valid succeeds), succeeds.there,
          succeeds.get?_replace]
        exact .updated _ succeeds.next
      | deleted there =>
        rw [Answer.deleted, here (.deleted there), there, Memory.get?_erase_self]
        exact .deleted
    · rw [serves.performed?_ne consistent same, serves.get?_ne same]
      exact .spared rfl

end Service

end VersionedStore
