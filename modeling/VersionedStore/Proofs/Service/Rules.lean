import VersionedStore.Proofs.Registry.Message
import VersionedStore.Proofs.Service.Log

/-!
# Only valid objects are stored

Rules that look at the OID and the own fields of an object alone hold of the stored object when they
hold of the submitted one: stamps, versions and numeric ids do not touch what the rules see. So all
objects in a store that is written by services with such rules obey them, and what is rejected is
told exactly the rules that it breaks.
-/

namespace VersionedStore

open Crud

universe u

/-- Rules whose conditions look only at the OID and the own fields of an object. -/
structure OwnRules (M : Model) (L : Type u) where
  rules : RuleSet L
  truth : M.Object → L → Bool
  blind : ∀ m n : M.Object, m.oid = n.oid → m.own = n.own → truth m = truth n

namespace OwnRules

variable {M : Model} {L : Type u}

/-- The violations of the rules that an object breaks. -/
def validate (o : OwnRules M L) (m : M.Object) : List Violation := o.rules.check (o.truth m)

/-- An object breaks no rule. -/
def Allows (o : OwnRules M L) (m : M.Object) : Prop := o.validate m = []

/-- The rules allow what differs in metadata only from what they allow. -/
theorem Allows.congr {o : OwnRules M L} {m n : M.Object} (allowed : o.Allows m)
    (oid : n.oid = m.oid) (own : n.own = m.own) : o.Allows n := by
  rw [Allows, validate, o.blind n m oid own]
  exact allowed

end OwnRules

/-- The violations for which a request is rejected in a reply. -/
def Reply.violations? {α : Type} : Reply α → Option (List Violation)
  | .ok (.rejected r) => r.reason.violations?
  | .ok (.done _) | .error _ => none

private theorem Reply.violations?_toDocument {α : Type} [Coded α] (r : Reply α) :
    r.toDocument.violations? = r.violations? := by
  match r with
  | .error _ | .ok (.done _) | .ok (.rejected _) => rfl

namespace Service

open Crud.Action (Turn after history)
open Memory (AllObjects noteA noteB submitted)

variable {M : Model}

/-- What is asked of a service: a request, or a message. -/
inductive Ask (M : Model) where
  | request (request : Request M)
  | message (message : Message)

/-- Something that is asked of a service with these settings, at a moment. -/
structure Errand (M : Model) where
  settings : Settings
  caller : Caller
  moment : Moment
  ask : Ask M

/-- What is heard from a service: a reply with objects, or with their documents. -/
inductive Heard (M : Model) where
  | objects (reply : Reply M.Object)
  | documents (reply : Reply Document)

/-- The violations for which something is rejected. -/
def Heard.violations? : Heard M → Option (List Violation)
  | .objects reply => reply.violations?
  | .documents reply => reply.violations?

namespace Errand

/-- Do an errand at a service over the store in memory. -/
def answer (validate : M.Object → List Violation) (e : Errand M) : Action (Memory M) (Heard M) :=
  let service := inMemory M e.settings validate
  match e.ask with
  | .request request => return .objects (← service.serve e.caller e.moment request)
  | .message message => return .documents (← service.answerMessage e.caller e.moment message)

/-- The request that an errand stands for. -/
def request? (e : Errand M) : Option (Request M) :=
  match e.ask with
  | .request request => some request
  | .message message => message.request? M

/-- The object that an errand submits, with the OID that it is about. -/
def submitted? (e : Errand M) : Option M.Object := e.request?.bind (Request.submitted? e.moment)

/-- The service that an errand goes to, registered with a store. -/
def registration (validate : M.Object → List Violation) (e : Errand M) (s : Memory M) :
    Registration :=
  ⟨M, Memory M, inMemory M e.settings validate, s⟩

/-- A registry to which the message of an errand is sent does the errand on the registered store. -/
theorem send_of_registered {validate : M.Object → List Violation} {e : Errand M}
    {message : Message} (asks : e.ask = .message message) {registry : Registry} {s : Memory M}
    (there : registry.get? M.tag = some (e.registration validate s)) :
    let sent := registry.send M.tag e.caller e.moment message
    let done := (e.answer validate).run s
    done.value = .documents sent.value ∧
    sent.state.get? M.tag = some (e.registration validate done.state) := by
  obtain ⟨settings, caller, moment, ask⟩ := e
  cases asks
  intro sent done
  have answered := Registry.send_of_registered there caller moment message
  constructor
  · exact congrArg (fun o ↦ Heard.documents o.value) answered.symm
  · rw [congrArg Outcome.state answered]
    exact Registry.get?_put_self _ _ _

/-- What doing an errand does: the store that it leaves and what is heard. -/
inductive Does (validate : M.Object → List Violation) (e : Errand M) (s : Memory M) :
    Memory M → Heard M → Prop
  | served {request : Request M} {t : Memory M} {reply : Reply M.Object} {heard : Heard M}
      (stands : e.request? = some request)
      (serves : Serves validate e.caller e.moment s request t reply)
      (told : heard.violations? = reply.violations?) : Does validate e s t heard
  | malformed {heard : Heard M} (other : heard.violations? = none) : Does validate e s s heard

/-- Every errand is done. -/
theorem does_answer (validate : M.Object → List Violation) (e : Errand M) (s : Memory M) :
    (e.answer validate).Ends s (Does validate e s) := by
  obtain ⟨settings, caller, moment, ask⟩ := e
  cases ask with
  | request request =>
    exact .served rfl (serves_serve settings validate caller moment request s) rfl
  | message message =>
    cases read : message.request? M with
    | some request =>
      simp only [answer]
      rw [answerMessage_of_request read]
      refine .served read (serves_serve settings validate caller moment request s) ?_
      exact Reply.violations?_toDocument _
    | none =>
      obtain ⟨requested, oid, reason, events, run⟩ := run_answerMessage_of_none read
        (inMemory M settings validate) caller moment s
      exact .bind run (.malformed rfl)

end Errand

section

variable {L : Type u} {own : OwnRules M L} {caller : Caller} {moment : Moment}
  {request : Request M} {s t : Memory M} {reply : Reply M.Object}

/-- Serving a request keeps all stored objects valid. -/
theorem Serves.valid (h : Serves own.validate caller moment s request t reply)
    (valid : AllObjects own.Allows s) : AllObjects own.Allows t := by
  cases h with
  | refused | rejected | invalid | loaded | notModified => exact valid
  | created _ _ allowed => exact valid.insert _ (OwnRules.Allows.congr allowed rfl rfl)
  | updated _ allowed => exact valid.replace _ (OwnRules.Allows.congr allowed rfl rfl)
  | deleted => exact valid.erase _

/-- A request is rejected as invalid with the violations of the object that it submits. -/
theorem Serves.violations (h : Serves own.validate caller moment s request t reply)
    {violations : List Violation} (told : reply.violations? = some violations) :
    ∃ m, request.submitted? moment = some m ∧ violations = own.validate m ∧ violations ≠ [] := by
  cases h with
  | refused | loaded | created | notModified | updated | deleted => cases told
  | rejected other => cases other.symm.trans told
  | @invalid m r sent broken reason =>
    have said : r.reason.violations? = some violations := told
    rw [reason] at said
    obtain rfl : own.validate m = violations := Option.some.inj said
    exact ⟨m, sent, rfl, broken⟩

/-- Doing an errand keeps all stored objects valid. -/
theorem Errand.Does.valid {e : Errand M} {heard : Heard M} (h : e.Does own.validate s t heard)
    (valid : AllObjects own.Allows s) : AllObjects own.Allows t := by
  cases h with
  | served _ serves => exact serves.valid valid
  | malformed => exact valid

/-- An errand is rejected as invalid with the violations of the object that it submits. -/
theorem Errand.Does.violations {e : Errand M} {heard : Heard M} (h : e.Does own.validate s t heard)
    {violations : List Violation} (told : heard.violations? = some violations) :
    ∃ m, e.submitted? = some m ∧ violations = own.validate m ∧ violations ≠ [] := by
  cases h with
  | malformed other => cases other.symm.trans told
  | served stands serves same =>
    obtain ⟨m, sent, violated⟩ := serves.violations (same.symm.trans told)
    refine ⟨m, ?_, violated⟩
    rw [Errand.submitted?, stands, Option.bind_some, sent]

end

/-- Errands keep all stored objects valid, and are rejected as invalid with the violations of the
objects that they submit. -/
theorem valid_after {L : Type u} (own : OwnRules M L) (errands : List (Errand M)) :
    AllObjects own.Allows (after (Errand.answer own.validate) errands (.empty M)) ∧
    ∀ turn ∈ history (Errand.answer own.validate) errands (.empty M), ∀ violations,
      turn.given.violations? = some violations →
      ∃ m, turn.asked.submitted? = some m ∧ violations = own.validate m ∧ violations ≠ [] := by
  refine Action.history_induction (P := fun turns s ↦ AllObjects own.Allows s ∧
    ∀ turn : Turn (Errand M) (Heard M), turn ∈ turns → ∀ violations,
      turn.given.violations? = some violations →
      ∃ m, turn.asked.submitted? = some m ∧ violations = own.validate m ∧ violations ≠ [])
    ⟨Memory.allObjects_empty _, fun _ h ↦ absurd h List.not_mem_nil⟩ ?_ errands
  rintro turns s e ⟨valid, told⟩
  have does := e.does_answer own.validate s
  refine ⟨does.valid valid, ?_⟩
  intro turn member violations rejected
  rcases List.mem_append.mp member with old | new
  · exact told turn old violations rejected
  · obtain rfl := List.mem_singleton.mp new
    exact does.violations rejected

/-- Only valid objects are stored. Whatever errands are done, by requests or by messages, at
services with any settings and with rules that look only at OIDs and own fields, over an empty store
in memory: every stored object obeys every rule, and what is rejected as invalid is told the
violations of the rules that the submitted object breaks, in their order. A registry with such a
service under the tag answers messages alike, and keeps the store that is left. -/
theorem stored_objects_valid {L : Type u} (own : OwnRules M L) (errands : List (Errand M)) :
    (∀ e ∈ (after (Errand.answer own.validate) errands (.empty M)).objects, ∀ r ∈ own.rules,
      r.specification.holds (own.truth e.2) = true) ∧
    (∀ turn ∈ history (Errand.answer own.validate) errands (.empty M), ∀ violations,
      turn.given.violations? = some violations → ∃ m, turn.asked.submitted? = some m ∧
        violations = (own.rules.filter fun r ↦ !r.specification.holds (own.truth m)).map
          Rule.violation ∧ violations ≠ []) ∧
    ∀ (registry : Registry) (e : Errand M) (message : Message) (s : Memory M),
      e.ask = .message message →
      registry.get? M.tag = some (e.registration own.validate s) →
        let sent := registry.send M.tag e.caller e.moment message
        let done := (e.answer own.validate).run s
        done.value = .documents sent.value ∧
        sent.state.get? M.tag = some (e.registration own.validate done.state) := by
  obtain ⟨valid, told⟩ := valid_after own errands
  refine ⟨?_, told, fun _ _ _ _ asks there ↦ Errand.send_of_registered asks there⟩
  intro e he
  exact RuleSet.check_eq_nil_iff.mp (valid e he)

/-- What rules for notes look at. -/
inductive NoteLeaf where
  | untitled
  | filedUnder (oid : Catalogue.note.Oid)

/-- A note has a title, unless it is filed as the other one, which must have none. -/
def noteRules : OwnRules Catalogue.note NoteLeaf where
  rules :=
    [⟨.or (.not (.leaf .untitled)) (.leaf (.filedUnder noteB)),
        ⟨some "title", "must not be blank"⟩⟩,
      ⟨.not (.and (.not (.leaf .untitled)) (.leaf (.filedUnder noteB))),
        ⟨none, "must not have a title"⟩⟩]
  truth m
    | .untitled => Text.isBlankText (show String × Unit from m.own).1
    | .filedUnder oid => m.oid = some oid
  blind m n oid own := by rw [oid, own]

/-- Errands to services for notes: by a message, a note without a title is to be saved, and then one
with a title, which a request is to take away; the other note gets a title by a message. -/
def noteErrands : List (Errand Catalogue.note) :=
  let moment : Moment := ⟨.epoch, Schema.initial .uuid⟩
  let note (oid title : String) := Document.ofJson (.obj [("oid", .str oid), ("title", .str title)])
  [⟨.standard, .anonymous, moment, .message (.save (note "a" " "))⟩,
    ⟨.standard, .anonymous, moment, .message (.save (note "a" "first"))⟩,
    ⟨.standard, .anonymous, moment, .request (.update (submitted noteA "" .first))⟩,
    ⟨.standard, .anonymous, moment, .message (.save (note "b" "second"))⟩]

/-- Of these errands the second one is done, and the others are told which rule they break. -/
theorem stored_objects_valid_notes :
    let answer := Errand.answer noteRules.validate
    (history answer noteErrands (.empty _)).map (fun turn ↦ turn.given.violations?) =
      [some [⟨some "title", "must not be blank"⟩], none, some [⟨some "title", "must not be blank"⟩],
        some [⟨none, "must not have a title"⟩]] ∧
    (after answer noteErrands (.empty _)).size = 1 ∧
    ∀ e ∈ (after answer noteErrands (.empty _)).objects, ∀ r ∈ noteRules.rules,
      r.specification.holds (noteRules.truth e.2) = true := by
  intro answer
  exact ⟨by decide +kernel, by decide +kernel, (stored_objects_valid noteRules noteErrands).1⟩

end Service

end VersionedStore
