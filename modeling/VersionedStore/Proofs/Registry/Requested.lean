import VersionedStore.Proofs.Registry.SaveBack
import VersionedStore.Proofs.Registry.Tags
import VersionedStore.Proofs.Schema.Elements
import VersionedStore.Proofs.Service.Logged

/-!
# Which operation a body asks for

The version of an object decides whether saving it creates or updates. A body that cannot be read
has no object, and then its member under the usual name of versions is looked at instead. Both agree
where this member is the element that the version is read from: in objects of models that use the
usual name. In arrays, and under other names, a body that cannot be read always asks for a creation,
unless it has such a member besides.
-/

namespace VersionedStore

open Crud

/-- The element of a body that the version of an object is read from. -/
def Model.versionElement? (M : Model) (body : Json) : Option Json :=
  M.fields.element? M.names.version body

private theorem Model.versionElement?_obj {M : Model} (usual : M.names.version = "entity_version")
    (members : List (String × Json)) :
    M.versionElement? (.obj members) = (Json.obj members).get? "entity_version" := by
  rw [versionElement?, usual]
  rfl

/-- The operation that saving an object of a version asks for. -/
def Version.saving (v : Version) : Requested := if v.isNew then .create else .update

private theorem Version.saving_eq_create_iff {v : Version} : v.saving = .create ↔ v = unsaved := by
  rw [saving, ← isNew_iff]
  cases v.isNew <;> decide

private theorem Model.Object.version_of_element {M : Model} {body : Json} {m : M.Object}
    {v : Version}
    (told : M.versionElement? body = some (.int v.number.val))
    (read : ofJson M.Object body = .ok m) : m.version = v := by
  obtain ⟨values, decoded, rfl⟩ := ok_of_map read
  have field : (M.names.version, ⟨.longWord, values.2.2.1⟩) ∈ M.fields.valued values :=
    List.mem_cons_of_mem _ (List.mem_cons_of_mem _ List.mem_cons_self)
  have own := Schema.decode_element M.names_fields_nodup decoded told field
  have number : Word.ofInt 64 v.number.val = .ok values.2.2.1 := own
  rw [Word.ofInt_val] at number
  exact congrArg Version.mk (Except.ok.inj number).symm

/-- The version that the member of a body under the usual name tells, or else the unsaved one. -/
def usualVersion (body : Json) : Version :=
  ((body.get? "entity_version").bind fun v ↦ (ofJson Version v).toOption).getD .unsaved

private theorem usualVersion_of_get? {body : Json} {v : Version}
    (told : body.get? "entity_version" = some (.int v.number.val)) : usualVersion body = v := by
  have read : ofJson Version (.int v.number.val) = .ok v :=
    congrArg (Except.map Version.mk) (Word.ofInt_val v.number)
  rw [usualVersion, told, Option.bind_some, read]
  rfl

private theorem usualVersion_of_missing {body : Json}
    (missing : body.get? "entity_version" = none) :
    usualVersion body = .unsaved := by
  rw [usualVersion, missing]
  rfl

private theorem saving_of_int (n : Int) :
    ((ofJson Version (.int n)).toOption.getD .unsaved).saving =
      if 0 < n ∧ n ≤ 0xffffffffffffffff then .update else .create := by
  by_cases small : 0 ≤ n ∧ n.toNat < Nat.pow 2 64
  · have read : ofJson Version (.int n) = .ok ⟨⟨n.toNat, small.2⟩⟩ :=
      congrArg (Except.map Version.mk) (dif_pos small)
    have below : n.toNat < 0x10000000000000000 := small.2
    simp only [read, Except.toOption, Option.getD_some, Version.saving, Version.isNew, beq_iff_eq]
    split
    · rw [if_neg (by omega)]
    · rw [if_pos (by omega)]
  · have read : ofJson Version (.int n) = .error (.outOfRange n (wordName 64)) :=
      congrArg (Except.map Version.mk) (dif_neg small)
    have above : ¬(0 ≤ n ∧ n.toNat < 0x10000000000000000) := small
    simp only [read, Except.toOption, Option.getD_none]
    exact (if_neg (by omega)).symm

/-- What saving a body that stands for no object asks for is told by the version under the usual
name. -/
theorem requestedBySaving_eq (body : Json) :
    requestedBySaving body = (usualVersion body).saving := by
  rw [requestedBySaving, usualVersion]
  cases body.get? "entity_version" with
  | none => rfl
  | some v =>
    cases v with
    | int n => exact (saving_of_int n).symm
    | _ => rfl

namespace Service

variable {M : Model} {σ : Type}

/-- Saving a body is answered as the operation that its object asks for, or else as the one that its
member under the usual name tells. -/
theorem requested_saveJson (s : Service M σ) (caller : Caller) (moment : Moment) (d : Document)
    (st : σ) :
    (s.saveJson caller moment d).Ends st fun _ reply ↦ ∀ answer, reply = .ok answer →
      answer.requested = match ofJson M.Object d.json with
        | .ok m => m.version.saving
        | .error _ => (usualVersion d.json).saving := by
  unfold saveJson
  cases ofJson M.Object d.json with
  | error fault =>
    intro answer answered
    cases answered
    exact requestedBySaving_eq d.json
  | ok m =>
    have logged : (s.save caller moment m).Gives st (LoggedReply s moment st (.save m)) :=
      logs_serve s caller moment (.save m) st
    refine .map fun answer shown ↦ ?_
    obtain ⟨served, reply, rfl⟩ := ok_of_map shown
    rw [Action.Gives, reply] at logged
    rw [Answer.requested_map, logged.requested_eq]
    rfl

end Service

namespace Registry

/-- A body with a version, as a member under the name that the model gives to versions or as the
item in their place, is saved as this version asks if it stands for an object, and so it is answered
in any case if it is an object and the name is the usual one. Any other body that stands for no
object is taken for what a member under the usual name tells. Without such a member, as in an array
or in an object that has its version under another name, it is taken for a creation, and that is
what the version asks only if it is the unsaved one. -/
theorem save_requested {r : Registry} {tag : String} {registration : Registration}
    (there : r.get? tag = some registration) {d : Document} {v : Version}
    (told : registration.model.versionElement? d.json = some (.int v.number.val)) {caller : Caller}
    {moment : Moment} {answer : Answer Document}
    (answered : (r.saveJson tag caller moment d).value = .ok answer) :
    let M := registration.model
    (∀ m, ofJson M.Object d.json = .ok m → m.version = v ∧ answer.requested = v.saving) ∧
    (M.names.version = "entity_version" → ∀ members, d.json = .obj members →
      answer.requested = v.saving) ∧
    ∀ fault, ofJson M.Object d.json = .error fault →
      answer.requested = (usualVersion d.json).saving ∧
      (d.json.get? "entity_version" = none → (answer.requested = v.saving ↔ v = .unsaved)) := by
  intro M
  rw [saveJson, step_of_registered there] at answered
  have asks := Service.requested_saveJson registration.service caller moment d registration.state
    answer answered
  have decoded (m : M.Object) (read : ofJson M.Object d.json = .ok m) :
      m.version = v ∧ answer.requested = v.saving := by
    have own := Model.Object.version_of_element told read
    rw [read] at asks
    exact ⟨own, asks.trans (congrArg Version.saving own)⟩
  have peeked (fault : Json.Fault) (unread : ofJson M.Object d.json = .error fault) :
      answer.requested = (usualVersion d.json).saving := by
    rw [unread] at asks
    exact asks
  refine ⟨decoded, fun usual members object ↦ ?_, fun fault unread ↦
    ⟨peeked fault unread, fun missing ↦ ?_⟩⟩
  · cases read : ofJson M.Object d.json with
    | ok m => exact (decoded m read).2
    | error fault =>
      rw [object, Model.versionElement?_obj usual, ← object] at told
      rw [peeked fault read, usualVersion_of_get? told]
  · rw [peeked fault unread, usualVersion_of_missing missing, ← Version.saving_eq_create_iff]
    exact eq_comm

/-- A note whose title is a number is rejected as the update that it would be with a text. -/
theorem save_requested_note :
    let body := Document.ofJson
      (.obj [("oid", .str "a"), ("entity_version", .int 3), ("title", .int 5)])
    let rejected : Answer Document := .rejected (.make .update "note" "a"
      (.badRequest "malformed note body: invalid type: integer `5`, expected a string"))
    Catalogue.note.versionElement? body.json = some (.int 3) ∧
    (saveJson "note" .anonymous atEpoch body (reached officeOpenings)).value = .ok rejected ∧
    rejected.requested = Version.saving ⟨3⟩ := by
  intro body rejected
  have there : (reached officeOpenings).get? "note" =
    some (.ofMemory Catalogue.note .standard (fun _ ↦ []) (.empty _)) := rfl
  have told : Catalogue.note.versionElement? body.json = some (.int 3) := by decide
  have answered : (saveJson "note" .anonymous atEpoch body (reached officeOpenings)).value =
      .ok rejected := by decide +kernel
  exact ⟨told, answered, (save_requested there (v := ⟨3⟩) told answered).2.1 rfl _ rfl⟩

/-- A document in camel case whose title is a number is rejected as a creation, although it has the
version of an update and is one with a text for its title. -/
theorem save_renamed_version :
    let body (title : Json) := Document.ofJson
      (.obj [("oid", .str "a"), ("entityVersion", .int 3), ("docTitle", title)])
    let asked (title : Json) :=
      (saveJson "camel" .anonymous atEpoch (body title) (reached officeOpenings)).value.map
        Answer.requested
    Catalogue.camel.versionElement? (body (.int 5)).json = some (.int 3) ∧
    asked (.int 5) = .ok .create ∧ asked (.str "title") = .ok .update := by
  decide +kernel

/-- A note in an array whose title is a number is rejected as a creation as well. -/
example :
    let row (title : Json) := Document.ofJson
      (.arr [.str "a", .null, .int 3, toJson Tracking.empty, title])
    let asked (title : Json) :=
      (saveJson "note" .anonymous atEpoch (row title) (reached officeOpenings)).value.map
        Answer.requested
    Catalogue.note.versionElement? (row (.int 5)).json = some (.int 3) ∧
    asked (.int 5) = .ok .create ∧ asked (.str "title") = .ok .update := by
  decide +kernel

end Registry

end VersionedStore
