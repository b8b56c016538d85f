import VersionedStore.Proofs.Json.Order
import VersionedStore.Proofs.Memory.Content
import VersionedStore.Proofs.Registry.Run
import VersionedStore.Proofs.Schema.Document
import VersionedStore.Proofs.Service.Effect

/-!
# Saving back what was returned

Every body that a registry returns, but for that of a deletion, is the document of an object that is
stored then. The object reads back from its document, whatever the order of the keys, and it meets
its own version and content in the store; so saving the document changes nothing, unless the stamp
of the caller counts as content, as it does where a model's JSON gives the tracking another name.
-/

namespace VersionedStore

open Crud

/-- An object reads back from its document with the keys in any order. -/
theorem Model.Object.ofJson_reordered {M : Model} {m : M.Object} {body : Json}
    (reordered : (toDocument m).json.Reordered body) :
    ofJson M.Object (Document.ofJson body).json = .ok m := by
  rw [reordered.ofJson_eq]
  exact ofJson_toDocument M.faithful_schema m

namespace Service

open Memory (Consistent Fits Meets)

variable {M : Model} {settings : Settings} {validate : M.Object → List Violation}
  {s t : Memory M} {m : M.Object} {oid : M.Oid}

/-- Saving a stored object finds it as it is exactly where contents leave the stamp of the caller
out, or it changes nothing; and then the store is left alone. -/
theorem save_stored (writable : settings.readOnly = false) (fits : Fits oid m)
    (there : s.get? oid = some m) (valid : validate m = []) (caller : Caller) (moment : Moment) :
    ((inMemory M settings validate).save caller moment m).Ends s fun t reply ↦
      (reply = .ok (.notModified .update m) ↔
        M.LeavesOutTracking ∨ m.tracking.stampUpdated caller.user moment.now = m.tracking) ∧
      (reply = .ok (.notModified .update m) → t = s) := by
  rw [← Model.Object.sameContent_withTracking_iff]
  by_cases kept : m.sameContent (m.stampedChanged caller moment.now) = true
  · have meets : Meets s (m.stampedChanged caller moment.now) oid m := ⟨fits.own, there, rfl⟩
    refine .ite (fun new ↦ absurd (Version.isNew_iff.mp new) fits.ne_unsaved) fun _ ↦ ?_
    refine ends_update_of_stored writable fits.own fits.ne_unsaved valid there ?_
    exact .bind (Memory.merge_of_same meets kept) ⟨iff_of_true rfl kept, fun _ ↦ rfl⟩
  · have serves : ((inMemory M settings validate).save caller moment m).Ends s
        (Serves validate caller moment s (.save m)) :=
      serves_serve settings validate caller moment (.save m) s
    have sent : (Request.save m).submitted? moment = some m :=
      congrArg some (Model.Object.identified_of_oid fits.own _)
    have modified : (((inMemory M settings validate).save caller moment m).run s).value ≠
        .ok (.notModified .update m) := by
      intro unmodified
      rw [Crud.Action.Ends, unmodified] at serves
      exact kept (serves.met_of_notModified sent).2.1
    exact ⟨iff_of_false modified kept, fun unmodified ↦ absurd unmodified modified⟩

/-- Saving the document of a stored object, its keys in any order, finds the object as it is exactly
where contents leave the stamp of the caller out, or it changes nothing. -/
theorem save_document (writable : settings.readOnly = false) (fits : Fits oid m)
    (there : s.get? oid = some m) (valid : validate m = []) {body : Json}
    (reordered : (toDocument m).json.Reordered body) (caller : Caller) (moment : Moment) :
    ((inMemory M settings validate).answerMessage caller moment
      (.save (Document.ofJson body))).Ends s fun t reply ↦
        (reply = .ok (.notModified .update (toDocument m)) ↔
          M.LeavesOutTracking ∨ m.tracking.stampUpdated caller.user moment.now = m.tracking) ∧
        (reply = .ok (.notModified .update (toDocument m)) → t = s) := by
  have read : (Message.save (Document.ofJson body)).request? M = some (.save m) := by
    rw [Message.request?, Model.Object.ofJson_reordered reordered]
    rfl
  have shown (reply : Reply M.Object) :
      reply.toDocument = .ok (.notModified .update (toDocument m)) ↔
        reply = .ok (.notModified .update m) := by
    refine ⟨fun shown ↦ ?_, congrArg Reply.toDocument⟩
    obtain ⟨⟨requested, performed, object⟩, rfl, same⟩ := Reply.done_of_toDocument shown
    obtain ⟨rfl, rfl, document⟩ := Success.mk.inj same
    rw [toDocument_injective M.faithful_schema document]
    rfl
  rw [answerMessage_of_request read]
  refine .map ?_
  simp only [shown]
  exact save_stored writable fits there valid caller moment

/-- What a request is served with, but for a deletion, is stored then. -/
theorem Serves.stored {caller : Caller} {moment : Moment} {request : Request M}
    {success : Success M.Object}
    (h : Serves validate caller moment s request t (.ok (.done success)))
    (consistent : Consistent s) (kept : success.performed ≠ .deleted) :
    t.get? (request.oid moment) = some success.object := by
  rw [(Memory.get?_of_accounts consistent.keys (h.accounts consistent)).2]
  match success with
  | ⟨_, .created, _⟩ | ⟨_, .updated, _⟩ | ⟨_, .loaded, _⟩ | ⟨_, .notModified, _⟩ => rfl
  | ⟨_, .deleted, _⟩ => exact absurd rfl kept

/-- The documents that a request is served with are those of objects that are stored then. -/
theorem Serves.shown {caller : Caller} {moment : Moment} {request : Request M}
    {reply : Reply M.Object} (h : Serves validate caller moment s request t reply)
    (consistent : Consistent s) {success : Success Document}
    (answered : reply.toDocument = .ok (.done success)) (kept : success.performed ≠ .deleted) :
    ∃ oid m, t.get? oid = some m ∧ success.object = toDocument m := by
  obtain ⟨served, rfl, rfl⟩ := Reply.done_of_toDocument answered
  exact ⟨_, served.object, h.stored consistent kept, rfl⟩

/-- What a message is answered with, but for a deletion, is the document of an object that is stored
then. -/
theorem stored_answerMessage (consistent : Consistent s) (caller : Caller) (moment : Moment)
    (message : Message) :
    ((inMemory M settings validate).answerMessage caller moment message).Ends s fun t reply ↦
      ∀ success, reply = .ok (.done success) → success.performed ≠ .deleted →
        ∃ oid m, t.get? oid = some m ∧ success.object = toDocument m :=
  ends_answerMessage
    (fun request _ _ answered kept ↦
      (serves_serve settings validate caller moment request s).shown consistent answered kept)
    fun _ _ answered ↦ nomatch answered

end Service

namespace Registry

/-- When saving back what was returned changes nothing. In every registry that is reached by calls,
what a service over a store in memory answers to a message, but for a deletion, is the document of
an object that is stored then. The document of every stored object that obeys the rules of the
service, with its keys in any order, reads as the object. If the service may write, saving it is
requested as an update, modifies nothing and gives the document back exactly where contents leave
the tracking out, or the stamp of whoever saves it back is the one that is there already; and then
the whole registry is left as it was. -/
theorem save_back (calls : List Call) {tag : String} {M : Model} {settings : Settings}
    {validate : M.Object → List Violation} {s : Memory M}
    (there : (reached calls).get? tag = some (.ofMemory M settings validate s)) :
    (∀ caller moment message success,
      (send tag caller moment message (reached calls)).value = .ok (.done success) →
      success.performed ≠ .deleted →
      ∃ t oid m, (send tag caller moment message (reached calls)).state.get? tag =
          some (.ofMemory M settings validate t) ∧
        t.get? oid = some m ∧ success.object = toDocument m) ∧
    (settings.readOnly = false →
      ∀ oid m body, s.get? oid = some m → validate m = [] → (toDocument m).json.Reordered body →
      ofJson M.Object (Document.ofJson body).json = .ok m ∧
      ∀ caller moment,
        let saved := send tag caller moment (.save (Document.ofJson body)) (reached calls)
        (saved.value = .ok (.notModified .update (toDocument m)) ↔
          M.LeavesOutTracking ∨ m.tracking.stampUpdated caller.user moment.now = m.tracking) ∧
        (saved.value = .ok (.notModified .update (toDocument m)) →
          saved.state = reached calls)) := by
  have sound := sound_reached calls
  have consistent := sound.consistent there
  refine ⟨fun caller moment message success answered kept ↦ ?_,
    fun writable oid m body stored valid reordered ↦ ?_⟩
  · rw [send_ofMemory there] at answered ⊢
    obtain ⟨oid, m, found, shown⟩ :=
      Service.stored_answerMessage consistent caller moment message success answered kept
    exact ⟨_, oid, m, get?_put_self _ _ _, found, shown⟩
  · refine ⟨Model.Object.ofJson_reordered reordered, fun caller moment ↦ ?_⟩
    obtain ⟨unmodified, left⟩ := Service.save_document writable (consistent.fits_of_get? stored)
      stored valid reordered caller moment
    rw [send_ofMemory there]
    refine ⟨unmodified, fun reply ↦ ?_⟩
    rw [left reply]
    exact sound.put_of_get? there

/-- The contents of all models of the catalogue leave the tracking out. -/
example : ∀ e ∈ Catalogue.all, e.2.LeavesOutTracking := by decide

private theorem get?_reached_send {calls : List Call} {tag : String} {M : Model}
    {settings : Settings} {validate : M.Object → List Violation} {s : Memory M}
    (there : (reached calls).get? tag = some (.ofMemory M settings validate s)) (caller : Caller)
    (moment : Moment) (message : Message) :
    (reached (calls ++ [.send tag caller moment message])).get? tag =
      some (.ofMemory M settings validate
        (((Service.inMemory M settings validate).answerMessage caller moment message).run
          s).state) := by
  have sent : reached (calls ++ [.send tag caller moment message]) =
      (send tag caller moment message (reached calls)).state := List.foldl_append ..
  rw [sent, send_ofMemory there]
  exact get?_put_self _ _ _

/-- The OID of a document in camel case. -/
def camelA : Catalogue.camel.Oid := "a"

/-- The document as it is stored for an anonymous caller. -/
def storedCamel : Catalogue.camel.Object :=
  ⟨some camelA, some Version.first.number, .first, Tracking.empty.stampCreated none .epoch,
    ("title", ())⟩

/-- Calls that register services for notes and for documents in camel case. -/
def officeOpenings : List Call :=
  [.register (.empty Catalogue.note .standard fun _ ↦ []),
    .register (.empty Catalogue.camel .standard fun _ ↦ [])]

/-- A moment at the epoch. -/
def atEpoch : Moment := ⟨.epoch, Schema.initial .uuid⟩

/-- A message that saves a new document. -/
def newCamel : Message :=
  .save (Document.ofJson (.obj [("oid", .str "a"), ("docTitle", .str "title")]))

/-- The document that was saved is saved back with its keys from last to first. -/
theorem save_back_camel :
    let calls := officeOpenings ++ [.send "camel" .anonymous atEpoch newCamel]
    let s : Memory Catalogue.camel := ⟨[(camelA, storedCamel)], Version.first.number⟩
    let members := [("docTitle", .str "title"), ("entityVersion", .int 1), ("numericId", .int 1),
      ("oid", .str "a"), ("tracking", (toDocument storedCamel.tracking).json)]
    let body := Json.obj members.reverse
    let saved := send "camel" (.ofUser "reader") atEpoch (.save (Document.ofJson body))
      (reached calls)
    (reached calls).get? "camel" = some (.ofMemory _ .standard (fun _ ↦ []) s) ∧
    Settings.standard.readOnly = false ∧ Catalogue.camel.LeavesOutTracking ∧
    s.get? camelA = some storedCamel ∧ (toDocument storedCamel).json.Reordered body ∧
    saved.value = .ok (.notModified .update (toDocument storedCamel)) ∧
    saved.state = reached calls := by
  intro calls s members body saved
  have there : (reached calls).get? "camel" = some (.ofMemory _ .standard (fun _ ↦ []) s) := by
    have opened : (reached officeOpenings).get? "camel" =
        some (.ofMemory Catalogue.camel .standard (fun _ ↦ []) (.empty _)) := rfl
    have kept : (((Service.inMemory Catalogue.camel .standard fun _ ↦ []).answerMessage .anonymous
        atEpoch newCamel).run (.empty _)).state = s := by decide +kernel
    rw [← kept]
    exact get?_reached_send opened .anonymous atEpoch newCamel
  have json : (toDocument storedCamel).json = .obj members := by decide +kernel
  have reordered : (toDocument storedCamel).json.Reordered body := by
    rw [json]
    exact .members (by decide) (List.reverse_perm members).symm
  have aside : Catalogue.camel.LeavesOutTracking := by decide
  have stored : s.get? camelA = some storedCamel := by decide +kernel
  obtain ⟨unmodified, left⟩ := ((save_back calls there).2 rfl camelA storedCamel body stored rfl
    reordered).2 (.ofUser "reader") atEpoch
  have reply := unmodified.mpr (.inl aside)
  exact ⟨there, rfl, aside, stored, reordered, reply, left reply⟩

/-- A message that saves a new document in Pascal case. -/
def newPascal : Message :=
  .save (Document.ofJson (.obj [("Oid", .str "a"), ("Title", .str "title")]))

/-- Where contents show the tracking, the body that was just loaded is a modification when it is
saved back later. -/
theorem save_back_pascal :
    let calls := [.register (.empty pascalDocument .standard fun _ ↦ []),
      .send "pascal_document" .anonymous atEpoch newPascal]
    let later : Moment := ⟨.startOfYear 1971 (by decide), Schema.initial .uuid⟩
    let loaded := send "pascal_document" .anonymous later (.load "a") (reached calls)
    let saved := send "pascal_document" .anonymous later (.save (toDocument storedPascal))
      (reached calls)
    let changed : pascalDocument.Object := { storedPascal with
      version := Version.first.next
      tracking := storedPascal.tracking.stampUpdated none later.now }
    Settings.standard.readOnly = false ∧ loaded.value = .ok (.loaded (toDocument storedPascal)) ∧
    loaded.state = reached calls ∧ saved.value = .ok (.updated .update (toDocument changed)) := by
  intro calls later loaded saved changed
  let s : Memory pascalDocument := ⟨[("a", storedPascal)], Version.first.number⟩
  let service := Service.inMemory pascalDocument .standard fun _ ↦ []
  have there : (reached calls).get? "pascal_document" =
      some (.ofMemory _ .standard (fun _ ↦ []) s) := by
    have opened : (reached [.register (.empty pascalDocument .standard fun _ ↦ [])]).get?
        "pascal_document" = some (.ofMemory _ .standard (fun _ ↦ []) (.empty _)) := rfl
    have kept : ((service.answerMessage .anonymous atEpoch newPascal).run (.empty _)).state =
        s := by decide +kernel
    rw [← kept]
    exact get?_reached_send opened .anonymous atEpoch newPascal
  have answered (message : Message) := send_ofMemory there .anonymous later message
  have found : ((service.answerMessage .anonymous later (.load "a")).run s).value =
      .ok (.loaded (toDocument storedPascal)) := by decide +kernel
  have left : ((service.answerMessage .anonymous later (.load "a")).run s).state = s := by
    decide +kernel
  have stamped : ((service.answerMessage .anonymous later
      (.save (toDocument storedPascal))).run s).value =
      .ok (.updated .update (toDocument changed)) := by decide +kernel
  refine ⟨rfl, ?_, ?_, ?_⟩
  · rw [show loaded = _ from answered _]
    exact found
  · rw [show loaded = _ from answered _, left]
    exact (sound_reached calls).put_of_get? there
  · rw [show saved = _ from answered _]
    exact stamped

end Registry

end VersionedStore
