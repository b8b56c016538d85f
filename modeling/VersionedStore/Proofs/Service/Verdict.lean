import VersionedStore.Proofs.Memory.Content
import VersionedStore.Proofs.Service.Lives

/-!
# What saving comes to

A reply is judged by what it says but for the wording of its reason. `saveVerdict` is a table: the
first of its rows that applies to the settings, the rules, the store and the object says what saving
comes to. The store has its part in the rows, and nothing else can happen while clocks do not run
backwards and versions last. The last rows compare contents, and it is the stamped object whose
content is compared.
-/

namespace VersionedStore

open Crud

/-- What a reply comes to. -/
inductive Verdict where
  /-- A precondition is broken. -/
  | refused
  | badRequest (requested : Requested) (oid : Option String)
  | notFound (requested : Requested) (oid : Option String)
  | invalid (requested : Requested) (oid : Option String) (violations : List Violation)
  /-- The store failed, or there was no service to ask. -/
  | failed
  | done (requested : Requested) (performed : Performed) (version : Version)
  deriving DecidableEq

/-- What a rejection comes to. -/
def Crud.Rejection.verdict (r : Rejection) : Verdict :=
  match r.reason with
  | .badRequest _ => .badRequest r.requested r.oid
  | .notFound => .notFound r.requested r.oid
  | .invalid violations => .invalid r.requested r.oid violations
  | .serverError _ => .failed

variable {M : Model}

/-- What a reply comes to. -/
def Reply.verdict : Reply M.Object → Verdict
  | .error (.illegalState _) => .refused
  | .error _ => .failed
  | .ok (.rejected r) => r.verdict
  | .ok (.done success) => .done success.requested success.performed success.object.version

/-- The text of the OID, unless it is empty or there is none. -/
def Model.Object.shownOid (m : M.Object) : Option String := (some m.oidText).filter fun o ↦ o ≠ ""

namespace Service

open Crud.Action (after)
open Memory (Meets Succeeds noteB submitted)

/-- What creating an object that has never been stored comes to. -/
def createVerdict (settings : Settings) (validate : M.Object → List Violation) (moment : Moment)
    (s : Memory M) (m : M.Object) : Verdict :=
  let named := m.identified moment.fresh
  if settings.readOnly then .badRequest .create m.shownOid
  else if m.oid = none ∧ settings.generateOids = false then .badRequest .create none
  else if (s.get? (m.oid.getD (M.oidKind.generate moment.fresh))).isSome then
    .badRequest .create named.shownOid
  else if validate named ≠ [] then .invalid .create named.shownOid (validate named)
  else .done .create .created .first

/-- What updating an object that has been stored comes to, where `same` tells whether a stored
object has its content. -/
def updateVerdict (settings : Settings) (validate : M.Object → List Violation) (s : Memory M)
    (m : M.Object) (same : M.Object → Bool) : Verdict :=
  match m.oid with
  | none => .refused
  | some oid =>
    if settings.readOnly then .badRequest .update m.shownOid
    else if validate m ≠ [] then .invalid .update m.shownOid (validate m)
    else match s.get? oid with
    | none =>
      if settings.createMissing then .done .update .created .first
      else .notFound .update m.shownOid
    | some stored =>
      if stored.version ≠ m.version then .badRequest .update m.shownOid
      else if same stored then .done .update .notModified m.version
      else .done .update .updated m.version.next

/-- What saving an object comes to, where `same` tells whether a stored object has its content. -/
def saveVerdict (settings : Settings) (validate : M.Object → List Violation) (moment : Moment)
    (s : Memory M) (m : M.Object) (same : M.Object → Bool) : Verdict :=
  if m.version = .unsaved then createVerdict settings validate moment s m
  else updateVerdict settings validate s m same

section

variable {settings : Settings} {validate : M.Object → List Violation} {caller : Caller}
  {now : Instant} {s : Memory M} {m : M.Object} {oid : M.Oid}

/-- A rejection under the OID of an object is made without an empty one. -/
theorem verdict_reject (own : m.oid = some oid) (requested : Requested) (reason : String) :
    Reply.verdict (.ok (reject M requested (M.oidKind.textOf oid) (.badRequest reason))) =
      .badRequest requested m.shownOid := by
  rw [Model.Object.shownOid, Model.Object.oidText_of_oid own]
  rfl

private theorem judges_answerInvalid (requested : Requested) (violations : List Violation) :
    (answerInvalid requested m violations).Ends s fun _ answer ↦
      Reply.verdict (.ok answer) = .invalid requested m.shownOid violations :=
  rfl

private theorem judges_insert (own : m.oid = some oid) (free : s.get? oid = none)
    (requested : Requested) :
    ((inMemory M settings validate).insert caller now requested m).Ends s fun _ answer ↦
      Reply.verdict (.ok answer) = .done requested .created .first :=
  .bind (Memory.run_persist_stamped own free caller.user now) rfl

private theorem judges_createAt (own : m.oid = some oid) :
    ((inMemory M settings validate).createAt caller now oid m).Ends s fun _ answer ↦
      Reply.verdict (.ok answer) =
        if (s.get? oid).isSome then .badRequest .create m.shownOid
        else if validate m ≠ [] then .invalid .create m.shownOid (validate m)
        else .done .create .created .first := by
  refine .bind (Memory.run_contains oid s) ?_
  cases there : s.get? oid with
  | some stored => exact verdict_reject own .create _
  | none =>
    simp only [inMemory]
    cases valid : validate m with
    | nil => exact judges_insert own there .create
    | cons violation more => exact judges_answerInvalid .create _

private theorem judges_create {moment : Moment} (new : m.version = .unsaved) :
    ((inMemory M settings validate).create caller moment m).Ends s fun _ reply ↦
      reply.verdict = createVerdict settings validate moment s m := by
  have fresh : ¬(!m.version.isNew) = true := by simp [Version.isNew_iff.mpr new]
  refine .ite (fun stored ↦ absurd stored fresh) fun _ ↦ ?_
  unfold createVerdict
  refine .ite (fun (readOnly : settings.readOnly = true) ↦ ?_)
    fun (writable : ¬settings.readOnly = true) ↦ ?_
  · rw [if_pos readOnly]
    rfl
  rw [if_neg writable]
  cases own : m.oid with
  | some oid =>
    have given : ¬(some oid = none ∧ settings.generateOids = false) := fun h ↦ nomatch h.1
    rw [Model.Object.identified_of_oid own, if_neg given, Option.getD_some]
    exact judges_createAt own
  | none =>
    rw [Model.Object.identified_of_none own, Option.getD_none]
    refine .ite (fun (manual : (!settings.generateOids) = true) ↦ ?_)
      fun (automatic : ¬(!settings.generateOids) = true) ↦ .bind (Action.run_report _ s) ?_
    · rw [if_pos ⟨rfl, by simpa using manual⟩]
      rfl
    · rw [if_neg (by simpa using automatic)]
      exact judges_createAt rfl

/-- A change at a time may follow on an object: it was created by then, and there are versions
left. -/
structure Changeable (now : Instant) (stored : M.Object) : Prop where
  created : ∃ created, stored.tracking.createdAt = some created ∧ created ≤ now
  more : stored.version ≠ .last

/-- A change that may follow on an object, and meets its version with other content, succeeds. -/
theorem Changeable.succeeds {stored : M.Object} (h : Changeable now stored)
    (meets : Meets s (m.stampedChanged caller now) oid stored)
    (differs : stored.sameContent (m.stampedChanged caller now) = false) :
    ∃ version, Succeeds s (m.stampedChanged caller now) oid stored version := by
  obtain ⟨created, made, past⟩ := h.created
  -- The stamp of the change is put beside the creation that is stored.
  have coherent : ((m.stampedChanged caller now).tracking.carryCreation
      stored.tracking).validate = .ok () :=
    Tracking.validate_eq_ok_iff.mpr (Tracking.coherent_carryCreation made past)
  obtain ⟨version, next⟩ : ∃ version, stored.version.next? = some version :=
    Option.ne_none_iff_exists'.mp fun none ↦ h.more (Version.next?_eq_none_iff.mp none)
  exact ⟨version, meets, differs, coherent, next⟩

private theorem judges_replace (own : m.oid = some oid) {stored : M.Object}
    (there : s.get? oid = some stored) (changeable : Changeable now stored) :
    ((inMemory M settings validate).replace caller now oid m).Ends s fun _ answer ↦
      Reply.verdict (.ok answer) =
        if stored.version ≠ m.version then .badRequest .update m.shownOid
        else if stored.sameContent (m.stampedChanged caller now) then
          .done .update .notModified m.version
        else .done .update .updated m.version.next := by
  have own' : (m.stampedChanged caller now).oid = some oid := own
  by_cases agrees : stored.version = m.version
  · rw [if_neg (not_not_intro agrees)]
    have meets : Meets s (m.stampedChanged caller now) oid stored := ⟨own', there, agrees⟩
    cases content : stored.sameContent (m.stampedChanged caller now) with
    | true =>
      refine .bind (Memory.merge_of_same meets content) ?_
      rw [if_pos rfl, ← agrees]
      rfl
    | false =>
      obtain ⟨version, succeeds⟩ := changeable.succeeds meets content
      refine .bind (Memory.merge_of_succeeds succeeds) ?_
      rw [if_neg Bool.false_ne_true, ← agrees, Version.next, succeeds.next]
      rfl
  · rw [if_pos agrees]
    refine .bind (Memory.merge_of_conflict own' there agrees) ?_
    exact verdict_reject own .update _

private theorem judges_update (stored : m.version ≠ .unsaved)
    (changeable : ∀ oid stored, s.get? oid = some stored → Changeable now stored) :
    ((inMemory M settings validate).update caller now m).Ends s fun _ reply ↦
      reply.verdict = updateVerdict settings validate s m fun stored ↦
        stored.sameContent (m.stampedChanged caller now) := by
  have known : ¬m.version.isNew = true := fun new ↦ stored (Version.isNew_iff.mp new)
  unfold update updateVerdict
  cases own : m.oid with
  | none => rfl
  | some oid =>
    simp only
    refine .ite (fun new ↦ absurd new known) fun _ ↦
      .ite (fun (readOnly : settings.readOnly = true) ↦ ?_)
        fun (writable : ¬settings.readOnly = true) ↦ ?_
    · rw [if_pos readOnly]
      exact verdict_reject own .update _
    rw [if_neg writable]
    refine .map ?_
    simp only [updateAt, inMemory]
    cases valid : validate m with
    | cons violation more => exact judges_answerInvalid .update _
    | nil =>
      rw [if_neg (not_not_intro rfl)]
      refine .bind (Memory.run_contains oid s) ?_
      cases there : s.get? oid with
      | some stored => exact judges_replace own there (changeable oid stored there)
      | none =>
        refine .ite (fun lenient ↦ ?_) fun strict ↦ ?_
        · rw [if_pos lenient]
          exact .bind (Action.run_report _ s) (judges_insert own there .update)
        · rw [if_neg strict, Model.Object.shownOid, Model.Object.oidText_of_oid own]
          rfl

/-- Saving an object comes to what the table says. -/
theorem judges_save {moment : Moment}
    (changeable : ∀ oid stored, s.get? oid = some stored → Changeable moment.now stored) :
    ((inMemory M settings validate).save caller moment m).Ends s fun _ reply ↦
      reply.verdict = saveVerdict settings validate moment s m fun stored ↦
        stored.sameContent (m.stampedChanged caller moment.now) := by
  unfold save saveVerdict
  refine .ite (fun new ↦ ?_) fun old ↦ ?_
  · rw [if_pos (Version.isNew_iff.mp new)]
    exact judges_create (Version.isNew_iff.mp new)
  · have stored : m.version ≠ .unsaved := fun new ↦ old (Version.isNew_iff.mpr new)
    rw [if_neg stored]
    exact judges_update stored changeable

/-- The table asks only for the content of what is stored under the OID of the object. -/
theorem saveVerdict_congr {moment : Moment} {same same' : M.Object → Bool}
    (agree : ∀ oid stored, m.oid = some oid → s.get? oid = some stored →
      same stored = same' stored) :
    saveVerdict settings validate moment s m same =
      saveVerdict settings validate moment s m same' := by
  unfold saveVerdict updateVerdict
  cases own : m.oid with
  | none => rfl
  | some oid =>
    simp only
    cases there : s.get? oid with
    | none => rfl
    | some stored => simp only [agree oid stored own there]

/-- Only the update of an object without OID is refused. -/
theorem saveVerdict_eq_refused_iff {moment : Moment} {same : M.Object → Bool} :
    saveVerdict settings validate moment s m same = .refused ↔
      m.version ≠ .unsaved ∧ m.oid = none := by
  by_cases new : m.version = .unsaved
  · rw [saveVerdict, if_pos new, createVerdict]
    refine iff_of_false ?_ fun h ↦ h.1 new
    split_ifs <;> exact fun h ↦ nomatch h
  · rw [saveVerdict, if_neg new, updateVerdict]
    cases m.oid with
    | none => exact iff_of_true rfl ⟨new, rfl⟩
    | some oid =>
      refine iff_of_false ?_ fun h ↦ nomatch h.2
      simp only
      cases s.get? oid <;> simp only <;> split_ifs <;> exact fun h ↦ nomatch h

end

/-- After visits none of which was later than now, a stored object whose version is not the last one
may be changed. -/
theorem changeable_after {visits : List (Visit M)} {now : Instant}
    (past : ∀ v ∈ visits, v.moment.now ≤ now) {oid : M.Oid} {stored : M.Object}
    (there : (after (Visit.answer (Memory.store M)) visits (.empty M)).get? oid = some stored)
    (more : stored.version ≠ .last) : Changeable now stored := by
  obtain ⟨-, traced⟩ := traced_after Memory.consistent_empty visits
  obtain ⟨creation, life, last, -, at', -⟩ :=
    (traced oid (Memory.get?_empty oid) stored there).begun
  exact ⟨⟨_, at', past _ (Action.asked_mem_of_mem_history last.mem)⟩, more⟩

/-- What saving comes to is the first row of a table that applies. The store has been reached from
an empty one by visits to any services that share it, none of them later than the save, and no
stored version is the last one. Then the table of `saveVerdict` tells the reply to the save of any
object, whatever the settings, the rules and the caller, and the save is refused exactly when the
object has been stored but has no OID. The content that its last rows compare is that of the stamped
object. Where the JSON keeps the names of the metadata, that comes to comparing the own fields, up
to the sign of zeros. Where contents leave the tracking out, it comes to comparing the content of
the object as it was submitted; where they show it, the stamped tracking has to be the stored one,
and all else the same. -/
theorem save_verdict (visits : List (Visit M)) (settings : Settings)
    (validate : M.Object → List Violation) (caller : Caller) (moment : Moment) (m : M.Object) :
    let s := after (Visit.answer (Memory.store M)) visits (.empty M)
    let reply := (((inMemory M settings validate).save caller moment m).run s).value
    let table := saveVerdict settings validate moment s m
    (∀ v ∈ visits, v.moment.now ≤ moment.now) → (∀ e ∈ s.objects, e.2.version ≠ .last) →
    reply.verdict =
      table (fun stored ↦ stored.sameContent (m.stampedChanged caller moment.now)) ∧
    (reply.verdict = .refused ↔ m.version ≠ .unsaved ∧ m.oid = none) ∧
    (M.Conventional → reply.verdict =
      table fun stored ↦ M.ownFields.unsign stored.own = M.ownFields.unsign m.own) ∧
    (M.LeavesOutTracking → reply.verdict = table fun stored ↦ stored.sameContent m) ∧
    (¬M.LeavesOutTracking → reply.verdict = table fun stored ↦
      stored.tracking = m.tracking.stampUpdated caller.user moment.now ∧
        stored.sameApart m = true) := by
  intro s reply table past short
  have consistent : Memory.Consistent s := (traced_after Memory.consistent_empty visits).1
  have judged : reply.verdict =
      table fun stored ↦ stored.sameContent (m.stampedChanged caller moment.now) :=
    judges_save fun oid stored there ↦
      changeable_after past there (short _ (Memory.mem_of_get? there))
  refine ⟨judged, judged ▸ saveVerdict_eq_refused_iff, fun conventional ↦ ?_, fun aside ↦ ?_,
    fun shown ↦ ?_⟩
  · refine judged.trans (saveVerdict_congr fun oid stored own there ↦ ?_)
    have oids : stored.oid = m.oid := (consistent.fits_of_get? there).own.trans own.symm
    rw [Bool.eq_iff_iff, decide_eq_true_iff, Model.Object.sameContent_iff conventional]
    exact and_iff_right oids
  · refine judged.trans (saveVerdict_congr fun oid stored own there ↦ ?_)
    exact congrArg (Document.same stored.content)
      (Model.Object.content_withTracking aside m (m.tracking.stampUpdated caller.user moment.now))
  · refine judged.trans (saveVerdict_congr fun oid stored own there ↦ ?_)
    rw [Bool.eq_iff_iff, decide_eq_true_iff, Model.Object.sameContent_iff_of_shown shown,
      ← stored.sameApart_withTracking m (m.tracking.stampUpdated caller.user moment.now)]
    rfl

/-- After a note has been created, changed and deleted and another one created, saving a change of
the other one makes its second version. -/
theorem save_verdict_notes :
    let s := after (Visit.answer (Memory.store Catalogue.note)) noteVisits (.empty _)
    let moment : Moment := ⟨.startOfYear 2003 (by decide), Schema.initial .uuid⟩
    let reply := (((inMemory Catalogue.note .standard fun _ ↦ []).save .anonymous moment
      (submitted noteB "changed" .first)).run s).value
    (∀ v ∈ noteVisits, v.moment.now ≤ moment.now) ∧ (∀ e ∈ s.objects, e.2.version ≠ .last) ∧
    reply.verdict = .done .update .updated Version.first.next := by
  intro s moment reply
  have past : ∀ v ∈ noteVisits, v.moment.now ≤ moment.now := by decide +kernel
  have short : ∀ e ∈ s.objects, e.2.version ≠ .last := by decide +kernel
  have judged := (save_verdict noteVisits .standard (fun _ ↦ []) .anonymous moment
    (submitted noteB "changed" .first) past short).1
  exact ⟨past, short, judged.trans (by decide +kernel)⟩

/-- A store in which an object was created at the epoch. -/
def createdAtEpoch (m : M.Object) : Memory M :=
  after (Visit.answer (Memory.store M)) [⟨.standard, fun _ ↦ [], .anonymous,
    ⟨.epoch, Schema.initial .uuid⟩, .serve (.create m)⟩] (.empty M)

/-- The moment at which the year after the epoch starts. -/
def aYearLater : Moment := ⟨.startOfYear 1971 (by decide), Schema.initial .uuid⟩

/-- Where the JSON gives the metadata other names, saving equal own fields may make a second
version: a document in camel case with another numeric id, and a document in Pascal case exactly as
it is stored. -/
theorem save_verdict_renamed :
    let stampedCamel : Catalogue.camel.Object :=
      { Memory.keptCamel with tracking := Tracking.empty.stampCreated none .epoch }
    let renumbered : Catalogue.camel.Object :=
      { stampedCamel with numericId := some Version.last.number }
    let camels : Memory Catalogue.camel := createdAtEpoch { stampedCamel with version := .unsaved }
    let pascals : Memory pascalDocument := createdAtEpoch { storedPascal with version := .unsaved }
    let savedCamel := (((inMemory Catalogue.camel .standard fun _ ↦ []).save .anonymous aYearLater
      renumbered).run camels).value
    let savedPascal := (((inMemory pascalDocument .standard fun _ ↦ []).save .anonymous aYearLater
      storedPascal).run pascals).value
    (camels = ⟨[("a", stampedCamel)], Version.first.number⟩ ∧
      saveVerdict .standard (fun _ ↦ []) aYearLater camels renumbered
        (fun stored ↦ stored.own = renumbered.own) = .done .update .notModified .first ∧
      savedCamel.verdict = .done .update .updated Version.first.next) ∧
    (pascals = ⟨[("a", storedPascal)], Version.first.number⟩ ∧
      saveVerdict .standard (fun _ ↦ []) aYearLater pascals storedPascal
        (fun stored ↦ stored.sameContent storedPascal) = .done .update .notModified .first ∧
      savedPascal.verdict = .done .update .updated Version.first.next) := by
  intro stampedCamel renumbered camels pascals savedCamel savedPascal
  refine ⟨⟨?_, ?_, ?_⟩, ?_, ?_, ?_⟩ <;> decide +kernel

end Service

end VersionedStore
