import VersionedStore.Proofs.Service.Visits

/-!
# Services alone do not fail

As long as a store in memory is written by services only, whose clocks do not run backwards, every
stored object was created by then, and its version is no greater than the number of visits. So what
a service hands to the store is always taken: a merge may meet another version, and nothing else
fails.
-/

namespace VersionedStore

open Crud

/-- A change that is made after the creation that is kept fits it. -/
theorem Tracking.coherent_carryCreation {t stored : Tracking} {user : Option String}
    {now created : Instant} (made : stored.createdAt = some created) (past : created ≤ now) :
    ((t.stampUpdated user now).carryCreation stored).Coherent := by
  rintro updated (h : some now = some updated)
  obtain rfl : now = updated := Option.some.inj h
  exact ⟨created, made, past⟩

namespace Memory

open Store (Call Step Result)

variable {M : Model}

/-- The object was created by a time and has been given so many versions at most. -/
structure Dated (visits : Nat) (now : Instant) (m : M.Object) : Prop where
  created : ∃ created, m.tracking.createdAt = some created ∧ created ≤ now
  changed : m.version.number.val ≤ visits

/-- What is dated stays so. -/
theorem Dated.later {visits more : Nat} {now later : Instant} {m : M.Object}
    (h : Dated visits now m) (many : visits ≤ more) (time : now ≤ later) : Dated more later m := by
  obtain ⟨created, made, past⟩ := h.created
  exact ⟨⟨created, made, Instant.le_trans past time⟩, Nat.le_trans h.changed many⟩

/-- All stored objects are dated. -/
def AllDated (visits : Nat) (now : Instant) (s : Memory M) : Prop :=
  ∀ e ∈ s.objects, Dated visits now e.2

/-- What is found in a store of dated objects is dated. -/
theorem AllDated.dated {visits : Nat} {now : Instant} {s : Memory M} (h : AllDated visits now s)
    {oid : M.Oid} {m : M.Object} (there : s.get? oid = some m) : Dated visits now m :=
  h _ (mem_of_get? there)

/-- All stored objects stay dated. -/
theorem AllDated.later {visits more : Nat} {now later : Instant} {s : Memory M}
    (h : AllDated visits now s) (many : visits ≤ more) (time : now ≤ later) :
    AllDated more later s := fun e he ↦ (h e he).later many time

/-- Taking in a dated object keeps all of them dated. -/
theorem AllDated.insert {visits : Nat} {now : Instant} {s : Memory M} (h : AllDated visits now s)
    (oid : M.Oid) {m : M.Object} (dated : Dated visits now m) :
    AllDated visits now (s.insert oid m) := AllObjects.insert h oid dated

/-- Putting a dated object in the place of another keeps all of them dated. -/
theorem AllDated.replace {visits : Nat} {now : Instant} {s : Memory M} (h : AllDated visits now s)
    (oid : M.Oid) {m : M.Object} (dated : Dated visits now m) :
    AllDated visits now (s.replace oid m) := AllObjects.replace h oid dated

/-- Taking out objects keeps the others dated. -/
theorem AllDated.erase {visits : Nat} {now : Instant} {s : Memory M} (h : AllDated visits now s)
    (oid : M.Oid) : AllDated visits now (s.erase oid) := AllObjects.erase h oid

/-- An object that is stamped as created is taken in under a free OID. -/
theorem run_persist_stamped {s : Memory M} {m : M.Object} {oid : M.Oid} (own : m.oid = some oid)
    (free : s.get? oid = none) (user : Option String) (now : Instant) :
    let stamped := { m with version := .unsaved, tracking := m.tracking.stampCreated user now }
    (persist stamped).run.run s = ⟨.ok (stamped.entering s.sequence.after),
      s.insert oid (stamped.entering s.sequence.after),
      [.inserted M.tag (M.oidKind.textOf oid) s.sequence.after]⟩ := by
  intro stamped
  have coherent : stamped.tracking.validate = .ok () :=
    Tracking.validate_eq_ok_iff.mpr (Tracking.coherent_stampCreated m.tracking user now)
  obtain ⟨failure, cause, -⟩ | ⟨other, admits, h⟩ := persist_cases stamped s
  · cases cause with
    | persistWithoutOid none => cases own.symm.trans none
    | persistIncoherent _ incoherent => cases coherent.symm.trans incoherent
    | occupied taken _ there =>
      obtain rfl : oid = _ := Option.some.inj (own.symm.trans taken)
      cases free.symm.trans there
  · obtain rfl : oid = other := Option.some.inj (own.symm.trans admits.own)
    exact h

private theorem merge_stamped_cases {visits : Nat} {now : Instant} {s : Memory M}
    (dated : AllDated visits now s) (few : visits < Nat.pow 2 63) {m stored : M.Object}
    {oid : M.Oid} (own : m.oid = some oid) (there : s.get? oid = some stored)
    (user : Option String) :
    let stamped := { m with tracking := m.tracking.stampUpdated user now }
    (merge stamped).run.run s = ⟨.error (.versionConflict m.version stored.version), s, []⟩ ∨
    (∃ events, (merge stamped).run.run s = ⟨.ok (.notModified stored), s, events⟩) ∨
    (∃ version events, stored.version.next? = some version ∧
      (merge stamped).run.run s = ⟨.ok (.updated (stamped.succeeding stored version)),
        s.replace oid (stamped.succeeding stored version), events⟩) := by
  intro stamped
  obtain ⟨⟨created, made, past⟩, counted⟩ := dated.dated there
  have coherent : (stamped.tracking.carryCreation stored.tracking).validate = .ok () :=
    Tracking.validate_eq_ok_iff.mpr (Tracking.coherent_carryCreation made past)
  have succ : stored.version.next? ≠ none := by
    rw [ne_eq, Version.next?_eq_none_iff]
    intro last
    have many : Version.last.number.val ≤ visits := last ▸ counted
    exact absurd (Nat.lt_of_le_of_lt many few) (by decide)
  have only {found : M.Object} {other : M.Oid} (taken : stamped.oid = some other)
      (lies : s.get? other = some found) : other = oid ∧ found = stored := by
    obtain rfl : oid = other := Option.some.inj (own.symm.trans taken)
    exact ⟨rfl, Option.some.inj (lies.symm.trans there)⟩
  obtain ⟨failure, cause, h⟩ | ⟨other, found, meets, -, h⟩ | ⟨other, found, version, succeeds, h⟩ :=
    merge_cases stamped s
  · cases cause with
    | mergeWithoutOid none => cases own.symm.trans none
    | missing taken free =>
      obtain rfl : oid = _ := Option.some.inj (own.symm.trans taken)
      cases free.symm.trans there
    | conflict taken lies _ =>
      obtain ⟨rfl, rfl⟩ := only taken lies
      exact .inl h
    | mergeIncoherent meets _ incoherent =>
      obtain ⟨rfl, rfl⟩ := only meets.own meets.there
      cases coherent.symm.trans incoherent
    | lastVersion meets _ _ last =>
      obtain ⟨rfl, rfl⟩ := only meets.own meets.there
      exact absurd last succ
  · obtain ⟨rfl, rfl⟩ := only meets.own meets.there
    exact .inr (.inl ⟨_, h⟩)
  · obtain ⟨rfl, rfl⟩ := only succeeds.own succeeds.there
    exact .inr (.inr ⟨version, _, succeeds.next, h⟩)

end Memory

namespace Service

open Memory (AllDated noteA noteB submitted)
open Store (Step)

variable {M : Model}

/-- No step failed but merges that met another version. -/
def Peaceful (steps : List (Step M)) : Prop :=
  ∀ step ∈ steps, ∀ failure, step.result = .failed failure →
    ∃ m actual, step.call = .merge m ∧ failure = .versionConflict m.version actual

/-- The answer does not say that the server failed. -/
def Reasonable : Answer M.Object → Prop
  | .done _ => True
  | .rejected r => ∀ reason, r.reason ≠ .serverError reason

/-- An answer in reply does not say that the server failed. -/
def SoundReply : Reply M.Object → Prop
  | .ok answer => Reasonable answer
  | .error _ => True

/-- A visit is given no failure of the server, and all objects when it asks for them. -/
def Given.Sound : Given M → Prop
  | .reply r => SoundReply r
  | .listing all => ∃ ms, all = .ok ms

/-- Objects are dated after one visit more, nothing but conflicts is on the record, and the value is
as it should be. -/
def Keeps {α : Type} (visits : Nat) (now : Instant) (good : α → Prop)
    (t : Memory M × List (Step M)) (a : α) : Prop :=
  AllDated (visits + 1) now t.1 ∧ Peaceful t.2 ∧ good a

/-- One step more that did not fail keeps the peace. -/
theorem Peaceful.append {steps : List (Step M)} (h : Peaceful steps) (step : Step M)
    (fine : ∀ failure, step.result = .failed failure →
      ∃ m actual, step.call = .merge m ∧ failure = .versionConflict m.version actual) :
    Peaceful (steps ++ [step]) := by
  intro other ho
  rcases List.mem_append.mp ho with old | new
  · exact h other old
  · rw [List.mem_singleton.mp new]
    exact fine

/-- A service over the store in memory that keeps a record. -/
abbrev onRecord (M : Model) (settings : Settings) (validate : M.Object → List Violation) :
    Service M (Memory M × List (Step M)) :=
  ⟨(Memory.store M).recording, settings, validate⟩

variable {settings : Settings} {validate : M.Object → List Violation} {visits : Nat}
  {s : Memory M} {steps : List (Step M)}

private theorem keeps_insert {caller : Caller} {now : Instant} (dated : AllDated visits now s)
    (peaceful : Peaceful steps) (requested : Requested) {m : M.Object} {oid : M.Oid}
    (own : m.oid = some oid) (free : s.get? oid = none) :
    ((onRecord M settings validate).insert caller now requested m).Ends (s, steps)
      (Keeps visits now Reasonable) := by
  refine .bind (Store.run_recorded (Memory.run_persist_stamped own free caller.user now) _ _ steps)
    ⟨?_, peaceful.append _ (by rintro _ ⟨⟩), trivial⟩
  refine (dated.later (Nat.le_succ _) (Instant.le_refl _)).insert oid ⟨?_, Nat.succ_le_succ ?_⟩
  · exact ⟨now, rfl, Instant.le_refl now⟩
  · exact Nat.zero_le visits

private theorem keeps_same {α : Type} {now : Instant} {good : α → Prop}
    (dated : AllDated visits now s)
    (peaceful : Peaceful steps) {a : α} (fine : good a) :
    Keeps visits now good (s, steps) a :=
  ⟨dated.later (Nat.le_succ _) (Instant.le_refl _), peaceful, fine⟩

/-- Asking whether an OID is taken does not fail. -/
theorem run_contains_recorded (oid : M.Oid) :
    ((Memory.store M).recording.contains oid).run.run (s, steps) =
      ⟨.ok (s.get? oid).isSome,
        (s, steps ++ [⟨.contains oid, .contained (s.get? oid).isSome⟩]), []⟩ := rfl

private theorem keeps_createAt {caller : Caller} {now : Instant} (dated : AllDated visits now s)
    (peaceful : Peaceful steps) {m : M.Object} {oid : M.Oid} (own : m.oid = some oid) :
    ((onRecord M settings validate).createAt caller now oid m).Ends (s, steps)
      (Keeps visits now Reasonable) := by
  refine .bind (run_contains_recorded oid) ?_
  have asked := peaceful.append ⟨.contains oid, .contained (s.get? oid).isSome⟩
    (by rintro _ ⟨⟩)
  cases there : s.get? oid with
  | some stored =>
    rw [there] at asked
    exact keeps_same dated asked (by rintro _ ⟨⟩)
  | none =>
    rw [there] at asked
    simp only [onRecord]
    cases validate m with
    | nil => exact keeps_insert dated asked .create own there
    | cons violation more => exact keeps_same dated asked (by rintro _ ⟨⟩)

private theorem keeps_replace {caller : Caller} {now : Instant} (dated : AllDated visits now s)
    (few : visits < Nat.pow 2 63) (peaceful : Peaceful steps) {m stored : M.Object} {oid : M.Oid}
    (own : m.oid = some oid) (there : s.get? oid = some stored) :
    ((onRecord M settings validate).replace caller now oid m).Ends (s, steps)
      (Keeps visits now Reasonable) := by
  obtain h | ⟨events, h⟩ | ⟨version, events, next, h⟩ :=
    Memory.merge_stamped_cases dated few own there caller.user
  · refine .bind (Store.run_recorded h _ _ steps) (keeps_same dated (peaceful.append _ ?_) ?_)
    · rintro _ ⟨⟩
      exact ⟨_, _, rfl, rfl⟩
    · rintro _ ⟨⟩
  · refine .bind (Store.run_recorded h _ _ steps) (keeps_same dated (peaceful.append _ ?_) trivial)
    rintro _ ⟨⟩
  · refine .bind (Store.run_recorded h _ _ steps) ⟨?_, peaceful.append _ (by rintro _ ⟨⟩), trivial⟩
    obtain ⟨created, counted⟩ := dated.dated there
    refine (dated.later (Nat.le_succ _) (Instant.le_refl _)).replace oid ⟨created, ?_⟩
    exact Nat.le_trans (Nat.le_of_eq (Version.number_of_next? next)) (Nat.succ_le_succ counted)

private theorem keeps_updateAt {caller : Caller} {now : Instant} (dated : AllDated visits now s)
    (few : visits < Nat.pow 2 63) (peaceful : Peaceful steps) {m : M.Object} {oid : M.Oid}
    (own : m.oid = some oid) :
    ((onRecord M settings validate).updateAt caller now oid m).Ends (s, steps)
      (Keeps visits now Reasonable) := by
  simp only [updateAt, onRecord]
  cases validate m with
  | cons violation more => exact keeps_same dated peaceful (by rintro _ ⟨⟩)
  | nil =>
    refine .bind (run_contains_recorded oid) ?_
    have asked := peaceful.append ⟨.contains oid, .contained (s.get? oid).isSome⟩
      (by rintro _ ⟨⟩)
    cases there : s.get? oid with
    | some stored =>
      rw [there] at asked
      exact keeps_replace dated few asked own there
    | none =>
      rw [there] at asked
      -- The settings may turn the update into a first store of the object.
      refine .ite (fun _ ↦ ?_) fun _ ↦ keeps_same dated asked (by rintro _ ⟨⟩)
      exact .bind (Action.run_report _ _) (keeps_insert dated asked .update own there)

private theorem keeps_create {caller : Caller} {moment : Moment}
    (dated : AllDated visits moment.now s)
    (peaceful : Peaceful steps) (m : M.Object) :
    ((onRecord M settings validate).create caller moment m).Ends (s, steps)
      (Keeps visits moment.now SoundReply) := by
  refine .ite (fun _ ↦ keeps_same dated peaceful trivial) fun _ ↦
    .ite (fun _ ↦ keeps_same dated peaceful (by rintro _ ⟨⟩)) fun _ ↦ ?_
  cases own : m.oid with
  | some oid => exact .map (keeps_createAt dated peaceful own)
  | none =>
    refine .ite (fun _ ↦ keeps_same dated peaceful (by rintro _ ⟨⟩)) fun _ ↦ ?_
    exact .bind (Action.run_report _ _) (.map (keeps_createAt dated peaceful rfl))

private theorem keeps_update {caller : Caller} {now : Instant} (dated : AllDated visits now s)
    (few : visits < Nat.pow 2 63) (peaceful : Peaceful steps) (m : M.Object) :
    ((onRecord M settings validate).update caller now m).Ends (s, steps)
      (Keeps visits now SoundReply) := by
  cases own : m.oid with
  | none =>
    simp only [update, own]
    exact keeps_same dated peaceful trivial
  | some oid =>
    simp only [update, own]
    refine .ite (fun _ ↦ keeps_same dated peaceful trivial) fun _ ↦
      .ite (fun _ ↦ keeps_same dated peaceful (by rintro _ ⟨⟩)) fun _ ↦ ?_
    exact .map (keeps_updateAt dated few peaceful own)

private theorem keeps_delete {caller : Caller} {now : Instant} (dated : AllDated visits now s)
    (peaceful : Peaceful steps) (oid : M.Oid) :
    ((onRecord M settings validate).delete caller oid).Ends (s, steps)
      (Keeps visits now SoundReply) := by
  refine .ite (fun _ ↦ keeps_same dated peaceful (by rintro _ ⟨⟩)) fun _ ↦
    .bind (Store.run_recorded (Memory.run_remove oid s) (.remove oid) .removed steps) ?_
  have rest := (dated.later (Nat.le_succ _) (Instant.le_refl _)).erase oid
  have told := peaceful.append ⟨.remove oid, .removed (s.get? oid)⟩ (by rintro _ ⟨⟩)
  cases there : s.get? oid with
  | some m =>
    rw [there] at told
    exact ⟨rest, told, trivial⟩
  | none =>
    rw [there] at told
    exact ⟨rest, told, by rintro _ ⟨⟩⟩

private theorem keeps_load {caller : Caller} {now : Instant} (dated : AllDated visits now s)
    (peaceful : Peaceful steps) (oid : M.Oid) :
    ((onRecord M settings validate).load caller oid).Ends (s, steps)
      (Keeps visits now SoundReply) := by
  refine .bind (Store.run_recorded (Memory.run_find oid s) (.find oid) .found steps) ?_
  have told := peaceful.append ⟨.find oid, .found (s.get? oid)⟩ (by rintro _ ⟨⟩)
  cases there : s.get? oid with
  | some m =>
    rw [there] at told
    exact keeps_same dated told trivial
  | none =>
    rw [there] at told
    exact keeps_same dated told (by rintro _ ⟨⟩)

/-- The reply to a request is sound. -/
theorem keeps_serve {caller : Caller} {moment : Moment} (dated : AllDated visits moment.now s)
    (few : visits < Nat.pow 2 63) (peaceful : Peaceful steps) (request : Request M) :
    ((onRecord M settings validate).serve caller moment request).Ends (s, steps)
      (Keeps visits moment.now SoundReply) := by
  cases request with
  | load oid => exact keeps_load dated peaceful oid
  | create m => exact keeps_create dated peaceful m
  | update m => exact keeps_update dated few peaceful m
  | save m =>
    exact .ite (fun _ ↦ keeps_create dated peaceful m) fun _ ↦ keeps_update dated few peaceful m
  | delete oid => exact keeps_delete dated peaceful oid

/-- What a visit is given is sound. -/
theorem keeps_answer (v : Visit M) (dated : AllDated visits v.moment.now s)
    (few : visits < Nat.pow 2 63) (peaceful : Peaceful steps) :
    (v.answer (Memory.store M).recording).Ends (s, steps)
      (Keeps visits v.moment.now Given.Sound) := by
  obtain ⟨settings, validate, caller, moment, task⟩ := v
  cases task with
  | serve request =>
    have served : ((onRecord M settings validate).serve caller moment request).Ends (s, steps)
        (Keeps visits moment.now SoundReply) := keeps_serve dated few peaceful request
    exact served
  | loadAll =>
    have told := peaceful.append ⟨.findAll, .listed s.all⟩ (by rintro _ ⟨⟩)
    exact keeps_same dated told ⟨s.all, rfl⟩

/-- From a store of dated objects, visits in the order of time are given what is sound, and nothing
but conflicts comes on the record. -/
theorem attend_sound (vs : List (Visit M)) (visits : Nat) (s : Memory M) (steps : List (Step M))
    (dated : ∀ v ∈ vs, AllDated visits v.moment.now s) (few : visits + vs.length ≤ Nat.pow 2 63)
    (peaceful : Peaceful steps) (order : vs.Pairwise fun v w ↦ v.moment.now ≤ w.moment.now) :
    (attend (Memory.store M).recording vs).Ends (s, steps) fun t givens ↦
      Peaceful t.2 ∧ ∀ given ∈ givens, given.Sound := by
  induction vs generalizing visits s steps with
  | nil => exact ⟨peaceful, fun _ h ↦ nomatch h⟩
  | cons v vs ih =>
    rw [List.forall_mem_cons] at dated
    obtain ⟨before, order⟩ := List.pairwise_cons.mp order
    rw [List.length_cons] at few
    have here : visits < Nat.pow 2 63 := by omega
    obtain ⟨kept, told, sound⟩ := keeps_answer v dated.1 here peaceful
    have rest :=
      ih _ _ _ (fun w hw ↦ kept.later (Nat.le_refl _) (before w hw)) (by omega) told order
    refine ⟨rest.1, ?_⟩
    intro given hg
    rcases List.mem_cons.mp hg with rfl | hg
    · exact sound
    · exact rest.2 given hg

/-- Visits to services that share an empty store in memory, fewer than `2 ^ 63` and with clocks that
do not run backwards, are never given a failure of the server, and always the objects when they ask
for all of them. A store that keeps a record shows why: it leads to the same answers and the same
objects, and of all that the services asked of it only merges of another version failed. -/
theorem attend_without_serverError (vs : List (Visit M)) (few : vs.length < Nat.pow 2 63)
    (order : vs.Pairwise fun v w ↦ v.moment.now ≤ w.moment.now) :
    let plain := (attend (Memory.store M) vs).run (.empty M)
    let told := (attend (Memory.store M).recording vs).run (.empty M, [])
    (∀ given ∈ plain.value, given.Sound) ∧
    told.value = plain.value ∧ told.state.1 = plain.state ∧ Peaceful told.state.2 := by
  intro plain told
  have mirror : plain = ⟨told.value, told.state.1, told.events⟩ :=
    mirrors_attend (Store.mirrors_recording (Memory.store M)) vs (.empty M, [])
  have sound := attend_sound vs 0 (.empty M) [] (fun _ _ _ h ↦ nomatch h) (by omega)
    (fun _ h ↦ nomatch h) order
  rw [mirror]
  exact ⟨sound.2, rfl, rfl, sound.1⟩

/-- A visit to a service for notes at the start of a year. -/
def noteVisit (settings : Settings) (year : Int) (calendar : firstYear ≤ year ∧ year ≤ lastYear)
    (task : Task Catalogue.note) : Visit Catalogue.note :=
  ⟨settings, fun _ ↦ [], .anonymous, ⟨.startOfYear year calendar, Schema.initial .uuid⟩, task⟩

/-- Visits to two services for notes: a note is created, changed, and changed by someone who knows
its old version; another one is created by an update, and the first is deleted. -/
def noteVisits : List (Visit Catalogue.note) :=
  let careful := { Settings.standard with createMissing := false }
  let lenient := Settings.standard
  [noteVisit careful 2000 (by decide) (.serve (.create (submitted noteA "first" .unsaved))),
    noteVisit lenient 2001 (by decide) (.serve (.update (submitted noteA "second" .first))),
    noteVisit careful 2001 (by decide) (.serve (.update (submitted noteA "stale" .first))),
    noteVisit lenient 2002 (by decide) (.serve (.update (submitted noteB "other" .first))),
    noteVisit careful 2003 (by decide) (.serve (.delete noteA)),
    noteVisit careful 2003 (by decide) .loadAll]

/-- The services for notes are sound on these visits, of which one meets a conflict. -/
theorem attend_noteVisits : noteVisits.length < Nat.pow 2 63 ∧
    (noteVisits.Pairwise fun v w ↦ v.moment.now ≤ w.moment.now) ∧
    (∀ given ∈ ((attend (Memory.store Catalogue.note) noteVisits).run (.empty _)).value,
      given.Sound) ∧
    (.failed (.versionConflict .first Version.first.next) ∈
      (((attend (Memory.store Catalogue.note).recording noteVisits).run
        (.empty _, [])).state.2.map Step.result)) := by
  have few : noteVisits.length < Nat.pow 2 63 := by decide
  have order : noteVisits.Pairwise fun v w ↦ v.moment.now ≤ w.moment.now := by decide
  exact ⟨few, order, (attend_without_serverError noteVisits few order).1, by decide +kernel⟩

end Service

end VersionedStore
