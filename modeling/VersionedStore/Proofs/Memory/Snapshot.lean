import VersionedStore.Proofs.Memory.Invariant

/-!
# Snapshots and optimistic locking

From the moment when a call shows an object as stored until its OID is taken out, the store holds
that very object or one with a later version. So the version alone tells whether a snapshot is still
what is stored, and a merge that carries the version of an outdated one is refused.
-/

namespace VersionedStore

open Crud

private theorem Version.lt_of_next? {v w : Version} (h : v.next? = some w) : v < w := by
  change v.number.val < w.number.val
  have := Version.number_of_next? h
  omega

namespace Memory

open Store (Call Result)

variable {M : Model}

/-- Under an OID lies a snapshot or an object with a later version. -/
def Descends (s : Memory M) (oid : M.Oid) (snapshot : M.Object) : Prop :=
  ∃ current, s.get? oid = some current ∧
    (current = snapshot ∨ snapshot.version < current.version)

private theorem mem_all {s : Memory M} {m : M.Object} :
    m ∈ s.all ↔ ∃ e ∈ s.objects, e.2 = m := by
  rw [all, (List.mergeSort_perm _ _).mem_iff, List.mem_map]

private theorem holds_of_snapshot {s t : Memory M} {c : Call M} {r : Result M}
    (h : Transition s c r t)
    (consistent : Consistent s) {m : M.Object} (shown : m ∈ r.snapshots) : Holds t m := by
  have own {oid : M.Oid} {m : M.Object} (there : s.get? oid = some m) : m.oid = some oid :=
    (consistent.fits_of_get? there).own
  cases h with
  | contained | removed | failed => cases shown
  | found oid =>
    have there : s.get? oid = some m := Option.mem_toList.mp shown
    exact ⟨oid, own there, there⟩
  | listed =>
    obtain ⟨e, he, rfl⟩ := mem_all.mp shown
    exact ⟨e.1, (consistent.fits e he).own, get?_of_mem consistent.keys he⟩
  | persisted admits =>
    rw [List.mem_singleton.mp shown]
    exact ⟨_, admits.own, get?_insert_self _ admits.free⟩
  | notModified meets =>
    rw [List.mem_singleton.mp shown]
    exact ⟨_, own meets.there, meets.there⟩
  | updated succeeds =>
    rw [List.mem_singleton.mp shown]
    exact ⟨_, succeeds.own, succeeds.get?_replace _⟩

/-- Every call but a removal of the OID lets what descends from a snapshot descend from it. -/
theorem descends_transition {s t : Memory M} {c : Call M} {r : Result M} (h : Transition s c r t)
    {oid : M.Oid} (kept : c ≠ .remove oid) {snapshot : M.Object}
    (descends : Descends s oid snapshot) : Descends t oid snapshot := by
  obtain ⟨current, there, age⟩ := descends
  cases h with
  | found | contained | listed | notModified | failed => exact ⟨current, there, age⟩
  | @persisted m other admits =>
    have apart : oid ≠ other := by
      rintro rfl
      rw [admits.free] at there
      cases there
    refine ⟨current, ?_, age⟩
    rwa [get?_insert_ne _ apart]
  | @updated m stored other version succeeds =>
    by_cases same : oid = other
    · subst same
      rw [succeeds.there] at there
      cases there
      -- The merge met the descendant itself, so what it stores has a later version still.
      refine ⟨_, succeeds.get?_replace _, .inr ?_⟩
      have later : current.version < version := Version.lt_of_next? succeeds.next
      rcases age with rfl | age
      · exact later
      · exact Nat.lt_trans age later
    · refine ⟨current, ?_, age⟩
      rwa [get?_replace_ne same]
  | removed other =>
    have apart : oid ≠ other := by
      rintro rfl
      exact kept rfl
    refine ⟨current, ?_, age⟩
    rwa [get?_erase_ne apart]

/-- A run that does not take out the OID lets what descends from a snapshot descend from it. -/
theorem descends_after {oid : M.Oid} {snapshot : M.Object} (calls : List (Call M))
    (kept : .remove oid ∉ calls) {s : Memory M} (descends : Descends s oid snapshot) :
    Descends ((store M).after calls s) oid snapshot := by
  induction calls generalizing s with
  | nil => exact descends
  | cons c calls ih =>
    rw [List.mem_cons, not_or] at kept
    exact ih kept.2 (descends_transition (transition s c) (Ne.symm kept.1) descends)

/-- A snapshot that a call of a run shows has descendants for as long as its OID is not taken out.
-/
theorem descends_reached (before later : List (Call M)) (c : Call M) {snapshot : M.Object}
    {oid : M.Oid}
    (shown : snapshot ∈ (((store M).perform c).run (reached before)).value.snapshots)
    (own : snapshot.oid = some oid) (kept : .remove oid ∉ later) :
    Descends (reached (before ++ c :: later)) oid snapshot := by
  have moved := transition (reached before) c
  obtain ⟨other, own', there⟩ := holds_of_snapshot moved (consistent_reached before) shown
  rw [own] at own'
  cases own'
  rw [reached, Store.after_append]
  exact descends_after later kept ⟨snapshot, there, .inl rfl⟩

/-- No lost update: while the OID of a snapshot is not taken out, a merge with the version of the
snapshot is no conflict if the snapshot is still what is stored, and otherwise it conflicts with a
later version and leaves the store as it was. -/
theorem merge_of_snapshot (before later : List (Call M)) (c : Call M) {snapshot m : M.Object}
    {oid : M.Oid}
    (shown : snapshot ∈ (((store M).perform c).run (reached before)).value.snapshots)
    (own : snapshot.oid = some oid) (kept : .remove oid ∉ later) (same : m.oid = some oid)
    (version : m.version = snapshot.version) :
    let s := reached (before ++ c :: later)
    (s.get? oid = some snapshot →
      ∀ expected actual, ((merge m).run.run s).value ≠ .error (.versionConflict expected actual)) ∧
    (s.get? oid ≠ some snapshot →
      ∃ actual, (merge m).run.run s = ⟨.error (.versionConflict snapshot.version actual), s, []⟩ ∧
        snapshot.version < actual) := by
  intro s
  constructor
  · intro current expected actual conflict
    obtain ⟨failure, cause, h⟩ | ⟨_, _, _, _, h⟩ | ⟨_, _, _, _, h⟩ := merge_cases m s
    · rw [h] at conflict
      cases Except.error.inj conflict
      obtain ⟨other, stored, own', there, differs⟩ := cause.of_conflict
      rw [same] at own'
      cases own'
      rw [current] at there
      cases there
      exact differs version.symm
    · rw [h] at conflict
      cases conflict
    · rw [h] at conflict
      cases conflict
  · intro outdated
    obtain ⟨current, there, age⟩ := descends_reached before later c shown own kept
    rcases age with rfl | age
    · exact absurd there outdated
    · refine ⟨current.version, ?_, age⟩
      rw [← version] at age ⊢
      apply merge_of_conflict same there
      intro equal
      rw [equal] at age
      exact Nat.lt_irrefl _ age

/-- A note was changed since its persist showed it: whoever still has that snapshot is refused. -/
theorem merge_of_snapshot_notes :
    let note := submitted noteB "second" .unsaved
    let snapshot := note.entering (Word.zero 64).after.after
    snapshot ∈ (((store Catalogue.note).perform (.persist note)).run
      (reached (noteRun.take 1))).value.snapshots ∧
    .remove noteB ∉ noteRun.drop 2 ∧ get? noteB (reached noteRun) ≠ some snapshot ∧
    ∃ actual, (merge (submitted noteB "late" .first)).run.run (reached noteRun) =
      ⟨.error (.versionConflict .first actual), reached noteRun, []⟩ ∧ .first < actual := by
  intro note snapshot
  have shown : snapshot ∈ (((store Catalogue.note).perform (.persist note)).run
      (reached (noteRun.take 1))).value.snapshots := by decide +kernel
  have kept : .remove noteB ∉ noteRun.drop 2 := by decide +kernel
  have outdated : get? noteB (reached noteRun) ≠ some snapshot := by decide +kernel
  have run : noteRun.take 1 ++ .persist note :: noteRun.drop 2 = noteRun := rfl
  have refused := merge_of_snapshot (m := submitted noteB "late" .first) (noteRun.take 1)
    (noteRun.drop 2) (.persist note) shown rfl kept rfl rfl
  rw [run] at refused
  exact ⟨shown, kept, outdated, refused.2 outdated⟩

end Memory

end VersionedStore
