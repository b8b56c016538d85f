import VersionedStore.Proofs.Service.Transition

/-!
# What a service reports is what happened to the store

`Accounts` reads an answer as a statement about the store before and after the request: which object
came in, was exchanged or was taken out, or that nothing changed. However a request is served by a
service over the store in memory, its reply is shown to tell the truth.
-/

namespace VersionedStore

open Crud

namespace Memory

variable {M : Model}

/-- An object of the first version came in under a free OID, and the sequence moved on by one. -/
structure Added (before after : Memory M) (oid : M.Oid) (m : M.Object) : Prop where
  own : m.oid = some oid
  free : oid ∉ before.objects.map Prod.fst
  first : m.version = .first
  objects : after.objects = before.objects ++ [(oid, m)]
  sequence : after.sequence = before.sequence.after

/-- An object took the place of the one under its OID, whose version was one less. -/
structure Exchanged (before after : Memory M) (oid : M.Oid) (m : M.Object) : Prop where
  own : m.oid = some oid
  rows : ∃ front old back, before.objects = front ++ (oid, old) :: back ∧
    after.objects = front ++ (oid, m) :: back ∧
    m.version.number.val = old.version.number.val + 1
  sequence : after.sequence = before.sequence

/-- The object under an OID was taken out. -/
structure TakenOut (before after : Memory M) (oid : M.Oid) (m : M.Object) : Prop where
  own : m.oid = some oid
  rows : ∃ front back, before.objects = front ++ (oid, m) :: back ∧ after.objects = front ++ back
  sequence : after.sequence = before.sequence

/-- Nothing changed, and an object lies under its OID. -/
structure Shown (before after : Memory M) (oid : M.Oid) (m : M.Object) : Prop where
  own : m.oid = some oid
  there : before.get? oid = some m
  same : after = before

/-- What the answer to a request about an OID says about the store before and after. -/
def Accounts (oid : M.Oid) (before after : Memory M) : Answer M.Object → Prop
  | .done ⟨_, .created, m⟩ => Added before after oid m
  | .done ⟨_, .updated, m⟩ => Exchanged before after oid m
  | .done ⟨_, .deleted, m⟩ => TakenOut before after oid m
  | .done ⟨_, .loaded, m⟩ | .done ⟨_, .notModified, m⟩ => Shown before after oid m
  | .rejected _ => after = before

/-- The row of an object that is found, between rows with other keys. -/
theorem rows_of_get? {s : Memory M} (keys : (s.objects.map Prod.fst).Nodup) {oid : M.Oid}
    {m : M.Object} (there : s.get? oid = some m) :
    ∃ front back, s.objects = front ++ (oid, m) :: back ∧
      (∀ e ∈ front, e.1 ≠ oid) ∧ ∀ e ∈ back, e.1 ≠ oid := by
  obtain ⟨front, back, split⟩ := List.append_of_mem (mem_of_get? there)
  rw [split, List.map_append, List.map_cons, List.nodup_middle, List.nodup_cons,
    List.mem_append, not_or] at keys
  refine ⟨front, back, split, ?_, ?_⟩
  · rintro e he rfl
    exact keys.1.1 (List.mem_map.mpr ⟨e, he, rfl⟩)
  · rintro e he rfl
    exact keys.1.2 (List.mem_map.mpr ⟨e, he, rfl⟩)

private theorem exchanged_replace {s : Memory M} (keys : (s.objects.map Prod.fst).Nodup)
    {m stored : M.Object} {oid : M.Oid} {version : Version}
    (h : Succeeds s m oid stored version) :
    Exchanged s (s.replace oid (m.succeeding stored version)) oid
      (m.succeeding stored version) where
  own := h.own
  rows := by
    obtain ⟨front, back, split, before, behind⟩ := rows_of_get? keys h.there
    have kept {rows : List (M.Oid × M.Object)} (apart : ∀ e ∈ rows, e.1 ≠ oid) (n : M.Object) :
        rows.map (fun e ↦ if e.1 = oid then (oid, n) else e) = rows := by
      rw [List.map_congr_left fun e he ↦ if_neg (apart e he), List.map_id']
    refine ⟨front, stored, back, split, ?_, Version.number_of_next? h.next⟩
    rw [replace, split, List.map_append, List.map_cons, kept before, kept behind, if_pos rfl]
  sequence := rfl

private theorem takenOut_erase {s : Memory M} (consistent : Consistent s) {oid : M.Oid}
    {m : M.Object}
    (there : s.get? oid = some m) : TakenOut s (s.erase oid) oid m where
  own := (consistent.fits_of_get? there).own
  rows := by
    obtain ⟨front, back, split, before, behind⟩ := rows_of_get? consistent.keys there
    refine ⟨front, back, split, ?_⟩
    rw [erase, split, List.filter_append, List.filter_cons_of_neg (by simp),
      List.filter_eq_self.mpr fun e he ↦ decide_eq_true (before e he),
      List.filter_eq_self.mpr fun e he ↦ decide_eq_true (behind e he)]
  sequence := rfl

/-- An answer that accounts for two states calls itself a write exactly when they differ. -/
theorem ne_iff_isWrite_of_accounts {oid : M.Oid} {before after : Memory M}
    {answer : Answer M.Object} (h : Accounts oid before after answer) :
    after ≠ before ↔ answer.isWrite = true := by
  match answer, h with
  | .done ⟨_, .created, m⟩, added =>
    refine iff_of_true ?_ rfl
    rintro rfl
    simpa using added.objects
  | .done ⟨_, .updated, m⟩, exchanged =>
    refine iff_of_true ?_ rfl
    rintro rfl
    obtain ⟨front, old, back, split, same, counted⟩ := exchanged.rows
    rw [split, List.append_cancel_left_eq, List.cons.injEq] at same
    cases same.1
    omega
  | .done ⟨_, .deleted, m⟩, taken =>
    refine iff_of_true ?_ rfl
    rintro rfl
    obtain ⟨front, back, split, same⟩ := taken.rows
    rw [split] at same
    simpa using congrArg List.length same
  | .done ⟨_, .loaded, m⟩, shown | .done ⟨_, .notModified, m⟩, shown =>
    exact iff_of_false (fun ne ↦ ne shown.same) Bool.false_ne_true
  | .rejected _, same => exact iff_of_false (fun ne ↦ ne same) Bool.false_ne_true

/-- What is left under the OID of a reported object. -/
def remaining : Success M.Object → Option M.Object
  | ⟨_, .deleted, _⟩ => none
  | ⟨_, _, m⟩ => some m

/-- What was accounted for is found in the store afterwards, under the OID of its object. -/
theorem get?_of_accounts {oid : M.Oid} {before after : Memory M}
    (keys : (before.objects.map Prod.fst).Nodup) {success : Success M.Object}
    (h : Accounts oid before after (.done success)) :
    success.object.oid = some oid ∧ after.get? oid = remaining success := by
  match success, h with
  | ⟨_, .created, m⟩, added =>
    refine ⟨added.own, ?_⟩
    have inserted : after = before.insert oid m := by
      obtain ⟨objects, sequence⟩ := after
      rw [insert, ← added.objects, ← added.sequence]
    rw [inserted]
    exact get?_insert_self m (get?_eq_none_iff.mpr added.free)
  | ⟨_, .updated, m⟩, exchanged =>
    obtain ⟨front, old, back, split, same, -⟩ := exchanged.rows
    refine ⟨exchanged.own, get?_of_mem ?_ ?_⟩
    · rw [same, List.map_append, List.map_cons]
      rwa [split, List.map_append, List.map_cons] at keys
    · rw [same]
      exact List.mem_append_right front List.mem_cons_self
  | ⟨_, .deleted, m⟩, taken =>
    obtain ⟨front, back, split, same⟩ := taken.rows
    refine ⟨taken.own, get?_eq_none_iff.mpr ?_⟩
    rw [split, List.map_append, List.map_cons, List.nodup_middle, List.nodup_cons,
      ← List.map_append] at keys
    rw [same]
    exact keys.1
  | ⟨_, .loaded, m⟩, shown | ⟨_, .notModified, m⟩, shown =>
    refine ⟨shown.own, ?_⟩
    rw [shown.same]
    exact shown.there

end Memory

namespace Service

open Memory (Accounts Consistent reached remaining)

variable {M : Model}

/-- What a reply says about the store: an error says that nothing changed. -/
def AccountsReply (oid : M.Oid) (before after : Memory M) : Reply M.Object → Prop
  | .ok answer => Accounts oid before after answer
  | .error _ => after = before

/-- However a request is served, the reply accounts for what becomes of the store. -/
theorem Serves.accounts {validate : M.Object → List Violation} {caller : Caller} {moment : Moment}
    {request : Request M} {s t : Memory M} {reply : Reply M.Object}
    (h : Serves validate caller moment s request t reply) (consistent : Consistent s) :
    AccountsReply (request.oid moment) s t reply := by
  cases h with
  | refused | rejected | invalid => exact rfl
  | loaded there => exact ⟨(consistent.fits_of_get? there).own, there, rfl⟩
  | created _ _ _ admits =>
    exact ⟨admits.own, Memory.get?_eq_none_iff.mp admits.free, rfl, rfl, rfl⟩
  | notModified _ _ meets _ =>
    exact ⟨(consistent.fits_of_get? meets.there).own, meets.there, rfl⟩
  | updated _ _ succeeds => exact Memory.exchanged_replace consistent.keys succeeds
  | deleted there => exact Memory.takenOut_erase consistent there

/-- The reply to any request accounts for what became of the store. -/
theorem ends_serve {settings : Settings} {validate : M.Object → List Violation} (caller : Caller)
    (moment : Moment) (request : Request M) {s : Memory M} (consistent : Consistent s) :
    ((inMemory M settings validate).serve caller moment request).Ends s
      (AccountsReply (request.oid moment) s) :=
  (serves_serve settings validate caller moment request s).accounts consistent

/-- From every reachable store, the reply to a request accounts for what became of the store, the
store is another one exactly when the reply calls itself a write, and a load that follows finds the
object that was reported, or nothing where it was deleted. -/
theorem serve_accounts (calls : List (Store.Call M)) (settings : Settings)
    (validate : M.Object → List Violation) (caller next : Caller) (moment : Moment)
    (request : Request M) :
    let service := inMemory M settings validate
    let outcome := (service.serve caller moment request).run (reached calls)
    AccountsReply (request.oid moment) (reached calls) outcome.state outcome.value ∧
    (outcome.state ≠ reached calls ↔
      ∃ answer, outcome.value = .ok answer ∧ answer.isWrite = true) ∧
    ∀ success, outcome.value = .ok (.done success) →
      success.object.oid = some (request.oid moment) ∧
      ((service.load next (request.oid moment)).run outcome.state).value =
        .ok (answerFound (request.oid moment) (remaining success)) := by
  intro service outcome
  have consistent := Memory.consistent_reached calls
  have accounts : AccountsReply (request.oid moment) (reached calls) outcome.state outcome.value :=
    ends_serve caller moment request consistent
  refine ⟨accounts, ?_, ?_⟩
  · cases reply : outcome.value with
    | error e =>
      rw [reply] at accounts
      refine iff_of_false (fun ne ↦ ne accounts) ?_
      rintro ⟨answer, h, -⟩
      cases h
    | ok answer =>
      rw [reply] at accounts
      rw [Memory.ne_iff_isWrite_of_accounts accounts]
      constructor
      · intro write
        exact ⟨answer, rfl, write⟩
      · rintro ⟨other, h, write⟩
        cases h
        exact write
  · intro success reply
    rw [reply] at accounts
    obtain ⟨own, found⟩ := Memory.get?_of_accounts consistent.keys accounts
    refine ⟨own, ?_⟩
    rw [run_load, found]

end Service

end VersionedStore
