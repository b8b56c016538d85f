import VersionedStore.Proofs.Memory.Invariant

/-!
# Calls that commute

A call reads what lies under the OIDs that it concerns, and changes the store there only: what it
does is one edit of the rows. Two calls that concern no OID in common give the same results in
either order and leave the same store, unless both take in an object; then the two objects have
each other's numeric id.
-/

namespace VersionedStore

open Crud

/-- Does a call read or write what lies under an OID? A listing reads everything. -/
def Store.Call.Concerns {M : Model} : Store.Call M → M.Oid → Prop
  | .find o, oid | .contains o, oid | .remove o, oid => o = oid
  | .persist m, oid | .merge m, oid => m.oid = some oid
  | .findAll, _ => True

/-- Two calls concern no OID in common. -/
def Store.Call.Apart {M : Model} (c d : Store.Call M) : Prop :=
  ∀ oid, c.Concerns oid → ¬d.Concerns oid

/-- An object with another numeric id, or with none. -/
def Model.Object.numbered {M : Model} (m : M.Object) (numericId : Option (Word 64)) : M.Object :=
  { m with numericId }

namespace Memory

open Store (Call Result)

variable {M : Model}

private theorem erase_erase (a b : M.Oid) (s : Memory M) : (s.erase a).erase b =
    (s.erase b).erase a := by
  simp only [erase, List.filter_filter, mk.injEq, and_true]
  exact List.filter_congr fun e _ ↦ Bool.and_comm _ _

/-- What is put under one OID stays when another one is taken out. -/
theorem erase_replace {a b : M.Oid} (h : a ≠ b) (m : M.Object) (s : Memory M) :
    (s.replace a m).erase b = (s.erase b).replace a m := by
  simp only [erase, replace, List.filter_map, mk.injEq, and_true]
  congr 1
  apply List.filter_congr
  intro e _
  by_cases he : e.1 = a
  · simp [he, h]
  · simp [he]

private theorem replace_replace {a b : M.Oid} (h : a ≠ b) (m n : M.Object) (s : Memory M) :
    (s.replace a m).replace b n = (s.replace b n).replace a m := by
  simp only [replace, List.map_map, mk.injEq, and_true]
  apply List.map_congr_left
  intro e _
  by_cases ha : e.1 = a
  · simp [ha, h]
  · by_cases hb : e.1 = b
    · simp [hb, Ne.symm h]
    · simp [ha, hb]

/-- An object that is taken in stays when another OID is taken out. -/
theorem erase_insert {a b : M.Oid} (h : a ≠ b) (m : M.Object) (s : Memory M) :
    (s.insert a m).erase b = (s.erase b).insert a m := by
  simp [erase, insert, h]

/-- An object that is taken in stays when another one is put under another OID. -/
theorem replace_insert {a b : M.Oid} (h : a ≠ b) (m n : M.Object) (s : Memory M) :
    (s.insert a m).replace b n = (s.replace b n).insert a m := by
  simp [replace, insert, h]

private theorem replace_of_free {oid : M.Oid} {s : Memory M} (free : s.get? oid = none)
    (m : M.Object) :
    s.replace oid m = s := by
  have absent := get?_eq_none_iff.mp free
  obtain ⟨rows, sequence⟩ := s
  simp only [replace, mk.injEq, and_true]
  refine (List.map_congr_left fun e he ↦ if_neg ?_).trans (List.map_id rows)
  rintro rfl
  exact absent (List.mem_map_of_mem he)

/-- An object that has just been taken in makes room for another one. -/
theorem replace_insert_self {oid : M.Oid} {s : Memory M} (free : s.get? oid = none)
    (m n : M.Object) : (s.insert oid m).replace oid n = s.insert oid n := by
  have same := congrArg objects (replace_of_free free n)
  simp only [replace] at same
  simp [replace, insert, same]

/-- What a call does to the rows of a memory. -/
inductive Edit (M : Model) where
  | keep
  | insert (oid : M.Oid) (m : M.Object)
  | replace (oid : M.Oid) (m : M.Object)
  | erase (oid : M.Oid)

namespace Edit

/-- The memory after an edit. -/
def on : Edit M → Memory M → Memory M
  | keep, s => s
  | insert oid m, s => s.insert oid m
  | replace oid m, s => s.replace oid m
  | erase oid, s => s.erase oid

/-- The OID under which an edit changes something. -/
def oid? : Edit M → Option M.Oid
  | keep => none
  | insert oid _ | replace oid _ | erase oid => some oid

/-- Does an edit take in an object? -/
def isInsert : Edit M → Bool
  | insert .. => true
  | _ => false

private theorem get?_on {e : Edit M} {oid : M.Oid} (aside : oid ∉ e.oid?) (s : Memory M) :
    (e.on s).get? oid = s.get? oid := by
  have apart : ∀ other, e.oid? = some other → oid ≠ other := by
    rintro other own rfl
    exact aside own
  cases e with
  | keep => rfl
  | insert other m => exact get?_insert_ne m (apart other rfl)
  | replace other m => exact get?_replace_ne (apart other rfl)
  | erase other => exact get?_erase_ne (apart other rfl)

/-- Only taking in an object moves the sequence on. -/
theorem sequence_on {e : Edit M} (h : e.isInsert = false) (s : Memory M) :
    (e.on s).sequence = s.sequence := by
  cases e with
  | insert => cases h
  | keep | replace | erase => rfl

/-- Edits under different OIDs commute, unless both take in an object. -/
theorem on_on {e f : Edit M} (apart : ∀ oid ∈ e.oid?, oid ∉ f.oid?)
    (one : ¬(e.isInsert = true ∧ f.isInsert = true)) (s : Memory M) :
    f.on (e.on s) = e.on (f.on s) := by
  have ne : ∀ a b, e.oid? = some a → f.oid? = some b → a ≠ b := by
    rintro a b ha hb rfl
    exact apart a ha hb
  cases e with
  | keep => rfl
  | insert a m =>
    cases f with
    | keep => rfl
    | insert b n => exact absurd ⟨rfl, rfl⟩ one
    | replace b n => exact replace_insert (ne a b rfl rfl) m n s
    | erase b => exact erase_insert (ne a b rfl rfl) m s
  | replace a m =>
    cases f with
    | keep => rfl
    | insert b n => exact (replace_insert (ne a b rfl rfl).symm n m s).symm
    | replace b n => exact replace_replace (ne a b rfl rfl) m n s
    | erase b => exact erase_replace (ne a b rfl rfl) m s
  | erase a =>
    cases f with
    | keep => rfl
    | insert b n => exact (erase_insert (ne a b rfl rfl).symm n s).symm
    | replace b n => exact (erase_replace (ne a b rfl rfl).symm n s).symm
    | erase b => exact erase_erase a b s

end Edit

/-- An edit that a call may make: it changes only what the call concerns, and takes in an object for
a persist only. -/
structure Edit.Within (e : Edit M) (c : Call M) : Prop where
  concerned : ∀ oid ∈ e.oid?, c.Concerns oid
  persists : e.isInsert = true → c.isPersist = true

/-- Two memories are the same to a call. -/
structure Alike (c : Call M) (s t : Memory M) : Prop where
  rows : ∀ oid, c.Concerns oid → t.get? oid = s.get? oid
  sequence : c.isPersist = true → t.sequence = s.sequence
  listed : c = .findAll → t = s

/-- A merge meets the same object in memories that are the same to it. -/
theorem Alike.meets {m stored : M.Object} {oid : M.Oid} {s t : Memory M}
    (alike : Alike (.merge m) s t) (h : Meets s m oid stored) : Meets t m oid stored :=
  ⟨h.own, (alike.rows oid h.own).trans h.there, h.agrees⟩

/-- A call fails alike in memories that are the same to it. -/
theorem Alike.fails {c : Call M} {s t : Memory M} (alike : Alike c s t) {failure : Failure}
    (cause : Fails s c failure) : Fails t c failure := by
  cases cause with
  | persistWithoutOid none => exact .persistWithoutOid none
  | persistIncoherent own incoherent => exact .persistIncoherent own incoherent
  | occupied own coherent there => exact .occupied own coherent ((alike.rows _ own).trans there)
  | mergeWithoutOid none => exact .mergeWithoutOid none
  | missing own free => exact .missing own ((alike.rows _ own).trans free)
  | conflict own there other => exact .conflict own ((alike.rows _ own).trans there) other
  | mergeIncoherent meets differs incoherent =>
    exact .mergeIncoherent (alike.meets meets) differs incoherent
  | lastVersion meets differs coherent last =>
    exact .lastVersion (alike.meets meets) differs coherent last

/-- What a call does is one edit, and it gives the same result and makes the same edit in every
memory that is the same to it. -/
theorem Transition.edit {s t : Memory M} {c : Call M} {r : Result M} (h : Transition s c r t) :
    ∃ e : Edit M, e.Within c ∧ t = e.on s ∧ ∀ u, Alike c s u → Transition u c r (e.on u) := by
  have keep : Edit.Within .keep c := ⟨by rintro _ ⟨⟩, by rintro ⟨⟩⟩
  cases h with
  | found oid =>
    refine ⟨.keep, keep, rfl, fun u alike ↦ ?_⟩
    rw [← alike.rows oid rfl]
    exact .found oid
  | contained oid =>
    refine ⟨.keep, keep, rfl, fun u alike ↦ ?_⟩
    rw [← alike.rows oid rfl]
    exact .contained oid
  | listed =>
    refine ⟨.keep, keep, rfl, fun u alike ↦ ?_⟩
    rw [alike.listed rfl]
    exact .listed
  | @persisted m oid admits =>
    have within : Edit.Within (.insert oid (m.entering s.sequence.after)) (.persist m) :=
      ⟨by rintro _ ⟨⟩; exact admits.own, fun _ ↦ rfl⟩
    refine ⟨_, within, rfl, fun u alike ↦ ?_⟩
    rw [← alike.sequence rfl]
    exact .persisted ⟨admits.own, admits.coherent, (alike.rows _ admits.own).trans admits.free⟩
  | notModified meets same =>
    exact ⟨.keep, keep, rfl, fun u alike ↦ .notModified (alike.meets meets) same⟩
  | @updated m stored oid version succeeds =>
    have within : Edit.Within (.replace oid (m.succeeding stored version)) (.merge m) :=
      ⟨by rintro _ ⟨⟩; exact succeeds.own, by rintro ⟨⟩⟩
    refine ⟨_, within, rfl, fun u alike ↦ ?_⟩
    exact .updated ⟨alike.meets succeeds.toMeets, succeeds.differs, succeeds.coherent,
      succeeds.next⟩
  | removed oid =>
    have within : Edit.Within (.erase oid) (.remove oid) := ⟨by rintro _ ⟨⟩; rfl, by rintro ⟨⟩⟩
    refine ⟨_, within, rfl, fun u alike ↦ ?_⟩
    rw [← alike.rows oid rfl]
    exact .removed oid
  | failed cause =>
    exact ⟨.keep, keep, rfl, fun u alike ↦ .failed (alike.fails cause)⟩

/-- To a call that concerns other OIDs an edit does not matter, unless both take in an object. -/
theorem Edit.Within.alike {e : Edit M} {c d : Call M} (within : e.Within c) (apart : c.Apart d)
    (one : ¬(c.isPersist = true ∧ d.isPersist = true)) (s : Memory M) : Alike d s (e.on s) where
  rows oid concerned :=
    Edit.get?_on (fun touched ↦ apart oid (within.concerned oid touched) concerned) s
  sequence persists := by
    apply Edit.sequence_on
    cases inserts : e.isInsert with
    | false => rfl
    | true => exact absurd ⟨within.persists inserts, persists⟩ one
  listed := by
    rintro rfl
    cases e with
    | keep => rfl
    | insert oid _ | replace oid _ | erase oid =>
      exact absurd trivial (apart oid (within.concerned oid rfl))

/-- The steps of two calls and the state that they leave, by what each does. -/
theorem history_pair {s t u : Memory M} {c d : Call M} {r q : Result M}
    (first : Transition s c r t) (second : Transition t d q u) :
    (store M).history [c, d] s = [⟨c, r⟩, ⟨d, q⟩] ∧ (store M).after [c, d] s = u := by
  obtain ⟨value, state⟩ := first.ends
  obtain ⟨value', state'⟩ := second.ends
  simp only [Store.history, Store.after, value, state, value', state', and_self]

/-- A persist that gives an object was admitted. -/
theorem admits_of_persisted {s t : Memory M} {m x : M.Object}
    (h : Transition s (.persist m) (.persisted x) t) :
    ∃ oid, Admits s m oid ∧ x = m.entering s.sequence.after ∧ t = s.insert oid x := by
  cases h with
  | persisted admits => exact ⟨_, admits, rfl, rfl⟩

/-- Two memories hold the same rows, in whatever order, and have given out as many numeric ids. -/
def SameRows (s t : Memory M) : Prop := s.objects.Perm t.objects ∧ s.sequence = t.sequence

/-- The memory in which the objects under two OIDs have each other's numeric id. -/
def exchanged (a b : M.Oid) (s : Memory M) : Memory M :=
  match s.get? a, s.get? b with
  | some m, some n => (s.replace a (m.numbered n.numericId)).replace b (n.numbered m.numericId)
  | _, _ => s

/-- Taking in two objects under free OIDs in the other order exchanges their numeric ids. -/
theorem sameRows_exchanged {a b : M.Oid} (ne : a ≠ b) {s : Memory M} (freeA : s.get? a = none)
    (freeB : s.get? b = none) (m n : M.Object) :
    SameRows ((s.insert b (n.numbered m.numericId)).insert a (m.numbered n.numericId))
      (((s.insert a m).insert b n).exchanged a b) := by
  have freeB' : (s.insert a m).get? b = none := (get?_insert_ne m ne.symm).trans freeB
  have thereA : ((s.insert a m).insert b n).get? a = some m :=
    (get?_insert_ne n ne).trans (get?_insert_self m freeA)
  have thereB : ((s.insert a m).insert b n).get? b = some n := get?_insert_self n freeB'
  simp only [exchanged, thereA, thereB]
  rw [replace_insert ne.symm, replace_insert_self freeA, replace_insert_self]
  · refine ⟨?_, rfl⟩
    simp only [insert, List.append_assoc]
    exact List.Perm.append_left _ (List.Perm.swap _ _ [])
  · exact (get?_insert_ne _ ne.symm).trans freeB

/-- Calls that concern no OID in common commute: unless both take in an object, either order gives
each of them the same result and leaves the same store. Two that take in an object succeed in either
order as well, and the objects have each other's numeric id. -/
theorem calls_commute (s : Memory M) {c d : Call M} (apart : c.Apart d) :
    (¬(c.isPersist = true ∧ d.isPersist = true) →
      (store M).history [d, c] s = ((store M).history [c, d] s).reverse ∧
        (store M).after [d, c] s = (store M).after [c, d] s) ∧
    ∀ m n x y, c = .persist m → d = .persist n →
      (store M).history [c, d] s = [⟨c, .persisted x⟩, ⟨d, .persisted y⟩] →
      (store M).history [d, c] s = [⟨d, .persisted (y.numbered x.numericId)⟩,
        ⟨c, .persisted (x.numbered y.numericId)⟩] ∧
      ∃ a b, m.oid = some a ∧ n.oid = some b ∧
        SameRows ((store M).after [d, c] s) (((store M).after [c, d] s).exchanged a b) := by
  constructor
  · intro one
    obtain ⟨e, edits, done, again⟩ := (transition s c).edit
    obtain ⟨f, edits', done', again'⟩ := (transition s d).edit
    have apart' : d.Apart c := fun oid hd hc ↦ apart oid hc hd
    have one' : ¬(d.isPersist = true ∧ c.isPersist = true) := fun h ↦ one h.symm
    have first := history_pair (done ▸ transition s c) (again' _ (edits.alike apart one s))
    have second := history_pair (done' ▸ transition s d) (again _ (edits'.alike apart' one' s))
    rw [first.1, first.2, second.1, second.2]
    refine ⟨rfl, Edit.on_on (fun oid hf he ↦ ?_) ?_ s⟩
    · exact apart oid (edits.concerned oid he) (edits'.concerned oid hf)
    · exact fun h ↦ one ⟨edits.persists h.2, edits'.persists h.1⟩
  · rintro m n x y rfl rfl both
    have first := transition s (.persist m)
    have second := transition ((store M).after [.persist m] s) (.persist n)
    simp only [Store.history, List.cons.injEq, Store.Step.mk.injEq, true_and, and_true] at both
    simp only [Store.after, both.1] at first second
    rw [both.2] at second
    obtain ⟨a, admits, rfl, left⟩ := admits_of_persisted first
    rw [left] at second
    obtain ⟨b, admits', rfl, left'⟩ := admits_of_persisted second
    have ne : a ≠ b := fun h ↦ apart a admits.own (h ▸ admits'.own)
    have freeB : s.get? b = none := (get?_insert_ne _ ne.symm).symm.trans admits'.free
    have swapped : Transition s (.persist n) _ _ :=
      .persisted ⟨admits'.own, admits'.coherent, freeB⟩
    have swapped' : Transition (s.insert b (n.entering s.sequence.after)) (.persist m) _ _ :=
      .persisted ⟨admits.own, admits.coherent, (get?_insert_ne _ ne).trans admits.free⟩
    have other := history_pair swapped swapped'
    have here := history_pair (left ▸ first) second
    rw [other.1, other.2, here.2, left']
    exact ⟨rfl, a, b, admits.own, admits'.own,
      sameRows_exchanged ne admits.free freeB (m.entering s.sequence.after)
        (n.entering s.sequence.after.after)⟩

/-- Two notes are taken in behind one that is gone: whichever comes first gets the second number. -/
theorem calls_commute_notes :
    let m := submitted noteA "first" .last
    let n := submitted noteB "second" .unsaved
    let s := reached [.persist m, .remove noteA]
    Call.Apart (.persist m) (.persist n) ∧
      ((store Catalogue.note).history [.persist n, .persist m] s).map
        (fun step ↦ step.result.snapshots.map fun x ↦ (x.oidText, x.numericId.map Fin.val)) =
          [[("b", some 2)], [("a", some 3)]] ∧
      SameRows ((store Catalogue.note).after [.persist n, .persist m] s)
        (((store Catalogue.note).after [.persist m, .persist n] s).exchanged noteA noteB) := by
  intro m n s
  have apart : Call.Apart (.persist m) (.persist n) := by
    rintro oid ⟨⟩ same
    exact absurd (Option.some.inj same) (by decide)
  have taken : (store Catalogue.note).history [.persist m, .persist n] s =
      [⟨.persist m, .persisted (m.entering s.sequence.after)⟩,
        ⟨.persist n, .persisted (n.entering s.sequence.after.after)⟩] := by decide +kernel
  obtain ⟨results, a, b, ownA, ownB, same⟩ :=
    (calls_commute s apart).2 m n _ _ rfl rfl taken
  obtain rfl := Option.some.inj ownA
  obtain rfl := Option.some.inj ownB
  exact ⟨apart, by rw [results]; decide +kernel, same⟩

end Memory

end VersionedStore
