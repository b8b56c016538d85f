import Mathlib.Data.List.Nodup
import VersionedStore.Model.Catalogue
import VersionedStore.Proofs.Memory.Transition

/-!
# What every reachable store in memory looks like

`Consistent` is the invariant of the rows: each OID is a key once, and the object under it is its
own, was given a numeric id and a version, and has coherent tracking. The order of the rows and the
numeric ids are a matter of the history: the rows are the objects that were taken in and not taken
out afterwards, and the sequence numbers what is taken in from one on.
-/

namespace VersionedStore

open Crud

namespace Store

variable {M : Model}

/-- The object that a step took in. -/
def Step.taken? : Step M → Option M.Object
  | ⟨.persist _, .persisted m⟩ => some m
  | _ => none

/-- Does a step ask to take out the OID of an object? -/
def Step.removes (step : Step M) (m : M.Object) : Bool :=
  match step.call with
  | .remove oid => m.oid = some oid
  | _ => false

/-- The objects that were taken in, in the order of their persists. -/
def takenIn (steps : List (Step M)) : List M.Object := steps.filterMap Step.taken?

/-- The objects that were taken in and not taken out afterwards, in the order of their persists. -/
def survivors : List (Step M) → List M.Object
  | [] => []
  | step :: later =>
    (step.taken?.toList.filter fun m ↦ later.all fun l ↦ !l.removes m) ++ survivors later

/-- A further step takes out what it removes and adds what it takes in. -/
theorem survivors_append (steps : List (Step M)) (step : Step M) :
    survivors (steps ++ [step]) =
      ((survivors steps).filter fun m ↦ !step.removes m) ++ step.taken?.toList := by
  induction steps with
  | nil => simp [survivors]
  | cons first steps ih =>
    rw [List.cons_append, survivors, survivors, ih, List.filter_append, List.filter_filter,
      List.append_assoc]
    congr 1
    apply List.filter_congr
    intro m _
    simp [List.all_append, Bool.and_comm]

/-- What survives was taken in, in the same order. -/
theorem survivors_sublist (steps : List (Step M)) :
    (survivors steps).Sublist (takenIn steps) := by
  induction steps with
  | nil => exact List.Sublist.refl _
  | cons step steps ih =>
    rw [survivors]
    cases h : step.taken? with
    | none => simpa [takenIn, List.filterMap_cons, h] using ih
    | some m =>
      rw [takenIn, List.filterMap_cons_some h]
      exact (List.filter_sublist (l := [m])).append ih

/-- A further step may add what it takes in. -/
theorem takenIn_append (steps : List (Step M)) (step : Step M) :
    takenIn (steps ++ [step]) = takenIn steps ++ step.taken?.toList := by
  cases h : step.taken? <;> simp [takenIn, List.filterMap_append, h]

/-- No more objects are taken in than persists are called. -/
theorem length_takenIn_le (steps : List (Step M)) :
    (takenIn steps).length ≤ (steps.map Step.call).countP Call.isPersist := by
  rw [takenIn, List.length_filterMap_eq_countP, List.countP_map]
  apply List.countP_mono_left
  intro step _ h
  obtain ⟨c, r⟩ := step
  cases c with
  | persist m => rfl
  | _ => simp [Step.taken?] at h

end Store

namespace Memory

open Store (Call Result Step survivors takenIn)

variable {M : Model}

/-- An object may lie under an OID: it is its own, and it has what a store gives to an object. -/
structure Fits (oid : M.Oid) (m : M.Object) : Prop where
  own : m.oid = some oid
  numbered : m.numericId.isSome
  versioned : 1 ≤ m.version.number.val
  coherent : m.tracking.validate = .ok ()

/-- An object that fits has been stored. -/
theorem Fits.ne_unsaved {oid : M.Oid} {m : M.Object} (fits : Fits oid m) : m.version ≠ .unsaved := by
  intro new
  have versioned := fits.versioned
  rw [new] at versioned
  exact absurd versioned (by decide)

/-- Each OID is a key once, and the object under it fits. -/
structure Consistent (s : Memory M) : Prop where
  keys : (s.objects.map Prod.fst).Nodup
  fits : ∀ e ∈ s.objects, Fits e.1 e.2

/-- An object that is found is one of the rows. -/
theorem mem_of_get? {s : Memory M} {oid : M.Oid} {m : M.Object} (h : s.get? oid = some m) :
    (oid, m) ∈ s.objects := by
  obtain ⟨e, he, rfl⟩ := Option.map_eq_some_iff.mp h
  have key : e.1 = oid := by simpa using List.find?_some he
  rw [← key]
  exact List.mem_of_find?_eq_some he

/-- Nothing is found exactly under what is no key. -/
theorem get?_eq_none_iff {s : Memory M} {oid : M.Oid} :
    s.get? oid = none ↔ oid ∉ s.objects.map Prod.fst := by
  rw [get?, Option.map_eq_none_iff, List.find?_eq_none, List.mem_map, not_exists]
  simp only [decide_eq_true_eq, not_and]

/-- Where each OID is a key once, every row is found. -/
theorem get?_of_mem {s : Memory M} (keys : (s.objects.map Prod.fst).Nodup) {oid : M.Oid}
    {m : M.Object} (h : (oid, m) ∈ s.objects) : s.get? oid = some m := by
  cases hs : s.get? oid with
  | none => exact absurd (List.mem_map_of_mem h) (get?_eq_none_iff.mp hs)
  | some n =>
    have same := List.inj_on_of_nodup_map keys (mem_of_get? hs) h rfl
    rw [(Prod.mk.inj same).2]

/-- The object that was taken in under a free OID is found there. -/
theorem get?_insert_self {s : Memory M} {oid : M.Oid} (m : M.Object) (free : s.get? oid = none) :
    (s.insert oid m).get? oid = some m := by
  have none : s.objects.find? (fun e ↦ e.1 = oid) = none := Option.map_eq_none_iff.mp free
  simp [get?, insert, List.find?_append, none]

/-- Taking in an object under one OID leaves the others alone. -/
theorem get?_insert_ne {s : Memory M} {oid other : M.Oid} (m : M.Object) (h : other ≠ oid) :
    (s.insert oid m).get? other = s.get? other := by
  simp [get?, insert, List.find?_append, Ne.symm h]

/-- All stored objects have a property. -/
def AllObjects (P : M.Object → Prop) (s : Memory M) : Prop := ∀ e ∈ s.objects, P e.2

/-- There is no object in the empty store. -/
theorem allObjects_empty (P : M.Object → Prop) : AllObjects P (empty M) :=
  fun _ h ↦ absurd h List.not_mem_nil

/-- When an object with the property is taken in, all stored objects still have it. -/
theorem AllObjects.insert {P : M.Object → Prop} {s : Memory M} (h : AllObjects P s) (oid : M.Oid)
    {m : M.Object} (new : P m) : AllObjects P (s.insert oid m) := by
  intro e he
  rcases List.mem_append.mp he with old | here
  · exact h e old
  · rw [List.mem_singleton.mp here]
    exact new

/-- When an object with the property takes a place, all stored objects still have it. -/
theorem AllObjects.replace {P : M.Object → Prop} {s : Memory M} (h : AllObjects P s) (oid : M.Oid)
    {m : M.Object} (new : P m) : AllObjects P (s.replace oid m) := by
  intro e he
  obtain ⟨old, ho, rfl⟩ := List.mem_map.mp he
  split
  · exact new
  · exact h old ho

/-- When an object is taken out, all that are left still have the property. -/
theorem AllObjects.erase {P : M.Object → Prop} {s : Memory M} (h : AllObjects P s) (oid : M.Oid) :
    AllObjects P (s.erase oid) := fun e he ↦ h e (List.mem_filter.mp he).1

/-- In a consistent store, what is found fits under its OID. -/
theorem Consistent.fits_of_get? {s : Memory M} (h : Consistent s) {oid : M.Oid} {m : M.Object}
    (there : s.get? oid = some m) : Fits oid m :=
  h.fits _ (mem_of_get? there)

/-- The empty store is consistent. -/
theorem consistent_empty : Consistent (empty M) := ⟨List.nodup_nil, by simp [empty]⟩

/-- Taking in an object that fits under a free OID keeps a store consistent. -/
theorem consistent_insert {s : Memory M} (h : Consistent s) {oid : M.Oid} {m : M.Object}
    (free : s.get? oid = none) (fits : Fits oid m) : Consistent (s.insert oid m) where
  keys := by
    rw [insert, List.map_append, List.nodup_append]
    refine ⟨h.keys, List.nodup_singleton oid, ?_⟩
    intro k hk l hl
    rw [List.mem_singleton.mp hl]
    rintro rfl
    exact get?_eq_none_iff.mp free hk
  fits := by
    intro e he
    rcases List.mem_append.mp he with old | new
    · exact h.fits e old
    · rw [List.mem_singleton.mp new]
      exact fits

private theorem keys_replace (s : Memory M) (oid : M.Oid) (m : M.Object) :
    (s.replace oid m).objects.map Prod.fst = s.objects.map Prod.fst := by
  rw [replace, List.map_map]
  apply List.map_congr_left
  intro e _
  simp only [Function.comp_apply]
  split
  · next h => exact h.symm
  · rfl

/-- Putting another object that fits in the place of one keeps a store consistent. -/
theorem consistent_replace {s : Memory M} (h : Consistent s) {oid : M.Oid} {m : M.Object}
    (fits : Fits oid m) : Consistent (s.replace oid m) where
  keys := by
    rw [keys_replace]
    exact h.keys
  fits := by
    intro e he
    obtain ⟨old, ho, rfl⟩ := List.mem_map.mp he
    split
    · exact fits
    · exact h.fits old ho

/-- Taking out an object keeps a store consistent. -/
theorem consistent_erase {s : Memory M} (h : Consistent s) (oid : M.Oid) :
    Consistent (s.erase oid) where
  keys := h.keys.sublist (List.filter_sublist.map Prod.fst)
  fits := fun e he ↦ h.fits e ((List.mem_filter.mp he).1)

/-- The object that a persist takes in fits. -/
theorem Admits.fits {s : Memory M} {m : M.Object} {oid : M.Oid} (h : Admits s m oid)
    (n : Word 64) : Fits oid (m.entering n) :=
  ⟨h.own, rfl, Nat.le_refl 1, h.coherent⟩

/-- The object that a merge puts in the place of one that fits, fits as well. -/
theorem Succeeds.fits {s : Memory M} {m stored : M.Object} {oid : M.Oid} {version : Version}
    (h : Succeeds s m oid stored version) (fits : Fits oid stored) :
    Fits oid (m.succeeding stored version) where
  own := h.own
  numbered := by
    obtain ⟨n, hn⟩ := Option.isSome_iff_exists.mp fits.numbered
    simp [Model.Object.succeeding, hn]
  versioned := by
    have := Version.number_of_next? h.next
    simp only [Model.Object.succeeding]
    omega
  coherent := h.coherent

/-- Every call keeps a store consistent. -/
theorem consistent_transition {s t : Memory M} {c : Call M} {r : Result M}
    (h : Transition s c r t) (consistent : Consistent s) : Consistent t := by
  cases h with
  | found | contained | listed | notModified | failed => exact consistent
  | persisted admits => exact consistent_insert consistent admits.free (admits.fits _)
  | updated succeeds =>
    exact consistent_replace consistent (succeeds.fits (consistent.fits_of_get? succeeds.there))
  | removed oid => exact consistent_erase consistent oid

/-- Every reachable store is consistent. -/
theorem consistent_reached (calls : List (Call M)) : Consistent (reached calls) :=
  reached_induction (P := fun _ s ↦ Consistent s) consistent_empty
    (fun _ _ _ _ _ h consistent ↦ consistent_transition h consistent) calls

/-- What holds of the empty store and is kept by the transitions of consistent stores holds after
every run. -/
theorem consistent_induction {P : List (Step M) → Memory M → Prop} (start : P [] (empty M))
    (keep : ∀ steps s c r t, Transition s c r t → Consistent s → P steps s →
      P (steps ++ [⟨c, r⟩]) t) (calls : List (Call M)) : P (recorded calls) (reached calls) := by
  have both : Consistent (reached calls) ∧ P (recorded calls) (reached calls) :=
    reached_induction (P := fun steps s ↦ Consistent s ∧ P steps s) ⟨consistent_empty, start⟩
      (fun _ _ _ _ _ h ih ↦ ⟨consistent_transition h ih.1, keep _ _ _ _ _ h ih.1 ih.2⟩) calls
  exact both.2

/-- The numeric id of the first object lies before the one of the second. -/
def Precedes (m n : M.Object) : Prop :=
  ∃ i j, m.numericId = some i ∧ n.numericId = some j ∧ i < j

/-- What tells an object from the others for life: its OID and its numeric id. -/
def identity (m : M.Object) : Option M.Oid × Option (Word 64) := (m.oid, m.numericId)

/-- The rows are the survivors of the history, in the order in which they were taken in. -/
def Follows (steps : List (Step M)) (s : Memory M) : Prop :=
  s.objects.map (identity ∘ Prod.snd) = (survivors steps).map identity

/-- The sequence has numbered what was taken in from one on, as long as numbers last. -/
def Counted (steps : List (Step M)) (s : Memory M) : Prop :=
  (takenIn steps).length < Nat.pow 2 64 →
    s.sequence.val = (takenIn steps).length ∧
    (takenIn steps).map (fun m ↦ m.numericId.map Fin.val) =
      (List.range' 1 (takenIn steps).length).map some

private theorem identity_succeeding {m stored : M.Object} {oid : M.Oid} (own : m.oid = some oid)
    (fits : Fits oid stored) (version : Version) :
    identity (m.succeeding stored version) = identity stored := by
  obtain ⟨n, hn⟩ := Option.isSome_iff_exists.mp fits.numbered
  simp [identity, Model.Object.succeeding, own, fits.own, hn]

private theorem identities_replace {s : Memory M} (h : Consistent s) {oid : M.Oid}
    {m stored : M.Object} (there : s.get? oid = some stored) (same : identity m = identity stored) :
    (s.replace oid m).objects.map (identity ∘ Prod.snd) =
      s.objects.map (identity ∘ Prod.snd) := by
  rw [replace, List.map_map]
  apply List.map_congr_left
  intro e he
  simp only [Function.comp_apply]
  split
  · next key =>
    have found : s.get? oid = some e.2 := get?_of_mem h.keys (by rwa [← key])
    rw [there] at found
    rw [same, Option.some.inj found]
  · rfl

private theorem identities_erase {s : Memory M} (h : Consistent s) (oid : M.Oid) :
    (s.erase oid).objects.map (identity ∘ Prod.snd) =
      (s.objects.map (identity ∘ Prod.snd)).filter fun i ↦ !decide (i.1 = some oid) := by
  rw [erase, List.filter_map]
  congr 1
  apply List.filter_congr
  intro e he
  simp [identity, (h.fits e he).own]

private theorem follows_transition {steps : List (Step M)} {s t : Memory M} {c : Call M}
    {r : Result M} (h : Transition s c r t) (consistent : Consistent s)
    (follows : Follows steps s) : Follows (steps ++ [⟨c, r⟩]) t := by
  have unmoved {c : Call M} {r : Result M} (kept : ∀ m, Step.removes ⟨c, r⟩ m = false)
      (none : Step.taken? ⟨c, r⟩ = none) : Follows (steps ++ [⟨c, r⟩]) s := by
    simpa [Follows, Store.survivors_append, kept, none] using follows
  cases h with
  | found | contained | listed | notModified => exact unmoved (fun _ ↦ rfl) rfl
  | failed cause => cases cause <;> exact unmoved (fun _ ↦ rfl) rfl
  | persisted admits =>
    rw [Follows, Store.survivors_append]
    simp only [insert, List.map_append, Step.removes, Bool.not_false, List.filter_true]
    rw [follows]
    rfl
  | updated succeeds =>
    have fits := consistent.fits_of_get? succeeds.there
    rw [Follows, identities_replace consistent succeeds.there
      (identity_succeeding succeeds.own fits _), follows, Store.survivors_append]
    simp [Step.removes, Step.taken?]
  | removed oid =>
    rw [Follows, identities_erase consistent, follows, Store.survivors_append, List.filter_map,
      List.map_append]
    simp only [Step.removes, Step.taken?, identity, Function.comp_def, Option.toList_none,
      List.map_nil, List.append_nil]
    rfl

/-- While numbers last, the word after one counts one more. -/
theorem val_after {n : Word 64} (h : n.val + 1 < Nat.pow 2 64) : n.after.val = n.val + 1 :=
  Nat.mod_eq_of_lt h

private theorem counted_transition {steps : List (Step M)} {s t : Memory M} {c : Call M}
    {r : Result M} (h : Transition s c r t) (counted : Counted steps s) :
    Counted (steps ++ [⟨c, r⟩]) t := by
  have unmoved {c : Call M} {r : Result M} {t : Memory M} (none : Step.taken? ⟨c, r⟩ = none)
      (kept : t.sequence = s.sequence) : Counted (steps ++ [⟨c, r⟩]) t := by
    rw [Counted, Store.takenIn_append, none, kept, Option.toList_none, List.append_nil]
    exact counted
  cases h with
  | found | contained | listed | notModified | updated | removed => exact unmoved rfl rfl
  | failed cause => cases cause <;> exact unmoved rfl rfl
  | @persisted m oid admits =>
    intro few
    have taken : takenIn (steps ++ [⟨.persist m, .persisted (m.entering s.sequence.after)⟩]) =
        takenIn steps ++ [m.entering s.sequence.after] := Store.takenIn_append _ _
    rw [taken] at few ⊢
    rw [List.length_append, List.length_singleton] at few ⊢
    obtain ⟨sequence, numbers⟩ := counted (Nat.lt_of_succ_lt few)
    have next : s.sequence.after.val = (takenIn steps).length + 1 := by
      rw [val_after (by rwa [sequence]), sequence]
    refine ⟨next, ?_⟩
    rw [List.map_append, numbers, List.range'_1_concat, List.map_append]
    simp [Model.Object.entering, next, Nat.add_comm]

/-- The rows of a reachable store are the survivors of its history. -/
theorem follows_reached (calls : List (Call M)) :
    Follows (recorded calls) (reached calls) :=
  consistent_induction rfl
    (fun _ _ _ _ _ h consistent ih ↦ follows_transition h consistent ih) calls

/-- The sequence of a reachable store has numbered what was taken in. -/
theorem counted_reached (calls : List (Call M)) :
    Counted (recorded calls) (reached calls) :=
  reached_induction (fun _ ↦ ⟨rfl, rfl⟩) (fun _ _ _ _ _ h ih ↦ counted_transition h ih) calls

/-- What was taken in carries ascending numeric ids, from one to the sequence. -/
theorem Counted.ascending {steps : List (Step M)} {s : Memory M} (h : Counted steps s)
    (few : (takenIn steps).length < Nat.pow 2 64) :
    (takenIn steps).Pairwise Precedes ∧
    ∀ m ∈ takenIn steps, ∃ n, m.numericId = some n ∧ 1 ≤ n.val ∧ n ≤ s.sequence := by
  obtain ⟨sequence, numbers⟩ := h few
  constructor
  · have ordered : ((takenIn steps).map fun m ↦ m.numericId.map Fin.val).Pairwise
        fun a b ↦ ∃ i j, a = some i ∧ b = some j ∧ i < j := by
      rw [numbers, List.pairwise_map]
      exact (List.pairwise_lt_range' 1).imp fun {i j} lt ↦ ⟨i, j, rfl, rfl, lt⟩
    refine (List.pairwise_map.mp ordered).imp ?_
    rintro m n ⟨i, j, hm, hn, lt⟩
    obtain ⟨a, ha, rfl⟩ := Option.map_eq_some_iff.mp hm
    obtain ⟨b, hb, rfl⟩ := Option.map_eq_some_iff.mp hn
    exact ⟨a, b, ha, hb, lt⟩
  · intro m hm
    have mem : m.numericId.map Fin.val ∈ (List.range' 1 (takenIn steps).length).map some := by
      rw [← numbers]
      exact List.mem_map_of_mem hm
    obtain ⟨i, hi, eq⟩ := List.mem_map.mp mem
    obtain ⟨n, hn, rfl⟩ := Option.map_eq_some_iff.mp eq.symm
    rw [List.mem_range'_1] at hi
    refine ⟨n, hn, hi.1, ?_⟩
    rw [Fin.le_def]
    omega

/-- Objects in the order of their numeric ids have different ones. -/
theorem nodup_numericId {ms : List M.Object} (h : ms.Pairwise Precedes) :
    (ms.map Model.Object.numericId).Nodup := by
  apply List.pairwise_map.mpr
  refine h.imp ?_
  rintro m n ⟨i, j, hm, hn, lt⟩ same
  rw [hm, hn] at same
  exact absurd (Option.some.inj same) (Fin.ne_of_lt lt)

/-- The rows follow each other by their numeric ids, from one to the sequence. -/
theorem rows_ascending {steps : List (Step M)} {s : Memory M} (follows : Follows steps s)
    (counted : Counted steps s) (few : (takenIn steps).length < Nat.pow 2 64) :
    (s.objects.map Prod.snd).Pairwise Precedes ∧
    ∀ e ∈ s.objects, ∃ n, e.2.numericId = some n ∧ 1 ≤ n.val ∧ n ≤ s.sequence := by
  obtain ⟨ordered, bounded⟩ := counted.ascending few
  have sub := Store.survivors_sublist steps
  -- The order and the bounds are a matter of identities, which rows and survivors share.
  constructor
  · have identities : ((survivors steps).map identity).Pairwise
        fun a b ↦ ∃ i j, a.2 = some i ∧ b.2 = some j ∧ i < j :=
      List.pairwise_map.mpr (ordered.sublist sub)
    rw [← follows, List.pairwise_map] at identities
    exact List.pairwise_map.mpr identities
  · intro e he
    have mem : identity e.2 ∈ (survivors steps).map identity := by
      rw [← follows]
      exact List.mem_map_of_mem he
    obtain ⟨m, hm, same⟩ := List.mem_map.mp mem
    have number : m.numericId = e.2.numericId := congrArg Prod.snd same
    rw [← number]
    exact bounded m (sub.subset hm)

/-- Objects that already follow each other by their numeric ids are listed as they are. -/
theorem all_of_ascending {s : Memory M} (h : (s.objects.map Prod.snd).Pairwise Precedes) :
    s.all = s.objects.map Prod.snd := by
  apply List.mergeSort_of_pairwise
  refine h.imp ?_
  rintro m n ⟨i, j, hm, hn, lt⟩
  simp [numericOrder, hm, hn, Nat.le_of_lt lt]

/-- Every store that is reached by fewer persists than there are numbers is consistent and numbers
its objects from one to the sequence, no number is given out twice, and the listing gives each
stored object once, by ascending numeric ids, which is the order of the surviving persists. -/
theorem reached_numbered (calls : List (Call M))
    (few : calls.countP Call.isPersist < Nat.pow 2 64) :
    Consistent (reached calls) ∧
    (∀ e ∈ (reached calls).objects, ∃ n,
      e.2.numericId = some n ∧ 1 ≤ n.val ∧ n ≤ (reached calls).sequence) ∧
    ((reached calls).objects.map fun e ↦ e.2.numericId).Nodup ∧
    ((takenIn (recorded calls)).map Model.Object.numericId).Nodup ∧
    ∃ all, ((store M).findAll.run.run (reached calls)).value = .ok all ∧
      all.Perm ((reached calls).objects.map Prod.snd) ∧ all.Pairwise Precedes ∧
      all.map identity = (survivors (recorded calls)).map identity := by
  have follows := follows_reached calls
  have counted := counted_reached calls
  have taken : (takenIn (recorded calls)).length < Nat.pow 2 64 := by
    have made := Store.length_takenIn_le (recorded calls)
    rw [recorded, Store.map_call_history] at made
    exact Nat.lt_of_le_of_lt made few
  obtain ⟨ascending, bounded⟩ := rows_ascending follows counted taken
  have listed := all_of_ascending ascending
  refine ⟨consistent_reached calls, bounded, ?_, ?_, (reached calls).all, rfl, ?_, ?_, ?_⟩
  · have distinct := nodup_numericId ascending
    rwa [List.map_map] at distinct
  · exact nodup_numericId (counted.ascending taken).1
  · rw [listed]
  · rwa [listed]
  · rw [listed, List.map_map]
    exact follows

/-- The OID of a note. -/
def noteA : Catalogue.note.Oid := "a"

/-- The OID of another note. -/
def noteB : Catalogue.note.Oid := "b"

/-- A note as a caller may submit it: its numeric id is made up. -/
def submitted (oid : Catalogue.note.Oid) (title : String) (version : Version) :
    Catalogue.note.Object :=
  ⟨some oid, some Version.last.number, version, .empty, (title, ())⟩

/-- A run in which a note is changed, taken out, taken in again and changed again, while the other
one refuses a stale change. -/
def noteRun : List (Call Catalogue.note) :=
  [.persist (submitted noteA "first" .last), .persist (submitted noteB "second" .unsaved),
    .merge (submitted noteA "third" .first), .merge (submitted noteB "stale" .last),
    .remove noteA, .persist (submitted noteA "again" .unsaved),
    .merge (submitted noteB "other" .first), .merge (submitted noteA "anew" .first)]

/-- After the run the other note comes first, and the one that was taken in again has a new id. -/
theorem reached_numbered_notes : noteRun.countP Call.isPersist < Nat.pow 2 64 ∧
    ∃ all, ((store Catalogue.note).findAll.run.run (reached noteRun)).value = .ok all ∧
      all.map identity = (survivors (recorded noteRun)).map identity ∧
      (survivors (recorded noteRun)).map (fun m ↦ (m.oidText, m.numericId.map Fin.val)) =
        [("b", some 2), ("a", some 3)] := by
  obtain ⟨-, -, -, -, all, listed, -, -, order⟩ := reached_numbered noteRun (by decide)
  exact ⟨by decide, all, listed, order, by decide +kernel⟩

end Memory

end VersionedStore
