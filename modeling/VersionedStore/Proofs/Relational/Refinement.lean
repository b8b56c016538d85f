import VersionedStore.Proofs.Relational.Calls
import VersionedStore.Proofs.Store.Family

/-!
# The store over the table refines the store in memory

Stores for any number of models over one table answer every run of calls as memories of their own
would, except that the numeric ids of each model go by other names, in the same order. Every call
keeps the table a mirror of the memories, and adds at most one name.
-/

namespace VersionedStore

open Crud

namespace Relational

open Memory (reached)
open Store (Call FamilyCall FamilyStep)

variable {ι : Type} {models : ι → Model} {σ : Type} {engine : Engine σ}

/-- The step of one of several stores, renumbered by the names of its model. -/
def renumberStep (ρ : (i : ι) → Word 64 → Word 64) (step : FamilyStep models) : FamilyStep models :=
  ⟨step.which, step.step.call, step.step.result.renumber (ρ step.which)⟩

/-- The stores over one table for several models. -/
def family (models : ι → Model) (engine : Engine σ) : Store.Family models σ :=
  fun i ↦ store (models i) engine

/-- What stores over a table answer is what memories answer under other names: the numeric ids of
each model, which run from one to the sequence of its memory, are renamed in the same order. -/
structure Renames (ρ : ι → Word 64 → Word 64) (last : (i : ι) → Memory (models i))
    (told answered : List (FamilyStep models)) : Prop where
  numbered : ∀ step ∈ told, step.step.result.Numbered (last step.which).sequence
  ascending : ∀ i (j k : Word 64), 1 ≤ j.val → j < k → k ≤ (last i).sequence → ρ i j < ρ i k
  same : answered = told.map (renumberStep ρ)

/-- Memories go on from others: no numeric id is taken back, and what had a name keeps it. -/
def GoesOn (before after : (i : ι) → Memory (models i)) (ρ ρ' : ι → Word 64 → Word 64) : Prop :=
  ∀ i, ∀ n ≤ (before i).sequence, n ≤ (after i).sequence ∧ ρ' i n = ρ i n

/-- What goes on from memories that go on from others goes on from these. -/
theorem GoesOn.trans {first second third : (i : ι) → Memory (models i)}
    {ρ₁ ρ₂ ρ₃ : ι → Word 64 → Word 64} (h : GoesOn first second ρ₁ ρ₂)
    (more : GoesOn second third ρ₂ ρ₃) : GoesOn first third ρ₁ ρ₃ := by
  intro i n most
  obtain ⟨most', kept⟩ := h i n most
  obtain ⟨most'', kept'⟩ := more i n most'
  exact ⟨most'', kept'.trans kept⟩

variable [DecidableEq ι]

/-- Runs of several memories, with one more call at the end of one of them. -/
def withCall (made : (i : ι) → List (Call (models i))) (i : ι) (c : Call (models i)) :
    (j : ι) → List (Call (models j)) :=
  Function.update made i (made i ++ [c])

/-- The run of the memory that is called ends with the call. -/
theorem withCall_self (made : (i : ι) → List (Call (models i))) (i : ι) (c : Call (models i)) :
    withCall made i c i = made i ++ [c] :=
  Function.update_self ..

/-- The runs of the other memories are as they were. -/
theorem withCall_of_ne (made : (i : ι) → List (Call (models i))) {i j : ι} (other : j ≠ i)
    (c : Call (models i)) : withCall made i c j = made j :=
  Function.update_of_ne other ..

/-- A call of one of several memories leaves what a run with the call reaches. -/
theorem reached_withCall (made : (i : ι) → List (Call (models i))) (i : ι) (c : Call (models i)) :
    reached (withCall made i c i) =
      (((Memory.store (models i)).perform c).run (reached (made i))).state := by
  rw [withCall_self]
  exact Store.after_append _ (made i) [c] _

/-- A call of one of several memories leaves the others as they are. -/
theorem update_reached (made : (i : ι) → List (Call (models i))) (i : ι) (c : Call (models i)) :
    Function.update (fun j ↦ reached (made j)) i
      (((Memory.store (models i)).perform c).run (reached (made i))).state =
    fun j ↦ reached (withCall made i c j) := by
  funext j
  by_cases same : j = i
  · subst same
    rw [Function.update_self, reached_withCall]
  · rw [Function.update_of_ne same, withCall_of_ne made same]

/-- A table mirrors what memories have reached in runs of at most so many calls, under some
names. -/
structure Follows (serving : Serving engine) (count : Nat) (made : (i : ι) → List (Call (models i)))
    (ρ : ι → Word 64 → Word 64) (u : σ) : Prop where
  counted : ∀ i, (made i).length ≤ count
  mirrors : ∀ i, Mirrors (ρ i) (reached (made i)) (serving.table u)

/-- The store over a table answers a call as the memory of its model does, under names that go on
from those given before, and the table goes on to mirror all the memories. -/
theorem Follows.call {serving : Serving engine} {count : Nat}
    {made : (i : ι) → List (Call (models i))} {ρ : ι → Word 64 → Word 64} {u : σ}
    (follows : Follows serving count made ρ u)
    (distinct : Function.Injective fun i ↦ (models i).tag) {i : ι}
    (conventional : (models i).Conventional) (few : count + 1 < Nat.pow 2 63)
    (space : 0 < serving.room u) (c : Call (models i)) :
    let result := (((Memory.store (models i)).perform c).run (reached (made i))).value
    ∃ names v events,
      ((store (models i) engine).perform c).run u = ⟨result.renumber names, v, events⟩ ∧
      result.Numbered (reached (withCall made i c i)).sequence ∧
      GoesOn (fun j ↦ reached (made j)) (fun j ↦ reached (withCall made i c j)) ρ
        (Function.update ρ i names) ∧
      Follows serving (count + 1) (withCall made i c) (Function.update ρ i names) v ∧
      serving.room u ≤ serving.room v + 1 := by
  intro result
  have small : Nat.pow 2 63 ≤ Nat.pow 2 64 := by decide
  have length := follows.counted i
  have tidy := (Memory.tidy_reached (made i) (by omega)).mono length
  have room : (reached (made i)).sequence.val + 1 < Nat.pow 2 64 := by
    have := tidy.counted
    omega
  have did := Memory.transition (reached (made i)) c
  rw [← reached_withCall] at did
  obtain ⟨names, v, events, keeps, run, mirror, frames⟩ :=
    simulates (follows.mirrors i) tidy few space conventional did
  refine ⟨names, v, events, run, Memory.numbered_of_transition did tidy room, ?_, ⟨?_, ?_⟩,
    frames.room⟩
  · intro j n most
    by_cases same : j = i
    · subst same
      rw [Function.update_self]
      exact ⟨Fin.le_trans most (Memory.sequence_le_of_transition did room), keeps n most⟩
    · show n ≤ (reached (withCall made i c j)).sequence ∧ _
      rw [Function.update_of_ne same, withCall_of_ne made same]
      exact ⟨most, rfl⟩
  · intro j
    by_cases same : j = i
    · subst same
      rw [withCall_self, List.length_append, List.length_singleton]
      exact Nat.succ_le_succ length
    · rw [withCall_of_ne made same]
      exact Nat.le_succ_of_le (follows.counted j)
  · intro j
    by_cases same : j = i
    · subst same
      rw [Function.update_self]
      exact mirror
    · rw [Function.update_of_ne same, withCall_of_ne made same]
      exact (follows.mirrors j).frame (frames.others _ fun tags ↦ same (distinct tags)) frames.later

/-- The stores over a table that mirrors memories give the same answers as they do from there on,
under names that go on from those given before. -/
theorem Follows.history {serving : Serving engine}
    (distinct : Function.Injective fun i ↦ (models i).tag)
    (conventional : ∀ i, (models i).Conventional) (calls : List (FamilyCall models))
    {count : Nat} {made : (i : ι) → List (Call (models i))} {u : σ} {ρ : ι → Word 64 → Word 64}
    (follows : Follows serving count made ρ u) (few : count + calls.length < Nat.pow 2 63)
    (space : calls.length ≤ serving.room u) :
    let last := Store.Family.after (Memory.family models) calls fun i ↦ reached (made i)
    ∃ ρ', GoesOn (fun i ↦ reached (made i)) last ρ ρ' ∧
      Renames ρ' last (Store.Family.history (Memory.family models) calls fun i ↦ reached (made i))
        (Store.Family.history (family models engine) calls u) := by
  induction calls generalizing count made u ρ with
  | nil =>
    refine ⟨ρ, fun _ _ most ↦ ⟨most, rfl⟩, ?_⟩
    exact ⟨fun _ h ↦ absurd h List.not_mem_nil, fun i ↦ (follows.mirrors i).ascending, rfl⟩
  | cons first calls ih =>
    obtain ⟨i, c⟩ := first
    rw [List.length_cons] at few space
    obtain ⟨names, v, events, run, numbered, goes, follows', left⟩ :=
      follows.call distinct (conventional i) (by omega) (by omega) c
    obtain ⟨ρ', goes', renames⟩ := ih follows' (by omega) (by omega)
    rw [Memory.after_family, Memory.history_family, update_reached]
    refine ⟨ρ', goes.trans goes', ?_, renames.ascending, ?_⟩
    · refine List.forall_mem_cons.mpr ⟨fun m hm ↦ ?_, renames.numbered⟩
      obtain ⟨n, id, one, most⟩ := numbered m hm
      exact ⟨n, id, one, (goes' i n most).1⟩
    · have final : ∀ n ≤ (reached (withCall made i c i)).sequence, names n = ρ' i n := by
        intro n most
        rw [(goes' i n most).2, Function.update_self]
      rw [Store.Family.history, family, run, Store.Result.renumber_congr numbered final,
        List.map_cons, ← renames.same]
      rfl

/-- Stores for models with tags of their own, whose JSON keeps the names of the metadata, over one
table without rows answer every run of calls as memories of their own do, under other numeric ids in
the same order: as long as there are fewer calls than columns have numbers, and there is room in the
sequence. -/
theorem history_refines {serving : Serving engine}
    (distinct : Function.Injective fun i ↦ (models i).tag)
    (conventional : ∀ i, (models i).Conventional) {u : σ} (empty : (serving.table u).rows = [])
    (start : 0 ≤ (serving.table u).sequence.value) (calls : List (FamilyCall models))
    (few : calls.length < Nat.pow 2 63) (space : calls.length ≤ serving.room u) :
    ∃ ρ, Renames ρ (Store.Family.after (Memory.family models) calls fun i ↦ .empty (models i))
      (Store.Family.history (Memory.family models) calls fun i ↦ .empty (models i))
      (Store.Family.history (family models engine) calls u) := by
  have follows : Follows serving 0 (fun i ↦ ([] : List (Call (models i)))) (fun _ ↦ id) u :=
    ⟨fun _ ↦ Nat.le_refl 0, fun _ ↦ mirrors_empty empty start⟩
  obtain ⟨ρ, -, renames⟩ := follows.history distinct conventional calls (by omega) space
  exact ⟨ρ, renames⟩

/-- Notes and bags, which share a table. -/
def office : Bool → Model
  | true => Catalogue.note
  | false => Catalogue.bag

/-- A call about notes. -/
def aboutNotes (c : Call Catalogue.note) : FamilyCall office := ⟨true, c⟩

/-- A call about bags. -/
def aboutBags (c : Call Catalogue.bag) : FamilyCall office := ⟨false, c⟩

/-- A bag with an OID that is one of a note as well. -/
def officeBag : Catalogue.bag.Object :=
  ⟨some "a", none, .unsaved, .empty, (Document.ofJson (.obj [("numeric_id", .int 7)]), ())⟩

/-- A run in which notes and bags are stored in turns, a note is refused, changed and taken out, and
all notes and bags are listed. -/
def officeCalls : List (FamilyCall office) :=
  [aboutNotes (.persist (Memory.submitted Memory.noteA "first" .unsaved)),
    aboutBags (.persist officeBag),
    aboutNotes (.persist (Memory.submitted Memory.noteA "again" .unsaved)),
    aboutNotes (.persist (Memory.submitted Memory.noteB "second" .unsaved)),
    aboutNotes (.merge (Memory.submitted Memory.noteB "third" .first)),
    aboutNotes (.remove Memory.noteA), aboutNotes .findAll, aboutBags .findAll]

/-- The numeric ids in the results of some steps. -/
def numericIds (steps : List (FamilyStep models)) : List (Option Nat) :=
  steps.flatMap fun step ↦ step.step.result.objects.map fun m ↦ m.numericId.map Fin.val

/-- Notes and bags get the same answers from the table as from memories of their own, in which their
numeric ids are lower: on the table, those of both and of the refused note come from one
sequence. -/
theorem history_refines_office : Function.Injective (fun i ↦ (office i).tag) ∧
    (∀ i, (office i).Conventional) ∧ officeCalls.length < Nat.pow 2 63 ∧
    officeCalls.length ≤ Table.serving.room .empty ∧
    (∃ ρ, Renames ρ
      (Store.Family.after (Memory.family office) officeCalls fun i ↦ .empty (office i))
      (Store.Family.history (Memory.family office) officeCalls fun i ↦ .empty (office i))
      (Store.Family.history (family office Table.engine) officeCalls .empty)) ∧
    numericIds (Store.Family.history (family office Table.engine) officeCalls .empty) =
      [some 1, some 2, some 4, some 4, some 1, some 4, some 2] ∧
    numericIds (Store.Family.history (Memory.family office) officeCalls fun i ↦ .empty (office i)) =
      [some 1, some 1, some 2, some 2, some 1, some 2, some 1] := by
  have distinct : Function.Injective fun i ↦ (office i).tag := by
    intro i j same
    cases i <;> cases j <;> first | rfl | exact absurd same (by decide)
  have conventional : ∀ i, (office i).Conventional := by decide
  have few : officeCalls.length < Nat.pow 2 63 := by decide
  have space : officeCalls.length ≤ Table.serving.room .empty := by decide
  exact ⟨distinct, conventional, few, space,
    history_refines distinct conventional rfl (Int.le_refl 0) officeCalls few space,
    by decide +kernel, by decide +kernel⟩

end Relational

end VersionedStore
