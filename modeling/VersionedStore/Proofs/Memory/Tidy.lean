import VersionedStore.Proofs.Memory.Invariant

/-!
# What is in a memory after so many calls

No version counts more than the calls that were made and no more numeric ids were given out, so both
stay small in short runs. Every object that a call gives back has a numeric id that was given out.
-/

namespace VersionedStore

open Crud

namespace Store

variable {M : Model}

/-- The objects in the result of a call. -/
def Result.objects : Result M → List M.Object
  | .found m | .removed m => m.toList
  | .listed ms => ms
  | .persisted m => [m]
  | .merged r => [r.object]
  | .contained _ | .failed _ => []

/-- The objects in a result have numeric ids from one to a number. -/
def Result.Numbered (last : Word 64) (r : Result M) : Prop :=
  ∀ m ∈ r.objects, ∃ n, m.numericId = some n ∧ 1 ≤ n.val ∧ n ≤ last

end Store

namespace Memory

open Store (Call Result)

variable {M : Model}

/-- What is in a memory after so many calls: no version and no numeric id counts more than the
calls, and the objects follow each other by their numeric ids. -/
structure Tidy (count : Nat) (s : Memory M) : Prop where
  consistent : Consistent s
  ascending : (s.objects.map Prod.snd).Pairwise Precedes
  numbered : ∀ e ∈ s.objects, ∃ n, e.2.numericId = some n ∧ 1 ≤ n.val ∧ n ≤ s.sequence
  counted : s.sequence.val ≤ count
  versions : ∀ e ∈ s.objects, e.2.version.number.val ≤ count

private theorem versions_reached (calls : List (Call M)) :
    ∀ e ∈ (reached calls).objects, e.2.version.number.val ≤ (recorded calls).length := by
  refine reached_induction
    (P := fun steps s ↦ ∀ e ∈ s.objects, e.2.version.number.val ≤ steps.length)
    (fun _ h ↦ nomatch h) ?_ calls
  intro steps s c r t did ih e he
  rw [List.length_append, List.length_singleton]
  have kept : e ∈ s.objects → e.2.version.number.val ≤ steps.length + 1 :=
    fun h ↦ Nat.le_succ_of_le (ih e h)
  cases did with
  | found | contained | listed | notModified | failed => exact kept he
  | removed oid => exact kept (List.mem_filter.mp he).1
  | persisted admits =>
    rcases List.mem_append.mp he with he | he
    · exact kept he
    · obtain rfl := List.mem_singleton.mp he
      exact Nat.le_add_left ..
  | @updated m stored oid version succeeds =>
    obtain ⟨old, ho, rfl⟩ := List.mem_map.mp he
    split
    · have before : stored.version.number.val ≤ steps.length :=
        ih _ (mem_of_get? succeeds.there)
      have next := Version.number_of_next? succeeds.next
      simp only [Model.Object.succeeding]
      omega
    · exact Nat.le_succ_of_le (ih old ho)

/-- Every store that is reached by fewer calls than there are numbers is tidy. -/
theorem tidy_reached (calls : List (Call M)) (few : calls.length < Nat.pow 2 64) :
    Tidy calls.length (reached calls) := by
  have made : (recorded calls).map Store.Step.call = calls := Store.map_call_history ..
  have length : (recorded calls).length = calls.length := by
    rw [← congrArg List.length made, List.length_map]
  have taken : (Store.takenIn (recorded calls)).length ≤ calls.length := by
    refine Nat.le_trans (Store.length_takenIn_le (recorded calls)) ?_
    rw [made]
    exact List.countP_le_length
  have counted := counted_reached calls
  have space := Nat.lt_of_le_of_lt taken few
  obtain ⟨ascending, numbered⟩ := rows_ascending (follows_reached calls) counted space
  exact ⟨consistent_reached calls, ascending, numbered, (counted space).1 ▸ taken,
    length ▸ versions_reached calls⟩

/-- What is tidy after some calls counts no more after others. -/
theorem Tidy.mono {count more : Nat} {s : Memory M} (h : s.Tidy count) (le : count ≤ more) :
    s.Tidy more :=
  { h with
    counted := Nat.le_trans h.counted le
    versions := fun e he ↦ Nat.le_trans (h.versions e he) le }

/-- As long as numbers last, the sequence does not fall back. -/
theorem sequence_le_of_transition {s t : Memory M} {c : Call M} {r : Result M}
    (did : Transition s c r t)
    (space : s.sequence.val + 1 < Nat.pow 2 64) : s.sequence ≤ t.sequence := by
  cases did with
  | persisted admits => exact Fin.le_def.mpr (val_after space ▸ Nat.le_succ _)
  | found | contained | listed | notModified | updated | removed | failed => exact Fin.le_refl _

/-- The objects that a call gives back have numeric ids from one to the sequence. -/
theorem numbered_of_transition {s t : Memory M} {c : Call M} {r : Result M}
    (did : Transition s c r t) {count : Nat} (tidy : s.Tidy count)
    (space : s.sequence.val + 1 < Nat.pow 2 64) : r.Numbered t.sequence := by
  have known {oid : M.Oid} {m : M.Object} (there : s.get? oid = some m) :
      ∃ n, m.numericId = some n ∧ 1 ≤ n.val ∧ n ≤ s.sequence :=
    tidy.numbered _ (mem_of_get? there)
  intro m hm
  cases did with
  | contained | failed => nomatch hm
  | found oid | removed oid => exact known (Option.mem_toList.mp hm)
  | listed =>
    change m ∈ s.all at hm
    rw [all_of_ascending tidy.ascending] at hm
    obtain ⟨e, he, rfl⟩ := List.mem_map.mp hm
    exact tidy.numbered e he
  | persisted admits =>
    obtain rfl := List.mem_singleton.mp hm
    exact ⟨_, rfl, val_after space ▸ Nat.le_add_left .., Fin.le_refl _⟩
  | notModified meets same =>
    obtain rfl := List.mem_singleton.mp hm
    exact known meets.there
  | updated succeeds =>
    obtain rfl := List.mem_singleton.mp hm
    obtain ⟨n, own, bounds⟩ := known succeeds.there
    refine ⟨n, ?_, bounds⟩
    rw [Merged.object, Model.Object.succeeding, own]
    rfl

end Memory

end VersionedStore
