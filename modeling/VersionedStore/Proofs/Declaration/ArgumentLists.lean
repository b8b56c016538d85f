import Mathlib.Data.List.Induction
import Mathlib.Data.List.Perm.Basic
import VersionedStore.Declaration.Expansion
import VersionedStore.Proofs.Declaration.ArgumentSpellings

/-!
# Lists of arguments

A model is expanded if its arguments name no key twice, no blank tag and an identifier. The first
argument at fault is refused, whatever follows it. Arguments that are fine are put together in any
order to the same.
-/

namespace VersionedStore.Declaration

/-- Is the argument a tag of blanks? -/
def ModelArgument.isBlankTag : ModelArgument → Bool
  | .tag text => Text.isBlankText text
  | _ => false

namespace ModelArguments

open ModelArgument (Spelled key isBlankTag)

/-! ### One more argument -/

/-- Is the argument among those that are put together? -/
def Has (m : ModelArguments) : ModelArgument → Prop
  | .oid type => m.oid = some type
  | .tag text => m.tag = some text
  | .debug b => m.debug = some b

/-- Is an argument with the key there? -/
def HasKey (m : ModelArguments) (k : String) : Prop := ∃ a, m.Has a ∧ a.key = k

private theorem eq_of_has_iff {m n : ModelArguments} (same : ∀ a, m.Has a ↔ n.Has a) : m = n := by
  cases m
  cases n
  congr
  · exact Option.ext fun type ↦ same (.oid type)
  · exact Option.ext fun text ↦ same (.tag text)
  · exact Option.ext fun b ↦ same (.debug b)

private theorem not_has_empty (a : ModelArgument) : ¬ empty.Has a := by
  cases a <;> simp [Has, empty]

private theorem add_of_hasKey {m : ModelArguments} {a : ModelArgument} (h : m.HasKey a.key) :
    m.add a = .error (.repeatedKey a.key) := by
  obtain ⟨b, there, same⟩ := h
  cases a <;> cases b <;> simp_all [key, add, Has]

private theorem add_of_isBlankTag {m : ModelArguments} {a : ModelArgument} (new : ¬ m.HasKey a.key)
    (blank : a.isBlankTag = true) : m.add a = .error .blankTag := by
  obtain ⟨oid, tag, debug⟩ := m
  cases a with
  | tag text =>
    cases tag with
    | some other => exact absurd ⟨.tag other, rfl, rfl⟩ new
    | none => exact if_pos blank
  | _ => cases blank

private theorem add_of_new {m : ModelArguments} {a : ModelArgument} (new : ¬ m.HasKey a.key)
    (told : a.isBlankTag = false) : ∃ n, m.add a = .ok n ∧ ∀ b, n.Has b ↔ m.Has b ∨ b = a := by
  obtain ⟨oid, tag, debug⟩ := m
  cases a with
  | oid type =>
    cases oid with
    | some other => exact absurd ⟨.oid other, rfl, rfl⟩ new
    | none =>
      refine ⟨_, rfl, fun b ↦ ?_⟩
      cases b <;> simp [Has, eq_comm]
  | tag text =>
    cases tag with
    | some other => exact absurd ⟨.tag other, rfl, rfl⟩ new
    | none =>
      refine ⟨_, if_neg (ne_true_of_eq_false told), fun b ↦ ?_⟩
      cases b <;> simp [Has, eq_comm]
  | debug shown =>
    cases debug with
    | some other => exact absurd ⟨.debug other, rfl, rfl⟩ new
    | none =>
      refine ⟨_, rfl, fun b ↦ ?_⟩
      cases b <;> simp [Has, eq_comm]

/-! ### All arguments -/

/-- Arguments that no one takes offence at: no key is repeated, and no tag is blank. -/
structure Fine (as : List ModelArgument) : Prop where
  keys : (as.map key).Nodup
  tags : ∀ a ∈ as, a.isBlankTag = false

/-- Why arguments are refused: the first one at fault repeats a key, or it is a blank tag. -/
inductive Refused : List ModelArgument → Refusal → Prop where
  | repeated {before after : List ModelArgument} {a : ModelArgument} (fine : Fine before)
      (again : a.key ∈ before.map key) : Refused (before ++ a :: after) (.repeatedKey a.key)
  | blank {before after : List ModelArgument} {a : ModelArgument} (fine : Fine before)
      (new : a.key ∉ before.map key) (blank : a.isBlankTag = true) :
      Refused (before ++ a :: after) .blankTag

private theorem fine_append_singleton {as : List ModelArgument} {a : ModelArgument} :
    Fine (as ++ [a]) ↔ Fine as ∧ a.key ∉ as.map key ∧ a.isBlankTag = false := by
  constructor
  · rintro ⟨keys, tags⟩
    rw [List.map_append, List.nodup_append] at keys
    rw [List.forall_mem_append] at tags
    exact ⟨⟨keys.1, tags.1⟩, fun again ↦ keys.2.2 _ again _ (List.mem_singleton_self _) rfl,
      tags.2 a (List.mem_singleton_self a)⟩
  · rintro ⟨⟨keys, tags⟩, new, told⟩
    constructor
    · rw [List.map_append, List.nodup_append]
      refine ⟨keys, List.pairwise_singleton _ _, ?_⟩
      rintro k mem other single rfl
      rw [List.mem_singleton.mp single] at mem
      exact new mem
    · rw [List.forall_mem_append]
      exact ⟨tags, by simpa using told⟩

private theorem ofList_append_singleton (as : List ModelArgument) (a : ModelArgument) :
    ofList (as ++ [a]) = ofList as >>= (add · a) := by
  simp [ofList, List.foldlM_append]

/-- Arguments are put together if they are fine; otherwise the first at fault is refused. -/
theorem ofList_cases (as : List ModelArgument) :
    (Fine as ∧ ∃ m, ofList as = .ok m ∧ ∀ a, m.Has a ↔ a ∈ as) ∨
      ¬ Fine as ∧ ∃ r, ofList as = .error r ∧ Refused as r := by
  -- The arguments are added from the left, so the induction takes them off at the end.
  induction as using List.reverseRecOn with
  | nil => exact .inl ⟨⟨.nil, by simp⟩, empty, rfl, by simp [not_has_empty]⟩
  | append_singleton as a ih =>
    rw [fine_append_singleton, ofList_append_singleton]
    rcases ih with ⟨fine, m, sofar, has⟩ | ⟨faulty, r, sofar, refused⟩
    · have there : m.HasKey a.key ↔ a.key ∈ as.map key := by
        simp [HasKey, has]
      rw [sofar]
      by_cases again : a.key ∈ as.map key
      · refine .inr ⟨fun h ↦ h.2.1 again, _, add_of_hasKey (there.mpr again), ?_⟩
        exact .repeated fine again
      · have new := mt there.mp again
        cases blank : a.isBlankTag with
        | true =>
          refine .inr ⟨by simp, _, add_of_isBlankTag new blank, ?_⟩
          exact .blank fine again blank
        | false =>
          obtain ⟨n, added, has'⟩ := add_of_new new blank
          exact .inl ⟨⟨fine, again, rfl⟩, n, added, by simp [has', has]⟩
    · refine .inr ⟨fun h ↦ faulty h.1, r, by rw [sofar]; rfl, ?_⟩
      cases refused with
      | repeated fine again => simpa using Refused.repeated fine again
      | blank fine new blank => simpa using Refused.blank fine new blank

/-- Arguments that are fine are put together. -/
theorem ofList_of_fine {as : List ModelArgument} (fine : Fine as) :
    ∃ m, ofList as = .ok m ∧ ∀ a, m.Has a ↔ a ∈ as := by
  rcases ofList_cases as with ⟨-, put⟩ | ⟨faulty, -⟩
  · exact put
  · exact absurd fine faulty

/-- Arguments that are put together are fine. -/
theorem fine_of_ofList {as : List ModelArgument} {m : ModelArguments} (put : ofList as = .ok m) :
    Fine as ∧ ∀ a, m.Has a ↔ a ∈ as := by
  rcases ofList_cases as with ⟨fine, n, put', has⟩ | ⟨-, r, put', -⟩
  · cases put.symm.trans put'
    exact ⟨fine, has⟩
  · cases put.symm.trans put'

private theorem ofList_of_not_fine {as : List ModelArgument} (faulty : ¬ Fine as) :
    ∃ r, ofList as = .error r ∧ Refused as r := by
  rcases ofList_cases as with ⟨fine, -⟩ | ⟨-, refused⟩
  · exact absurd fine faulty
  · exact refused

/-- Arguments stay fine in another order. -/
theorem Fine.perm {as bs : List ModelArgument} (fine : Fine as) (perm : as.Perm bs) : Fine bs :=
  ⟨(perm.map key).nodup_iff.mp fine.keys, fun a mem ↦ fine.tags a (perm.mem_iff.mpr mem)⟩

/-- Arguments that are fine are put together to the same in another order. -/
theorem ofList_perm {as bs : List ModelArgument} (fine : Fine as) (perm : as.Perm bs) :
    ofList as = ofList bs := by
  obtain ⟨m, put, has⟩ := ofList_of_fine fine
  obtain ⟨n, put', has'⟩ := ofList_of_fine (fine.perm perm)
  rw [put, put', eq_of_has_iff fun a ↦ (has a).trans (perm.mem_iff.trans (has' a).symm)]

/-! ### Expansions -/

private theorem exists_perm_of_perm {before : List Tree → Prop} {as : List ModelArgument}
    {pieces others : List (List Tree)} (spelled : List.Forall₂ (Spelled before) as pieces)
    (perm : pieces.Perm others) : ∃ bs, as.Perm bs ∧ List.Forall₂ (Spelled before) bs others := by
  have both : Relation.Comp (List.Forall₂ (Spelled before)) List.Perm as others :=
    ⟨pieces, spelled, perm⟩
  rwa [List.forall₂_comp_perm_eq_perm_comp_forall₂] at both

variable {attr item : String} {ts its : List Tree} {s : Struct} {fields : List NamedField}

/-- The arguments of a model and its struct are read before the model is expanded. -/
theorem expandModel_eq (lexed : source attr = .ok ts) (declared : source item = .ok its)
    (struct : Item.read? its = some (.struct s)) :
    expandModel attr item = (read ts >>= fun m ↦ modelExpansion m (.struct s)) := by
  simp [expandModel, lexed, declared, struct, orMalformed, bind, Except.bind]

/-- A struct with named fields is expanded if an identifier is given. -/
theorem exists_modelExpansion_iff {m : ModelArguments} (named : s.shape = .named fields) :
    (∃ e, modelExpansion m (.struct s) = .ok e) ↔ ∃ type, m.Has (.oid type) := by
  constructor
  · rintro ⟨e, accepted⟩
    obtain ⟨type, _, oid, -⟩ := modelExpansion_eq_ok_iff.mp accepted
    exact ⟨type, oid⟩
  · rintro ⟨type, oid⟩
    exact ⟨_, modelExpansion_eq_ok_iff.mpr ⟨type, fields, oid, named, rfl⟩⟩

/-- The declaration of a note. -/
def noteText : String := "struct Note \x7b title: String \x7d"

end ModelArguments

end VersionedStore.Declaration
