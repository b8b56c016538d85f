import VersionedStore.Declaration.Expansion
import VersionedStore.Proofs.Declaration.Phrases

/-!
# Defaults for fields that are left out

A model may be read without its metadata if an attribute of its struct has an item `default`. One is
added unless a token of the struct's attributes for serde holds that word: the item itself does, but
so does a name or a string with the word inside, and then fields may not be left out.
-/

namespace VersionedStore.Declaration

open Text

namespace Tree

/-- A token stands among trees, at any depth. -/
inductive Among (token : Tree) : List Tree → Prop where
  | here {rest : List Tree} (single : ∀ d content, token ≠ .group d content) :
      Among token (token :: rest)
  | inside {d : Delimiter} {content rest : List Tree} (deep : Among token content) :
      Among token (.group d content :: rest)
  | later {t : Tree} {rest : List Tree} (far : Among token rest) : Among token (t :: rest)

/-- A token passes a test of its text if one among the trees does. -/
theorem anyTokenOf_iff {test : List Char → Bool} {ts : List Tree} :
    anyTokenOf test ts = true ↔ ∃ token, Among token ts ∧ test token.chars = true := by
  constructor
  · intro h
    -- Groups and what follows them are both smaller, whatever trees they hold.
    induction size : sizeAll ts using Nat.strongRecOn generalizing ts with
    | ind n ih =>
      subst size
      cases ts with
      | nil => cases h
      | cons t ts =>
        rw [anyTokenOf, Bool.or_eq_true] at h
        cases h with
        | inl first =>
          cases t with
          | group d content =>
            have smaller : sizeAll content < sizeAll (.group d content :: ts) := by
              simp only [sizeAll, size]
              omega
            obtain ⟨token, deep, passed⟩ := ih _ smaller first rfl
            exact ⟨token, .inside deep, passed⟩
          | _ => exact ⟨_, .here (by rintro _ _ ⟨⟩), first⟩
        | inr others =>
          have smaller : sizeAll ts < sizeAll (t :: ts) := by
            have := t.size_pos
            simp only [sizeAll]
            omega
          obtain ⟨token, far, passed⟩ := ih _ smaller others rfl
          exact ⟨token, .later far, passed⟩
  · rintro ⟨token, among, passed⟩
    induction among with
    | @here rest single =>
      cases token with
      | group d content => exact absurd rfl (single d content)
      | _ => simp [anyTokenOf, anyToken, passed]
    | inside _ deep => simp [anyTokenOf, anyToken, deep]
    | later _ far => simp [anyTokenOf, far]

private theorem among_of_mem {t : Tree} {ts : List Tree}
    (single : ∀ d content, t ≠ .group d content)
    (mem : t ∈ ts) : Among t ts := by
  induction mem with
  | head => exact .here single
  | tail _ _ ih => exact .later ih

end Tree

namespace Attribute

/-- An item stands in a list, at its front or behind others. -/
inductive Listed (item : Attribute) : List Tree → Prop where
  | front {ts rest : List Tree}
      (taken : Rule.attributeContent.split? ts = some (item.content, rest)) : Listed item ts
  | behind {ts other rest : List Tree} {joint : Bool}
      (taken : Rule.attributeContent.split? ts = some (other, .mark ',' joint :: rest))
      (later : Listed item rest) : Listed item ts

/-- The attribute is a group of items behind a name, one of them of this name. -/
def HasItem (a : Attribute) (key : String) : Prop :=
  ∃ name d content item, a.content = [.word name, .group d content] ∧ Listed item content ∧
    item.name? = some key

private theorem head_of_name? {a : Attribute} {key : String} (h : a.name? = some key) :
    a.content.head? = some (.word key) := by
  unfold name? at h
  split at h
  · cases h
  · next w _ _ content =>
    cases h
    rw [content]
    rfl
  · cases h

private theorem head_attributePath {n : Nat} {ts a rest : List Tree}
    (h : Phrase.Passes Rule.phrase n attributePath ts a rest) :
    ∃ t others left, a = t :: others ∧ ts = t :: left := by
  -- The path is one word, or it starts at the root, or it starts with a segment.
  cases h with
  | yes _ word =>
    cases word with
    | tree => exact ⟨_, _, _, rfl, rfl⟩
  | no _ simple =>
    cases simple with
    | rule path =>
      cases path with
      | andThen root segments =>
        cases root with
        | yes _ colons =>
          cases colons with
          | andThen colon _ =>
            cases colon with
            | tree => exact ⟨_, _, _, rfl, rfl⟩
        | no _ relative =>
          cases relative with
          | nothing =>
            cases segments with
            | andThen segment _ =>
              cases segment with
              | tree => exact ⟨_, _, _, rfl, rfl⟩

private theorem head_of_taken {item : Attribute} {key : String} {ts rest : List Tree}
    (taken : Rule.attributeContent.split? ts = some (item.content, rest))
    (named : item.name? = some key) : ts.head? = some (.word key) := by
  have begins := head_of_name? named
  cases Phrase.passes_of_pass? taken with
  | rule content =>
    generalize item.content = written at content begins
    cases content with
    | andThen path _ =>
      obtain ⟨t, others, left, rfl, rfl⟩ := head_attributePath path
      exact begins

private theorem Listed.word_mem {item : Attribute} {key : String} {ts : List Tree}
    (h : Listed item ts)
    (named : item.name? = some key) : .word key ∈ ts := by
  induction h with
  | front taken => exact List.mem_of_head? (head_of_taken taken named)
  | behind taken _ ih =>
    exact (Rule.suffix_of_split? taken).mem (List.mem_cons_of_mem _ ih)

/-- An attribute that has an item has its key among its tokens. -/
theorem HasItem.among {a : Attribute} {key : String} (h : a.HasItem key) :
    Tree.Among (.word key) a.content := by
  obtain ⟨name, d, content, item, group, listed, named⟩ := h
  rw [group]
  exact .later (.inside (Tree.among_of_mem (by rintro _ _ ⟨⟩) (listed.word_mem named)))

end Attribute

/-- One of the attributes for serde has an item `default`. -/
def GivesDefault (as : List Attribute) : Prop :=
  ∃ a ∈ as, a.name? = some "serde" ∧ a.HasItem "default"

/-- A token of one of the attributes for serde has the word `default` in its text. -/
def SpeaksOfDefault (as : List Attribute) : Prop :=
  ∃ a ∈ as, a.name? = some "serde" ∧ ∃ token, Tree.Among token a.content ∧
    ∃ before after, token.chars = before ++ "default".toList ++ after

/-- Attributes are found to speak of defaults if one of their tokens does. -/
theorem mentionsDefault_iff {as : List Attribute} :
    mentionsDefault as = true ↔ SpeaksOfDefault as := by
  simp only [mentionsDefault, SpeaksOfDefault, List.any_eq_true, Bool.and_eq_true, beq_iff_eq,
    Tree.anyTokenOf_iff, containsPart_iff]

/-- Attributes that give a default speak of it. -/
theorem GivesDefault.speaks {as : List Attribute} (h : GivesDefault as) : SpeaksOfDefault as := by
  obtain ⟨a, own, serde, item⟩ := h
  exact ⟨a, own, serde, _, item.among, [], [], by simp [Tree.chars]⟩

private theorem givesDefault_defaultAttribute : GivesDefault [defaultAttribute] :=
  ⟨_, List.mem_singleton_self _, rfl, _, _, _, ⟨[.word "default"]⟩, rfl, .front rfl, rfl⟩

private theorem givesDefault_append {as bs : List Attribute} :
    GivesDefault (as ++ bs) ↔ GivesDefault as ∨ GivesDefault bs := by
  simp [GivesDefault, or_and_right, exists_or]

/-- The attributes for serde stay where derived traits are merged. -/
theorem mem_withDerives_serde {required : List Path} {as : List Attribute} {a : Attribute}
    (serde : a.name? = some "serde") : a ∈ withDerives required as ↔ a ∈ as := by
  have kept : a.isDerive = false := by simp [Attribute.isDerive, serde]
  have other : a ≠ .derive (mergedDerives required as) := by
    rintro rfl
    exact absurd serde (by simp [Attribute.derive, Attribute.name?])
  simp [withDerives, kept, other]

/-- Merging derived traits adds no default and takes none away. -/
theorem givesDefault_withDerives {required : List Path} {as : List Attribute} :
    GivesDefault (withDerives required as) ↔ GivesDefault as :=
  exists_congr fun _ ↦ and_congr_left fun serde ↦ mem_withDerives_serde serde.1

/-- Merging derived traits leaves what is said of defaults alone. -/
theorem speaksOfDefault_withDerives {required : List Path} {as : List Attribute} :
    SpeaksOfDefault (withDerives required as) ↔ SpeaksOfDefault as :=
  exists_congr fun _ ↦ and_congr_left fun serde ↦ mem_withDerives_serde serde.1

/-- The attributes of the struct that a model stands for: the traits that models derive are merged
with its own, and the default is added unless they speak of it. -/
theorem attributes_modelExpansion {arguments : ModelArguments} {s : Struct} {e : Expansion}
    (accepted : modelExpansion arguments (.struct s) = .ok e) :
    e.struct.attributes =
      withDefault (withDerives (modelTraits (arguments.debug.getD true)) s.attributes) := by
  obtain ⟨oid, fields, -, -, rfl⟩ := modelExpansion_eq_ok_iff.mp accepted
  rfl

/-- Where the attributes of a model speak of defaults, none is added, and fields may be left out
only if these give one themselves; elsewhere one is added. So fields may be left out, and one is
added exactly where its own attributes give none, unless these have the word in a token and give
none. -/
theorem givesDefault_modelExpansion {arguments : ModelArguments} {s : Struct} {e : Expansion}
    (accepted : modelExpansion arguments (.struct s) = .ok e) :
    let merged := withDerives (modelTraits (arguments.debug.getD true)) s.attributes
    let added := e.struct.attributes = merged ++ [defaultAttribute]
    (SpeaksOfDefault s.attributes → e.struct.attributes = merged ∧
      (GivesDefault e.struct.attributes ↔ GivesDefault s.attributes)) ∧
    (¬ SpeaksOfDefault s.attributes →
      added ∧ GivesDefault e.struct.attributes ∧ ¬ GivesDefault s.attributes) ∧
    ((GivesDefault e.struct.attributes ∧ (added ↔ ¬ GivesDefault s.attributes)) ↔
      (SpeaksOfDefault s.attributes → GivesDefault s.attributes)) := by
  intro merged added
  have attributes : e.struct.attributes = withDefault merged := attributes_modelExpansion accepted
  by_cases speaks : SpeaksOfDefault s.attributes
  · have kept : e.struct.attributes = merged :=
      attributes.trans (withDefault_of_mentionsDefault
        (mentionsDefault_iff.mpr (speaksOfDefault_withDerives.mpr speaks)))
    have gives : GivesDefault e.struct.attributes ↔ GivesDefault s.attributes :=
      kept ▸ givesDefault_withDerives
    have missing : ¬ added := by simp [added, kept]
    exact ⟨fun _ ↦ ⟨kept, gives⟩, fun silent ↦ absurd speaks silent,
      by simp [gives, missing, speaks]⟩
  · have silent : ¬ mentionsDefault merged = true := fun mentions ↦
      speaks (speaksOfDefault_withDerives.mp (mentionsDefault_iff.mp mentions))
    have extended : added := attributes.trans (if_neg silent)
    have gives : GivesDefault e.struct.attributes :=
      extended ▸ givesDefault_append.mpr (.inr givesDefault_defaultAttribute)
    have none : ¬ GivesDefault s.attributes := fun own ↦ speaks own.speaks
    exact ⟨fun h ↦ absurd h speaks, fun _ ↦ ⟨extended, gives, none⟩,
      by simp [gives, extended, none, speaks]⟩

/-- A note that is stored under another name, spelled like this. -/
def renamedNote (spelling : String) : Struct where
  attributes := [⟨[.word "serde", .group .parenthesis
    [.word "rename", .mark '=' false, .literal .string spelling]]⟩]
  visibility := []
  name := "Note"
  generics := ⟨[]⟩
  constraints := []
  shape := .named [⟨⟨[], [], [.word "String"]⟩, "title"⟩]

/-- A note under another name gets the default. -/
theorem givesDefault_modelExpansion_memo :
    let arguments : ModelArguments := ⟨some [.word "NoteOid"], none, none⟩
    ∃ e, modelExpansion arguments (.struct (renamedNote "\"memo\"")) = .ok e ∧
      defaultAttribute ∈ e.struct.attributes ∧ GivesDefault e.struct.attributes := by
  intro arguments
  refine ⟨_, rfl, ?_⟩
  have silent : ¬ SpeaksOfDefault (renamedNote "\"memo\"").attributes := fun speaks ↦
    absurd (mentionsDefault_iff.mpr speaks) (by decide)
  obtain ⟨-, extended, -⟩ := givesDefault_modelExpansion
    (show modelExpansion arguments (.struct (renamedNote "\"memo\"")) = .ok _ from rfl)
  obtain ⟨added, gives, -⟩ := extended silent
  exact ⟨added ▸ List.mem_append_right _ (List.mem_singleton_self _), gives⟩

/-- A note under a name that has the word in it gets no default, though its attributes give none. -/
theorem withoutDefault_renamed :
    let arguments : ModelArguments := ⟨some [.word "NoteOid"], none, none⟩
    ¬ GivesDefault (renamedNote "\"default_note\"").attributes ∧
      ∃ e, modelExpansion arguments (.struct (renamedNote "\"default_note\"")) = .ok e ∧
        defaultAttribute ∉ e.struct.attributes ∧ ¬ GivesDefault e.struct.attributes := by
  intro arguments
  have silent (as : List Attribute)
      (free : ∀ a ∈ as, Tree.anyTokenOf (· == "default".toList) a.content = false) :
      ¬ GivesDefault as := by
    rintro ⟨a, own, -, item⟩
    have holds : Tree.anyTokenOf (· == "default".toList) a.content = true :=
      Tree.anyTokenOf_iff.mpr ⟨_, item.among, by simp [Tree.chars]⟩
    rw [free a own] at holds
    cases holds
  exact ⟨silent _ (by decide), _, rfl, by decide, silent _ (by decide)⟩

end VersionedStore.Declaration
