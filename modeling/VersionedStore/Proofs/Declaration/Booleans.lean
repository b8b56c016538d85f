import VersionedStore.Declaration.Arguments
import VersionedStore.Proofs.Declaration.Heads

/-!
# Boolean literals as expressions

An expression is a boolean literal, behind attributes perhaps, exactly where the trees are: an
expression that begins with such a literal and goes on is none.
-/

namespace VersionedStore.Declaration

open Phrase
open VersionedStore.Declaration.Tree (isMark)

/-! ### What phrases take

One equivalence for each constructor, so that a phrase can be followed along trees both ways. -/

namespace Phrase

variable {p q : Phrase Rule} {ts a rest : List Tree}

private theorem takes_nothing : Takes .nothing ts a rest ↔ a = [] ∧ rest = ts := by
  constructor
  · rintro ⟨n, taken⟩
    cases taken
    exact ⟨rfl, rfl⟩
  · rintro ⟨rfl, rfl⟩
    exact ⟨1, .nothing⟩

private theorem takes_tree {test : Tree → Bool} :
    Takes (.tree test) ts a rest ↔ ∃ t, ts = t :: rest ∧ test t = true ∧ a = [t] := by
  constructor
  · rintro ⟨n, taken⟩
    cases taken with
    | tree fits => exact ⟨_, rfl, fits, rfl⟩
  · rintro ⟨t, rfl, fits, rfl⟩
    exact ⟨1, .tree fits⟩

private theorem not_takes_never : ¬ Takes never ts a rest := by
  rw [never, takes_tree]
  rintro ⟨t, -, fits, -⟩
  cases fits

private theorem takes_within {d : Delimiter} :
    Takes (.within d p) ts a rest ↔
      ∃ content written, ts = .group d content :: rest ∧ p.Takes content written [] ∧
        a = [.group d written] := by
  constructor
  · rintro ⟨n, taken⟩
    cases taken with
    | within content => exact ⟨_, _, rfl, ⟨_, content⟩, rfl⟩
  · rintro ⟨content, written, rfl, ⟨n, taken⟩, rfl⟩
    exact ⟨n + 1, .within taken⟩

private theorem takes_andThen :
    Takes (.andThen p q) ts a rest ↔
      ∃ b mid c, p.Takes ts b mid ∧ q.Takes mid c rest ∧ a = b ++ c := by
  constructor
  · rintro ⟨n, taken⟩
    cases taken with
    | andThen first second => exact ⟨_, _, _, ⟨_, first⟩, ⟨_, second⟩, rfl⟩
  · rintro ⟨b, mid, c, ⟨m, first⟩, ⟨n, second⟩, rfl⟩
    exact ⟨max m n + 1,
      .andThen (first.mono (Nat.le_max_left ..)) (second.mono (Nat.le_max_right ..))⟩

private theorem takes_choice_of_holds {ahead : Lookahead} (next : ahead.holds ts = true) :
    Takes (.choice ahead p q) ts a rest ↔ p.Takes ts a rest := by
  constructor
  · rintro ⟨n, taken⟩
    cases taken with
    | yes _ taken => exact ⟨_, taken⟩
    | no failed => simp [next] at failed
  · rintro ⟨n, taken⟩
    exact ⟨n + 1, .yes next taken⟩

private theorem takes_choice_of_not_holds {ahead : Lookahead} (next : ahead.holds ts = false) :
    Takes (.choice ahead p q) ts a rest ↔ q.Takes ts a rest := by
  constructor
  · rintro ⟨n, taken⟩
    cases taken with
    | yes passed => simp [next] at passed
    | no _ taken => exact ⟨_, taken⟩
  · rintro ⟨n, taken⟩
    exact ⟨n + 1, .no next taken⟩

private theorem takes_firstOf_of_not_holds {ways : List (Lookahead × Phrase Rule)}
    (next : ∀ way ∈ ways, way.1.holds ts = false) :
    Takes (firstOf ways q) ts a rest ↔ q.Takes ts a rest := by
  induction ways with
  | nil => rfl
  | cons way ways ih =>
    rw [List.forall_mem_cons] at next
    exact (takes_choice_of_not_holds next.1).trans (ih next.2)

private theorem takes_many_of_holds {ahead : Lookahead} (next : ahead.holds ts = true) :
    Takes (.many ahead p) ts a rest ↔
      ∃ b mid c, p.Takes ts b mid ∧ Takes (.many ahead p) mid c rest ∧ a = b ++ c := by
  constructor
  · rintro ⟨n, taken⟩
    cases taken with
    | done failed => simp [next] at failed
    | again _ first others => exact ⟨_, _, _, ⟨_, first⟩, ⟨_, others⟩, rfl⟩
  · rintro ⟨b, mid, c, ⟨m, first⟩, ⟨n, others⟩, rfl⟩
    exact ⟨max m n + 1,
      .again next (first.mono (Nat.le_max_left ..)) (others.mono (Nat.le_max_right ..))⟩

private theorem takes_many_of_not_holds {ahead : Lookahead} (next : ahead.holds ts = false) :
    Takes (.many ahead p) ts a rest ↔ a = [] ∧ rest = ts := by
  constructor
  · rintro ⟨n, taken⟩
    cases taken with
    | done => exact ⟨rfl, rfl⟩
    | again passed => simp [next] at passed
  · rintro ⟨rfl, rfl⟩
    exact ⟨1, .done next⟩

private theorem takes_rule {r : Rule} : Takes (.rule r) ts a rest ↔ r.phrase.Takes ts a rest := by
  constructor
  · rintro ⟨n, taken⟩
    cases taken with
    | rule taken => exact ⟨_, taken⟩
  · rintro ⟨n, taken⟩
    exact ⟨n + 1, .rule taken⟩

end Phrase

/-! ### The end of an expression -/

private theorem takes_firstOf_of_ended {ways : List (Lookahead × Phrase Rule)} {q : Phrase Rule}
    {ts a rest : List Tree} (ended : Ended ts)
    (stop : (ways.all fun way ↦ !way.1.isEmpty && way.1.stopsAtComma) = true) :
    Takes (firstOf ways q) ts a rest ↔ q.Takes ts a rest := by
  apply takes_firstOf_of_not_holds
  intro way mem
  have own := List.all_eq_true.mp stop way mem
  simp only [Bool.and_eq_true, Bool.not_eq_true', List.isEmpty_eq_false_iff] at own
  obtain ⟨test, tests, same⟩ := List.exists_cons_of_ne_nil own.1
  have atEnd : way.1.holds [] = false := by rw [same]; rfl
  cases ended with
  | nil => exact atEnd
  | comma joint more => exact (Lookahead.holds_append_comma own.2 [] joint more).trans atEnd

private theorem takes_postfixes_of_ended {ts : List Tree} (ended : Ended ts) :
    Takes (.rule .postfixes) ts [] ts := by
  rw [takes_rule]
  exact (takes_firstOf_of_ended ended rfl).mpr (takes_nothing.mpr ⟨rfl, rfl⟩)

private theorem takes_operators_of_ended {ts : List Tree} (ended : Ended ts) :
    Takes (.rule (.operators true .assign false)) ts [] ts := by
  rw [takes_rule]
  exact (takes_firstOf_of_ended ended (by decide +kernel)).mpr (takes_nothing.mpr ⟨rfl, rfl⟩)

/-! ### Attributes before an expression -/

/-- Attributes one after the other. -/
inductive AttributeRow : List Tree → Prop where
  | nil : AttributeRow []
  | cons {joint : Bool} {content written ts : List Tree}
      (whole : Rule.attributeContent.whole? content = some written) (others : AttributeRow ts) :
      AttributeRow (.mark '#' joint :: .group .bracket content :: ts)

private theorem takes_attribute {ts a rest : List Tree} :
    Takes (all [mark '#', .within .bracket (.rule .attributeContent)]) ts a rest ↔
      ∃ joint content written, ts = .mark '#' joint :: .group .bracket content :: rest ∧
        Rule.attributeContent.whole? content = some written ∧
        a = [.mark '#' joint, .group .bracket written] := by
  constructor
  · intro h
    obtain ⟨b, mid, c, sign, group, rfl⟩ := takes_andThen.mp h
    obtain ⟨t, rfl, fits, rfl⟩ := takes_tree.mp sign
    obtain ⟨content, written, rfl, inside, rfl⟩ := takes_within.mp group
    cases t with
    | mark c joint =>
      obtain rfl : c = '#' := by simpa [isMark] using fits
      refine ⟨joint, content, written, rfl, ?_, rfl⟩
      rwa [Rule.whole?_eq_some_iff, Rule.split?_eq_some_iff]
    | _ => cases fits
  · rintro ⟨joint, content, written, rfl, whole, rfl⟩
    rw [Rule.whole?_eq_some_iff, Rule.split?_eq_some_iff] at whole
    exact takes_andThen.mpr ⟨[.mark '#' joint], _, [.group .bracket written],
      takes_tree.mpr ⟨_, rfl, rfl, rfl⟩, takes_within.mpr ⟨content, written, rfl, whole, rfl⟩, rfl⟩

/-- Attributes that are taken stand in a row, and what is written for them is passed over. -/
theorem row_of_takes {ts a rest : List Tree} (h : Takes (.rule .attributes) ts a rest) :
    ∃ row, AttributeRow row ∧ ts = row ++ rest ∧ Lookahead.holds [isMark '#'] rest = false ∧
      ∀ b, withoutAttributes (a ++ b) = withoutAttributes b := by
  obtain ⟨n, taken⟩ := takes_rule.mp h
  clear h
  generalize same : Rule.attributes.phrase = p at taken
  induction taken with
  | done failed =>
    cases same
    exact ⟨[], .nil, rfl, failed, fun b ↦ rfl⟩
  | again _ one _ _ others =>
    cases same
    obtain ⟨joint, content, written, rfl, whole, rfl⟩ := takes_attribute.mp ⟨_, one⟩
    obtain ⟨row, inRow, rfl, stops, passed⟩ := others rfl
    exact ⟨_, .cons whole inRow, rfl, stops, passed⟩
  | _ => cases same

private theorem exists_takes_of_row {row rest : List Tree} (h : AttributeRow row)
    (stops : Lookahead.holds [isMark '#'] rest = false) :
    ∃ a, Takes (.rule .attributes) (row ++ rest) a rest ∧
      ∀ b, withoutAttributes (a ++ b) = withoutAttributes b := by
  induction h with
  | nil =>
    exact ⟨[], takes_rule.mpr ((takes_many_of_not_holds stops).mpr ⟨rfl, rfl⟩), fun b ↦ rfl⟩
  | @cons joint content written _ whole _ ih =>
    obtain ⟨a, others, passed⟩ := ih
    refine ⟨.mark '#' joint :: .group .bracket written :: a,
      takes_rule.mpr ((takes_many_of_holds rfl).mpr ?_), passed⟩
    exact ⟨_, _, a, takes_attribute.mpr ⟨joint, content, written, rfl, whole, rfl⟩,
      takes_rule.mp others, rfl⟩

/-! ### Boolean literals -/

section Operand

variable {literals : Bool} {ts a rest : List Tree}

private theorem takes_climbing {base : Strength}
    (next : Lookahead.holds (marks ['.', '.']) ts = false) :
    Takes (.rule (.climbing literals base)) ts a rest ↔
      ∃ b mid c, Takes (.rule (.operand literals)) ts b mid ∧
        Takes (.rule (.operators literals base false)) mid c rest ∧ a = b ++ c :=
  takes_rule.trans ((takes_choice_of_not_holds next).trans takes_andThen)

private theorem takes_operand_of_attributes (next : Lookahead.holds [isMark '#'] ts = true) :
    Takes (.rule (.operand literals)) ts a rest ↔
      ∃ b mid c, Takes (.rule .attributes) ts b mid ∧
        Lookahead.holds [isMark '#'] mid = false ∧
        Lookahead.holds (marks ['.', '.']) mid = false ∧
        Takes (.rule (.operand literals)) mid c rest ∧ a = b ++ c := by
  rw [takes_rule]
  refine (takes_choice_of_holds next).trans (takes_andThen.trans ?_)
  constructor
  · rintro ⟨b, mid, c, row, signed, rfl⟩
    obtain ⟨_, -, -, stops, -⟩ := row_of_takes row
    cases range : Lookahead.holds (marks ['.', '.']) mid with
    | true => exact absurd ((takes_choice_of_holds range).mp signed) not_takes_never
    | false =>
      have operand : Takes (.rule (.operand literals)) mid c rest :=
        takes_rule.mpr ((takes_choice_of_not_holds stops).mpr
          ((takes_choice_of_not_holds range).mp signed))
      exact ⟨b, mid, c, row, stops, range, operand, rfl⟩
  · rintro ⟨b, mid, c, row, stops, range, operand, rfl⟩
    have signed := (takes_choice_of_not_holds stops).mp (takes_rule.mp operand)
    exact ⟨b, mid, c, row, (takes_choice_of_not_holds range).mpr signed, rfl⟩

private theorem takes_operand_literal {w : String} (literal : Tree.isLiteral (.word w) = true) :
    Takes (.rule (.operand literals)) (.word w :: ts) a rest ↔
      ∃ b, Takes (.rule .postfixes) ts b rest ∧ a = .word w :: b := by
  have atom {b mid : List Tree} :
      Takes (.rule (.atom literals)) (.word w :: ts) b mid ↔ b = [.word w] ∧ mid = ts := by
    have next : Lookahead.holds [Tree.isLiteral] (.word w :: ts) = true := by
      simp [Lookahead.holds, literal]
    refine takes_rule.trans ((takes_choice_of_holds next).trans (takes_tree.trans ?_))
    constructor
    · rintro ⟨t, same, -, rfl⟩
      obtain ⟨rfl, rfl⟩ := List.cons.inj same
      exact ⟨rfl, rfl⟩
    · rintro ⟨rfl, rfl⟩
      exact ⟨_, rfl, literal, rfl⟩
  rw [takes_rule]
  refine (takes_choice_of_not_holds rfl).trans ((takes_firstOf_of_not_holds ?_).trans
    (takes_andThen.trans ?_))
  · simp [Lookahead.holds, isMark]
  · constructor
    · rintro ⟨_, _, b, first, others, rfl⟩
      obtain ⟨rfl, rfl⟩ := atom.mp first
      exact ⟨b, others, rfl⟩
    · rintro ⟨b, others, rfl⟩
      exact ⟨_, _, b, atom.mpr ⟨rfl, rfl⟩, others, rfl⟩

end Operand

private theorem withoutAttributes_of_not_mark {t : Tree} (plain : isMark '#' t = false)
    (ts : List Tree) :
    withoutAttributes (t :: ts) = t :: ts := by
  cases t with
  | mark c joint =>
    have other : c ≠ '#' := by simpa [isMark] using plain
    simp [withoutAttributes, other]
  | _ => simp [withoutAttributes]

/-- What an expression without attributes writes is one word only where it takes that word. -/
theorem eq_of_takes_climbing {ts a rest : List Tree} {w : String}
    (h : Takes (.rule (.climbing true .assign)) ts a rest)
    (plain : Lookahead.holds [isMark '#'] ts = false) (written : withoutAttributes a = [.word w])
    (literal : Tree.isLiteral (.word w) = true) : ts = .word w :: rest := by
  cases Rule.begins rfl h with
  | nothing => simp [withoutAttributes] at written
  | @tree t u ts a _ alike =>
    have begins : isMark '#' u = false := by
      cases alike with
      | same => simpa [Lookahead.holds] using plain
      | group => rfl
    rw [withoutAttributes_of_not_mark begins] at written
    obtain ⟨rfl, rfl⟩ := List.cons.inj written
    cases alike
    obtain ⟨b, mid, c, operand, operators, same⟩ := (takes_climbing rfl).mp h
    obtain ⟨d, postfixes, rfl⟩ := (takes_operand_literal literal).mp operand
    obtain ⟨rfl, rfl⟩ : d = [] ∧ c = [] := by simpa using same
    cases Rule.begins rfl postfixes
    cases Rule.begins rfl operators
    rfl

private theorem not_range_of_attribute {ts : List Tree}
    (h : Lookahead.holds [isMark '#'] ts = true) :
    Lookahead.holds (marks ['.', '.']) ts = false := by
  cases ts with
  | nil => rfl
  | cons t ts =>
    cases t with
    | mark c joint =>
      obtain rfl : c = '#' := by simpa [Lookahead.holds, isMark] using h
      rfl
    | _ => rfl

/-- An expression up to an end is a boolean literal, behind its attributes, where the trees are. -/
theorem expression?_literal_iff {ts rest : List Tree} {w : String}
    (literal : Tree.isLiteral (.word w) = true) (ended : Ended rest) :
    (∃ a, expression? ts = some (a, rest) ∧ withoutAttributes a = [.word w]) ↔
      ∃ row, AttributeRow row ∧ ts = row ++ .word w :: rest := by
  constructor
  · rintro ⟨a, taken, written⟩
    have h := takes_rule.mp (Rule.split?_eq_some_iff.mp taken)
    cases plain : Lookahead.holds [isMark '#'] ts with
    | false => exact ⟨[], .nil, eq_of_takes_climbing h plain written literal⟩
    | true =>
      obtain ⟨b, mid, c, operand, operators, rfl⟩ :=
        (takes_climbing (not_range_of_attribute plain)).mp h
      obtain ⟨b', behind, d, attributes, stops, range, operand', rfl⟩ :=
        (takes_operand_of_attributes plain).mp operand
      obtain ⟨row, inRow, rfl, -, passed⟩ := row_of_takes attributes
      have h' := (takes_climbing range).mpr ⟨d, mid, c, operand', operators, rfl⟩
      rw [List.append_assoc, passed] at written
      exact ⟨row, inRow, congrArg _ (eq_of_takes_climbing h' stops written literal)⟩
  · rintro ⟨row, inRow, rfl⟩
    have operand {l : Bool} : Takes (.rule (.operand l)) (.word w :: rest) [.word w] rest :=
      (takes_operand_literal literal).mpr ⟨[], takes_postfixes_of_ended ended, rfl⟩
    have operators := takes_operators_of_ended ended
    have taken {ts a : List Tree} (range : Lookahead.holds (marks ['.', '.']) ts = false)
        (operand : Takes (.rule (.operand true)) ts a rest) :
        expression? ts = some (a, rest) := by
      refine Rule.split?_eq_some_iff.mpr (takes_rule.mpr ((takes_climbing range).mpr ?_))
      exact ⟨a, rest, [], operand, operators, (List.append_nil a).symm⟩
    cases inRow with
    | nil => exact ⟨_, taken rfl operand, rfl⟩
    | cons whole others =>
      obtain ⟨a, attributes, passed⟩ := exists_takes_of_row (.cons whole others)
        (show Lookahead.holds [isMark '#'] (.word w :: rest) = false from rfl)
      refine ⟨a ++ [.word w], taken rfl ?_, passed _⟩
      exact (takes_operand_of_attributes rfl).mpr ⟨a, _, _, attributes, rfl, rfl, operand, rfl⟩

end VersionedStore.Declaration
