import VersionedStore.Proofs.Declaration.Phrases

/-!
# Rounds are enough

Each tree is met by few phrases before one is taken: a phrase that comes back to itself takes a tree
on the way. So ranks can be given to the rules, the weight of a phrase bounds the rounds up to the
next tree that is taken, and the rounds that trees are given are enough for all of them. What a rule
takes does not depend on rounds, and it splits trees as it takes them.
-/

namespace VersionedStore.Declaration

namespace Phrase

variable {ρ : Type} {rules : ρ → Phrase ρ} {eats : ρ → Bool} {rank : ρ → Nat}

/-- Does the phrase take a tree whenever it stands there, if the rules do that are said to? -/
def consumes (eats : ρ → Bool) : Phrase ρ → Bool
  | .nothing | .items _ | .arguments _ | .many .. => false
  | .tree _ | .within .. => true
  | .andThen p q => p.consumes eats || q.consumes eats
  | .choice _ p q => p.consumes eats && q.consumes eats
  | .behind p _ q r => p.consumes eats || q.consumes eats && r.consumes eats
  | .rewritten p _ | .verbatim p => p.consumes eats
  | .rule name => eats name

/-- The rounds that a phrase needs before a tree is taken, by the ranks of rules. -/
def weight (eats : ρ → Bool) (rank : ρ → Nat) : Phrase ρ → Nat
  | .nothing | .tree _ | .within .. => 1
  | .items p | .arguments p | .many _ p | .rewritten p _ | .verbatim p => p.weight eats rank + 1
  | .andThen p q =>
    max (p.weight eats rank) (if p.consumes eats then 0 else q.weight eats rank) + 1
  | .choice _ p q => max (p.weight eats rank) (q.weight eats rank) + 1
  | .behind p _ q r =>
    max (p.weight eats rank)
      (if p.consumes eats then 0 else max (q.weight eats rank) (r.weight eats rank)) + 1
  | .rule name => rank name

/-- Is each part of the phrase light enough to be begun behind any tree? What is taken again and
again must take a tree. -/
def isLight (eats : ρ → Bool) (rank : ρ → Nat) : Phrase ρ → Bool
  | .nothing | .tree _ | .rule _ => true
  | .within _ p => p.isLight eats rank && p.weight eats rank ≤ 1024
  | .items p | .arguments p | .rewritten p _ | .verbatim p => p.isLight eats rank
  | .many _ p => p.isLight eats rank && p.consumes eats
  | .andThen p q => p.isLight eats rank && q.isLight eats rank && q.weight eats rank ≤ 1024
  | .choice _ p q => p.isLight eats rank && q.isLight eats rank
  | .behind p _ q r =>
    p.isLight eats rank && q.isLight eats rank && r.isLight eats rank &&
      q.weight eats rank ≤ 1024 && r.weight eats rank ≤ 1024

/-- Ranks that fit the rules: a rule has a higher rank than those that it begins with. -/
structure Ranked (rules : ρ → Phrase ρ) (eats : ρ → Bool) (rank : ρ → Nat) : Prop where
  consumes : ∀ name, eats name = true → (rules name).consumes eats = true
  descends : ∀ name, (rules name).weight eats rank < rank name
  light : ∀ name, (rules name).isLight eats rank = true

/-- What is left is no more than what was there. -/
theorem Passes.sizeAll_le {n : Nat} {p : Phrase ρ} {ts a rest : List Tree}
    (h : Passes rules n p ts a rest) : Tree.sizeAll rest ≤ Tree.sizeAll ts := by
  obtain ⟨taken, rfl⟩ := h.suffix
  rw [Tree.sizeAll_append]
  omega

/-- A phrase that takes a tree leaves less than was there. -/
theorem Passes.sizeAll_lt (closed : ∀ name, eats name = true → (rules name).consumes eats = true)
    {n : Nat} {p : Phrase ρ} {ts a rest : List Tree} (h : Passes rules n p ts a rest)
    (takes : p.consumes eats = true) : Tree.sizeAll rest < Tree.sizeAll ts := by
  induction h with
  | nothing | noItems | lastItem | item | noArguments | lastArgument | argument | done | again =>
    simp [consumes] at takes
  | @tree _ _ t =>
    have := t.size_pos
    simp only [Tree.sizeAll]
    omega
  | @within _ d _ inner =>
    have := (Tree.group d inner).size_pos
    simp only [Tree.sizeAll]
    omega
  | andThen one two first second =>
    have := one.sizeAll_le
    have := two.sizeAll_le
    simp only [consumes, Bool.or_eq_true] at takes
    rcases takes with takes | takes
    · have := first takes
      omega
    · have := second takes
      omega
  | yes _ _ taken =>
    simp only [consumes, Bool.and_eq_true] at takes
    exact taken takes.1
  | no _ _ taken =>
    simp only [consumes, Bool.and_eq_true] at takes
    exact taken takes.2
  | behind one two first second =>
    have := one.sizeAll_le
    have := two.sizeAll_le
    simp only [consumes, Bool.or_eq_true, Bool.and_eq_true] at takes
    rcases takes with takes | takes
    · have := first takes
      omega
    · have := second (by split <;> simp [takes])
      omega
  | rewritten _ taken | verbatim _ taken => exact taken takes
  | rule _ taken => exact taken (closed _ takes)

private theorem exists_round (ranked : Ranked rules eats rank) {p : Phrase ρ} {k m : Nat}
    (enough : p.weight eats rank + k ≤ m) : ∃ n, m = n + 1 := by
  have pos : 0 < p.weight eats rank := by
    cases p with
    | rule name =>
      have := ranked.descends name
      simp only [weight]
      omega
    | _ => simp [weight]
  exact ⟨m - 1, by omega⟩

private theorem Passes.of_enough (ranked : Ranked rules eats rank) {n : Nat} {p : Phrase ρ}
    {ts a rest : List Tree} (h : Passes rules n p ts a rest) (light : p.isLight eats rank = true)
    {m : Nat} (enough : p.weight eats rank + 1024 * Tree.sizeAll ts ≤ m) :
    Passes rules m p ts a rest := by
  -- What stands behind a tree that was taken has 1024 rounds more than it needs.
  induction h generalizing m with
  | nothing =>
    obtain ⟨m, rfl⟩ := exists_round ranked enough
    exact .nothing
  | tree fits =>
    obtain ⟨m, rfl⟩ := exists_round ranked enough
    exact .tree fits
  | within _ content =>
    obtain ⟨m, rfl⟩ := exists_round ranked enough
    simp only [isLight, Bool.and_eq_true, decide_eq_true_eq] at light
    simp only [weight, Tree.sizeAll, Tree.size] at enough
    exact .within (content light.1 (by omega))
  | noItems =>
    obtain ⟨m, rfl⟩ := exists_round ranked enough
    exact .noItems
  | lastItem some _ first =>
    obtain ⟨m, rfl⟩ := exists_round ranked enough
    simp only [weight] at enough
    exact .lastItem some (first light (by omega))
  | item some one _ first others =>
    obtain ⟨m, rfl⟩ := exists_round ranked enough
    have left := one.sizeAll_le
    simp only [weight] at enough
    simp only [Tree.sizeAll, Tree.size] at left
    exact .item some (first light (by omega)) (others light (by simp only [weight]; omega))
  | noArguments =>
    obtain ⟨m, rfl⟩ := exists_round ranked enough
    exact .noArguments
  | lastArgument some _ first =>
    obtain ⟨m, rfl⟩ := exists_round ranked enough
    simp only [weight] at enough
    exact .lastArgument some (first light (by omega))
  | argument some one _ first others =>
    obtain ⟨m, rfl⟩ := exists_round ranked enough
    have left := one.sizeAll_le
    simp only [weight] at enough
    simp only [Tree.sizeAll, Tree.size] at left
    exact .argument some (first light (by omega)) (others light (by simp only [weight]; omega))
  | @andThen _ p q _ _ _ _ _ one two first second =>
    obtain ⟨m, rfl⟩ := exists_round ranked enough
    simp only [isLight, Bool.and_eq_true, decide_eq_true_eq] at light
    simp only [weight] at enough
    refine .andThen (first light.1.1 (by omega)) (second light.1.2 ?_)
    by_cases takes : p.consumes eats = true
    · have left := one.sizeAll_lt ranked.consumes takes
      omega
    · have left := one.sizeAll_le
      rw [if_neg takes] at enough
      omega
  | yes next _ taken =>
    obtain ⟨m, rfl⟩ := exists_round ranked enough
    simp only [isLight, Bool.and_eq_true] at light
    simp only [weight] at enough
    exact .yes next (taken light.1 (by omega))
  | no next _ taken =>
    obtain ⟨m, rfl⟩ := exists_round ranked enough
    simp only [isLight, Bool.and_eq_true] at light
    simp only [weight] at enough
    exact .no next (taken light.2 (by omega))
  | @behind _ p q r test _ a _ _ _ one two first second =>
    obtain ⟨m, rfl⟩ := exists_round ranked enough
    simp only [isLight, Bool.and_eq_true, decide_eq_true_eq] at light
    simp only [weight] at enough
    obtain ⟨⟨⟨⟨lightFirst, lightYes⟩, lightNo⟩, boundYes⟩, boundNo⟩ := light
    have lightSecond : (if test a then q else r).isLight eats rank = true := by
      split
      · exact lightYes
      · exact lightNo
    have weighs : (if test a then q else r).weight eats rank ≤
        max (q.weight eats rank) (r.weight eats rank) := by
      split <;> omega
    refine .behind (first lightFirst (by omega)) (second lightSecond ?_)
    by_cases takes : p.consumes eats = true
    · have left := one.sizeAll_lt ranked.consumes takes
      omega
    · have left := one.sizeAll_le
      rw [if_neg takes] at enough
      omega
  | done next =>
    obtain ⟨m, rfl⟩ := exists_round ranked enough
    exact .done next
  | again next one _ first others =>
    obtain ⟨m, rfl⟩ := exists_round ranked enough
    have both := light
    simp only [isLight, Bool.and_eq_true] at both
    have left := one.sizeAll_lt ranked.consumes both.2
    simp only [weight] at enough
    exact .again next (first both.1 (by omega)) (others light (by simp only [weight]; omega))
  | rewritten _ taken =>
    obtain ⟨m, rfl⟩ := exists_round ranked enough
    simp only [weight] at enough
    exact .rewritten (taken light (by omega))
  | verbatim _ taken =>
    obtain ⟨m, rfl⟩ := exists_round ranked enough
    simp only [weight] at enough
    exact .verbatim (taken light (by omega))
  | @rule _ name _ _ _ _ taken =>
    obtain ⟨m, rfl⟩ := exists_round ranked enough
    have := ranked.descends name
    simp only [weight] at enough
    exact .rule (taken (ranked.light name) (by omega))

end Phrase

namespace Rule

/-- The rules that take a tree whenever they stand somewhere. -/
def consumes : Rule → Bool
  | .attributes | .pathRest _ | .functionTypeItems _ | .bounds | .binderItems | .lifetimeBounds
  | .generics | .predicates | .conditions | .operators .. | .fieldValues | .postfixes
  | .closureItems | .arms | .cases | .fieldPatterns | .statements | .visibility
  | .functionItems _ => false
  | _ => true

/-- The rank of a rule, higher than those of the rules that it begins with. -/
def rank : Rule → Nat
  | .statements => 140
  | .item | .member _ => 110
  | .itemBody _ | .memberBody .. | .expression _ => 100
  | .climbing .. => 90
  | .operand _ | .functionTypeItems _ | .functionItems _ | .predicates | .arms | .fieldType _
  | .tupleField | .closureItems | .argument => 80
  | .atom _ | .operators .. => 70
  | .type _ | .alternatives => 60
  | .pattern => 50
  | .bounds | .mixedBounds .. => 40
  | .bound _ | .binderItems | .limit => 30
  | .attributes | .segment _ | .pathRest _ | .simplePath | .conditional | .visibility => 10
  | _ => 20

/-- Do the ranks fit a rule? -/
def fits (r : Rule) : Bool :=
  (!r.consumes || r.phrase.consumes consumes) && r.phrase.weight consumes rank < r.rank &&
    r.phrase.isLight consumes rank

/-- The ranks fit each rule. -/
theorem fits_all (r : Rule) : r.fits = true := by
  cases r with
  | path style | pathRest style | segment style | qualified style => cases style <;> rfl
  | type flag | functionTypeItems flag | parameter flag | expression flag | operand flag | atom flag
  | closure flag | functionItems flag | useTree flag | fieldType flag => cases flag <;> rfl
  | bound place | sum place => cases place <;> rfl
  | mixedBounds place sums => cases place <;> cases sums <;> rfl
  | climbing literals base => cases literals <;> cases base <;> rfl
  | operators literals base compared =>
    cases literals <;> cases base <;> cases compared <;> decide +kernel
  | itemBody isPrivate => cases isPrivate <;> decide +kernel
  | member place => cases place <;> rfl
  | memberBody place macros => cases place <;> cases macros <;> decide +kernel
  | _ => rfl

/-- The ranks fit the rules. -/
theorem ranked : Phrase.Ranked Rule.phrase consumes rank where
  consumes r takes := by
    have own := r.fits_all
    simp only [fits, Bool.and_eq_true, takes, Bool.not_true, Bool.false_or] at own
    exact own.1.1
  descends r := by
    have own := r.fits_all
    simp only [fits, Bool.and_eq_true, decide_eq_true_eq] at own
    exact own.1.2
  light r := by
    have own := r.fits_all
    simp only [fits, Bool.and_eq_true] at own
    exact own.2

private theorem rank_le (r : Rule) : r.rank ≤ 1024 := by
  cases r <;> simp [rank]

end Rule

/-- The trees end, or go on behind a comma. -/
inductive Ended : List Tree → Prop where
  | nil : Ended []
  | comma (joint : Bool) (more : List Tree) : Ended (.mark ',' joint :: more)

/-- A phrase of the grammar takes trees from the front, writes some for them and leaves the rest. -/
def Phrase.Takes (p : Phrase Rule) (ts a rest : List Tree) : Prop :=
  ∃ n, Passes Rule.phrase n p ts a rest

namespace Rule

/-- A rule splits trees as it takes them. -/
theorem split?_eq_some_iff {r : Rule} {ts a rest : List Tree} :
    r.split? ts = some (a, rest) ↔ Phrase.Takes (.rule r) ts a rest := by
  constructor
  · intro h
    exact ⟨_, Phrase.passes_of_pass? h⟩
  · rintro ⟨n, taken⟩
    have enough : (Phrase.rule r).weight consumes rank + 1024 * Tree.sizeAll ts ≤
        Phrase.rounds ts := by
      have := r.rank_le
      simp only [Phrase.weight, Phrase.rounds]
      omega
    exact (taken.of_enough ranked rfl enough).pass?

/-- A rule whose tests stop at commas takes trees up to an end where it takes them whole. -/
theorem split?_eq_some_iff_of_ended {r : Rule} (stops : r.stopsAtComma = true)
    {ts a rest : List Tree} (ended : Ended rest) :
    r.split? ts = some (a, rest) ↔ ∃ taken, r.whole? taken = some a ∧ ts = taken ++ rest := by
  have whole {taken : List Tree} :
      r.split? (taken ++ rest) = some (a, rest) ↔ r.whole? taken = some a := by
    rw [whole?_eq_some_iff]
    cases ended with
    | nil => rw [List.append_nil]
    | comma joint more =>
      constructor
      · intro h
        have before : Phrase.Passes phrase _ (.rule r) taken a [] :=
          Phrase.Passes.of_append_comma stopsAtComma_phrase (Phrase.passes_of_pass? h) stops
        exact split?_eq_some_iff.mpr ⟨_, before⟩
      · intro h
        exact split?_append_comma stops h joint more
  constructor
  · intro h
    obtain ⟨taken, rfl⟩ := suffix_of_split? h
    exact ⟨taken, whole.mp h, rfl⟩
  · rintro ⟨taken, h, rfl⟩
    exact whole.mpr h

end Rule

end VersionedStore.Declaration
