import VersionedStore.Declaration.Grammar

/-!
# What phrases take

`Passes` says, one case for each kind of phrase, what a phrase takes from the front of trees, what
it writes for that and what it leaves; `pass?` finds exactly this. What is left is the end of the
trees, more rounds change nothing, and a phrase none of whose tests is passed by a comma takes the
same whether the trees end or go on behind a comma. The rules for types are such phrases.
-/

namespace VersionedStore.Declaration

namespace Phrase

variable {ρ : Type} {rules : ρ → Phrase ρ}

/-- In some rounds a phrase takes trees from the front, writes some for them and leaves the rest. -/
inductive Passes (rules : ρ → Phrase ρ) :
    Nat → Phrase ρ → List Tree → List Tree → List Tree → Prop where
  | nothing {n : Nat} {ts : List Tree} : Passes rules (n + 1) .nothing ts [] ts
  | tree {n : Nat} {test : Tree → Bool} {t : Tree} {rest : List Tree} (fits : test t = true) :
      Passes rules (n + 1) (.tree test) (t :: rest) [t] rest
  | within {n : Nat} {d : Delimiter} {p : Phrase ρ} {inner written rest : List Tree}
      (content : Passes rules n p inner written []) :
      Passes rules (n + 1) (.within d p) (.group d inner :: rest) [.group d written] rest
  | noItems {n : Nat} {p : Phrase ρ} : Passes rules (n + 1) (.items p) [] [] []
  | lastItem {n : Nat} {p : Phrase ρ} {ts a : List Tree} (some : ts ≠ [])
      (first : Passes rules n p ts a []) : Passes rules (n + 1) (.items p) ts a []
  | item {n : Nat} {p : Phrase ρ} {ts a mid b rest : List Tree} {joint : Bool} (some : ts ≠ [])
      (first : Passes rules n p ts a (.mark ',' joint :: mid))
      (others : Passes rules n (.items p) mid b rest) :
      Passes rules (n + 1) (.items p) ts (a ++ .mark ',' joint :: b) rest
  | noArguments {n : Nat} {p : Phrase ρ} {joint : Bool} {ts : List Tree} :
      Passes rules (n + 1) (.arguments p) (.mark '>' joint :: ts) [] (.mark '>' joint :: ts)
  | lastArgument {n : Nat} {p : Phrase ρ} {ts a rest : List Tree} {joint : Bool}
      (some : ts.head?.any (Tree.isMark '>') = false)
      (first : Passes rules n p ts a (.mark '>' joint :: rest)) :
      Passes rules (n + 1) (.arguments p) ts a (.mark '>' joint :: rest)
  | argument {n : Nat} {p : Phrase ρ} {ts a mid b rest : List Tree} {joint : Bool}
      (some : ts.head?.any (Tree.isMark '>') = false)
      (first : Passes rules n p ts a (.mark ',' joint :: mid))
      (others : Passes rules n (.arguments p) mid b rest) :
      Passes rules (n + 1) (.arguments p) ts (putArgument a [.mark ',' joint] b) rest
  | andThen {n : Nat} {p q : Phrase ρ} {ts a mid b rest : List Tree}
      (first : Passes rules n p ts a mid) (second : Passes rules n q mid b rest) :
      Passes rules (n + 1) (.andThen p q) ts (a ++ b) rest
  | yes {n : Nat} {ahead : Lookahead} {p q : Phrase ρ} {ts a rest : List Tree}
      (next : ahead.holds ts = true) (taken : Passes rules n p ts a rest) :
      Passes rules (n + 1) (.choice ahead p q) ts a rest
  | no {n : Nat} {ahead : Lookahead} {p q : Phrase ρ} {ts a rest : List Tree}
      (next : ahead.holds ts = false) (taken : Passes rules n q ts a rest) :
      Passes rules (n + 1) (.choice ahead p q) ts a rest
  | behind {n : Nat} {p yes no : Phrase ρ} {test : List Tree → Bool} {ts a mid b rest : List Tree}
      (first : Passes rules n p ts a mid)
      (second : Passes rules n (if test a then yes else no) mid b rest) :
      Passes rules (n + 1) (.behind p test yes no) ts (a ++ b) rest
  | done {n : Nat} {ahead : Lookahead} {p : Phrase ρ} {ts : List Tree}
      (next : ahead.holds ts = false) : Passes rules (n + 1) (.many ahead p) ts [] ts
  | again {n : Nat} {ahead : Lookahead} {p : Phrase ρ} {ts a mid b rest : List Tree}
      (next : ahead.holds ts = true) (first : Passes rules n p ts a mid)
      (others : Passes rules n (.many ahead p) mid b rest) :
      Passes rules (n + 1) (.many ahead p) ts (a ++ b) rest
  | rewritten {n : Nat} {p : Phrase ρ} {change : List Tree → List Tree} {ts a rest : List Tree}
      (taken : Passes rules n p ts a rest) :
      Passes rules (n + 1) (.rewritten p change) ts (change a) rest
  | verbatim {n : Nat} {p : Phrase ρ} {ts a rest : List Tree} (taken : Passes rules n p ts a rest) :
      Passes rules (n + 1) (.verbatim p) ts (ts.take (ts.length - rest.length)) rest
  | rule {n : Nat} {name : ρ} {ts a rest : List Tree}
      (taken : Passes rules n (rules name) ts a rest) :
      Passes rules (n + 1) (.rule name) ts a rest

private theorem head_not_closing {ts : List Tree}
    (h : ∀ (joint : Bool) (tail : List Tree), ts = .mark '>' joint :: tail → False) :
    ts.head?.any (Tree.isMark '>') = false := by
  cases ts with
  | nil => rfl
  | cons t ts =>
    cases t with
    | mark c joint =>
      refine eq_false_of_ne_true fun closing ↦ ?_
      obtain rfl : c = '>' := by simpa [Tree.isMark] using closing
      exact h joint ts rfl
    | _ => rfl

/-- What a phrase is found to take, it takes. -/
theorem passes_of_pass? {n : Nat} {p : Phrase ρ} {ts a rest : List Tree}
    (h : pass? rules n p ts = some (a, rest)) : Passes rules n p ts a rest := by
  -- Each round opens one phrase, so the cases are those of the phrase at each number of rounds.
  induction n generalizing p ts a rest with
  | zero => cases h
  | succ n ih =>
    cases p with
    | nothing =>
      cases h
      exact .nothing
    | tree test =>
      simp only [pass?] at h
      split at h
      · cases h
      · split at h
        · next fits =>
          cases h
          exact .tree fits
        · cases h
    | within d content =>
      simp only [pass?] at h
      split at h
      · split at h
        · next same =>
          subst same
          split at h
          · next taken =>
            cases h
            exact .within (ih taken)
          · cases h
        · cases h
      · cases h
    | items item =>
      simp only [pass?] at h
      split at h
      · cases h
        exact .noItems
      · obtain ⟨⟨first, mid⟩, taken, h⟩ := Option.bind_eq_some_iff.mp h
        simp only at h
        split at h
        · cases h
          exact .lastItem (List.cons_ne_nil _ _) (ih taken)
        · obtain ⟨⟨others, left⟩, taken', h⟩ := Option.bind_eq_some_iff.mp h
          cases h
          exact .item (List.cons_ne_nil _ _) (ih taken) (ih taken')
        · cases h
    | arguments item =>
      simp only [pass?] at h
      split at h
      · cases h
        exact .noArguments
      · next unclosed =>
        have some := head_not_closing unclosed
        obtain ⟨⟨first, mid⟩, taken, h⟩ := Option.bind_eq_some_iff.mp h
        simp only at h
        split at h
        · cases h
          exact .lastArgument some (ih taken)
        · obtain ⟨⟨others, left⟩, taken', h⟩ := Option.bind_eq_some_iff.mp h
          cases h
          exact .argument some (ih taken) (ih taken')
        · cases h
    | andThen first second =>
      obtain ⟨⟨_, mid⟩, taken, h⟩ := Option.bind_eq_some_iff.mp h
      obtain ⟨⟨_, left⟩, taken', h⟩ := Option.bind_eq_some_iff.mp h
      cases h
      exact .andThen (ih taken) (ih taken')
    | choice ahead yes no =>
      simp only [pass?] at h
      split at h
      · next next => exact .yes next (ih h)
      · next next => exact .no (eq_false_of_ne_true next) (ih h)
    | behind first test yes no =>
      obtain ⟨⟨_, mid⟩, taken, h⟩ := Option.bind_eq_some_iff.mp h
      obtain ⟨⟨_, left⟩, taken', h⟩ := Option.bind_eq_some_iff.mp h
      cases h
      exact .behind (ih taken) (ih taken')
    | many ahead item =>
      simp only [pass?] at h
      split at h
      · next next =>
        obtain ⟨⟨_, mid⟩, taken, h⟩ := Option.bind_eq_some_iff.mp h
        obtain ⟨⟨_, left⟩, taken', h⟩ := Option.bind_eq_some_iff.mp h
        cases h
        exact .again next (ih taken) (ih taken')
      · next next =>
        cases h
        exact .done (eq_false_of_ne_true next)
    | rewritten p change =>
      obtain ⟨⟨_, left⟩, taken, h⟩ := Option.map_eq_some_iff.mp h
      cases h
      exact .rewritten (ih taken)
    | verbatim p =>
      obtain ⟨⟨_, left⟩, taken, h⟩ := Option.map_eq_some_iff.mp h
      cases h
      exact .verbatim (ih taken)
    | rule name => exact .rule (ih h)

/-- What a phrase takes, it is found to take. -/
theorem Passes.pass? {n : Nat} {p : Phrase ρ} {ts a rest : List Tree}
    (h : Passes rules n p ts a rest) : pass? rules n p ts = some (a, rest) := by
  induction h with
  | nothing | noItems | noArguments => rfl
  | tree fits => simp [Phrase.pass?, fits]
  | within _ content => simp [Phrase.pass?, content]
  | @lastItem n p ts a some _ first =>
    cases ts with
    | nil => exact absurd rfl some
    | cons t ts => simp [Phrase.pass?, first]
  | @item n p ts a mid b rest joint some _ _ first others =>
    cases ts with
    | nil => exact absurd rfl some
    | cons t ts => simp [Phrase.pass?, first, others]
  | lastArgument some _ first =>
    rw [Phrase.pass?]
    · simp [first]
    · rintro _ _ rfl
      simp [Tree.isMark] at some
  | argument some _ _ first others =>
    rw [Phrase.pass?]
    · simp [first, others]
    · rintro _ _ rfl
      simp [Tree.isMark] at some
  | andThen _ _ first second => simp [Phrase.pass?, first, second]
  | yes next _ taken => simp [Phrase.pass?, next, taken]
  | no next _ taken => simp [Phrase.pass?, next, taken]
  | behind _ _ first second => simp [Phrase.pass?, first, second]
  | done next => simp [Phrase.pass?, next]
  | again next _ _ first others => simp [Phrase.pass?, next, first, others]
  | rewritten _ taken => simp [Phrase.pass?, taken]
  | verbatim _ taken => simp [Phrase.pass?, taken]
  | rule _ taken => exact taken

/-- One more round changes nothing. -/
theorem Passes.succ {n : Nat} {p : Phrase ρ} {ts a rest : List Tree}
    (h : Passes rules n p ts a rest) : Passes rules (n + 1) p ts a rest := by
  induction h with
  | nothing => exact .nothing
  | tree fits => exact .tree fits
  | within _ content => exact .within content
  | noItems => exact .noItems
  | lastItem some _ first => exact .lastItem some first
  | item some _ _ first others => exact .item some first others
  | noArguments => exact .noArguments
  | lastArgument some _ first => exact .lastArgument some first
  | argument some _ _ first others => exact .argument some first others
  | andThen _ _ first second => exact .andThen first second
  | yes next _ taken => exact .yes next taken
  | no next _ taken => exact .no next taken
  | behind _ _ first second => exact .behind first second
  | done next => exact .done next
  | again next _ _ first others => exact .again next first others
  | rewritten _ taken => exact .rewritten taken
  | verbatim _ taken => exact .verbatim taken
  | rule _ taken => exact .rule taken

/-- More rounds change nothing. -/
theorem Passes.mono {m n : Nat} {p : Phrase ρ} {ts a rest : List Tree}
    (h : Passes rules m p ts a rest) (le : m ≤ n) : Passes rules n p ts a rest := by
  induction le with
  | refl => exact h
  | step _ ih => exact ih.succ

/-- What is left is the end of the trees. -/
theorem Passes.suffix {n : Nat} {p : Phrase ρ} {ts a rest : List Tree}
    (h : Passes rules n p ts a rest) : rest <:+ ts := by
  induction h with
  | nothing | noArguments | done => exact List.suffix_rfl
  | tree | within => exact List.suffix_cons _ _
  | noItems => exact List.suffix_rfl
  | lastItem => exact List.nil_suffix
  | item _ _ _ first others | argument _ _ _ first others =>
    exact others.trans ((List.suffix_cons _ _).trans first)
  | lastArgument _ _ first => exact first
  | andThen _ _ first second | behind _ _ first second | again _ _ _ first second =>
    exact second.trans first
  | yes _ _ taken | no _ _ taken => exact taken
  | rewritten _ taken | verbatim _ taken | rule _ taken => exact taken

end Phrase

/-- Is the test of what comes next failed by commas? -/
def Lookahead.stopsAtComma (ahead : Lookahead) : Bool :=
  ahead.all fun test ↦ !test (.mark ',' true) && !test (.mark ',' false)

/-- Tests that commas fail say the same of trees that end and of trees that go on behind a comma. -/
theorem Lookahead.holds_append_comma {ahead : Lookahead} (stops : ahead.stopsAtComma = true)
    (ts : List Tree) (joint : Bool) (more : List Tree) :
    ahead.holds (ts ++ .mark ',' joint :: more) = ahead.holds ts := by
  induction ahead generalizing ts with
  | nil => cases ts <;> rfl
  | cons test tests ih =>
    simp only [stopsAtComma, List.all_cons, Bool.and_eq_true, Bool.not_eq_true'] at stops
    cases ts with
    | nil => cases joint <;> simp [holds, stops]
    | cons t ts =>
      have rest : Lookahead.stopsAtComma tests = true := by
        simpa [stopsAtComma] using stops.2
      simp [holds, ih rest]

namespace Phrase

/-- Do the tests of a phrase, but for those inside of groups, stop at commas? Of the rules the known
ones do. -/
def stopsAtComma (known : ρ → Bool) : Phrase ρ → Bool
  | .nothing | .tree _ | .within .. => true
  | .items _ => false
  | .arguments p | .rewritten p _ | .verbatim p => p.stopsAtComma known
  | .andThen p q => p.stopsAtComma known && q.stopsAtComma known
  | .behind p _ q r => p.stopsAtComma known && q.stopsAtComma known && r.stopsAtComma known
  | .choice ahead p q => ahead.stopsAtComma && p.stopsAtComma known && q.stopsAtComma known
  | .many ahead p => ahead.stopsAtComma && p.stopsAtComma known
  | .rule name => known name

private theorem head_not_closing_append {ts : List Tree} {joint : Bool} {more : List Tree}
    (h : ts.head?.any (Tree.isMark '>') = false) :
    (ts ++ .mark ',' joint :: more).head?.any (Tree.isMark '>') = false := by
  cases ts with
  | nil => rfl
  | cons t ts => exact h

private theorem head_not_closing_of_append {ts : List Tree} {joint : Bool} {more : List Tree}
    (h : (ts ++ .mark ',' joint :: more).head?.any (Tree.isMark '>') = false) :
    ts.head?.any (Tree.isMark '>') = false := by
  cases ts with
  | nil => rfl
  | cons t ts => exact h

private theorem take_of_append (ts rest more : List Tree) :
    (ts ++ more).take ((ts ++ more).length - (rest ++ more).length) =
      ts.take (ts.length - rest.length) := by
  have same : (ts ++ more).length - (rest ++ more).length = ts.length - rest.length := by
    simp only [List.length_append]
    omega
  rw [same, List.take_append_of_le_length (Nat.sub_le ..)]

/-- A phrase whose tests stop at commas takes the same from trees that go on behind a comma. -/
theorem Passes.append_comma {known : ρ → Bool}
    (closed : ∀ name, known name = true → (rules name).stopsAtComma known = true) {n : Nat}
    {p : Phrase ρ} {ts a rest : List Tree} (h : Passes rules n p ts a rest)
    (stops : p.stopsAtComma known = true) (joint : Bool) (more : List Tree) :
    Passes rules n p (ts ++ .mark ',' joint :: more) a (rest ++ .mark ',' joint :: more) := by
  induction h with
  | nothing => exact .nothing
  | tree fits => exact .tree fits
  | within content => exact .within content
  | noItems | lastItem | item => simp [stopsAtComma] at stops
  | noArguments => exact .noArguments
  | lastArgument some _ first =>
    simp only [stopsAtComma] at stops
    exact .lastArgument (head_not_closing_append some) (first stops)
  | argument some _ _ first others =>
    simp only [stopsAtComma] at stops
    exact .argument (head_not_closing_append some) (first stops) (others stops)
  | andThen _ _ first second =>
    simp only [stopsAtComma, Bool.and_eq_true] at stops
    exact .andThen (first stops.1) (second stops.2)
  | yes next _ taken =>
    simp only [stopsAtComma, Bool.and_eq_true] at stops
    exact .yes ((Lookahead.holds_append_comma stops.1.1 ..).trans next) (taken stops.1.2)
  | no next _ taken =>
    simp only [stopsAtComma, Bool.and_eq_true] at stops
    exact .no ((Lookahead.holds_append_comma stops.1.1 ..).trans next) (taken stops.2)
  | behind _ _ first second =>
    simp only [stopsAtComma, Bool.and_eq_true] at stops
    refine .behind (first stops.1.1) (second ?_)
    split
    · exact stops.1.2
    · exact stops.2
  | done next =>
    simp only [stopsAtComma, Bool.and_eq_true] at stops
    exact .done ((Lookahead.holds_append_comma stops.1 ..).trans next)
  | again next _ _ first others =>
    have both := stops
    simp only [stopsAtComma, Bool.and_eq_true] at both
    exact .again ((Lookahead.holds_append_comma both.1 ..).trans next) (first both.2) (others stops)
  | rewritten _ taken => exact .rewritten (taken stops)
  | verbatim _ taken =>
    have written := Passes.verbatim (taken stops)
    rwa [take_of_append] at written
  | rule _ taken => exact .rule (taken (closed _ stops))

private theorem exists_before_comma {mid rest : List Tree} {joint : Bool} {more : List Tree}
    (h : rest ++ .mark ',' joint :: more <:+ mid) :
    ∃ before, mid = before ++ .mark ',' joint :: more := by
  obtain ⟨taken, rfl⟩ := h
  exact ⟨taken ++ rest, by simp⟩

/-- A phrase whose tests stop at commas takes the same from trees that end before a comma which it
leaves. -/
theorem Passes.of_append_comma {known : ρ → Bool}
    (closed : ∀ name, known name = true → (rules name).stopsAtComma known = true) {n : Nat}
    {p : Phrase ρ} {joint : Bool} {more ts a rest : List Tree}
    (h : Passes rules n p (ts ++ .mark ',' joint :: more) a (rest ++ .mark ',' joint :: more))
    (stops : p.stopsAtComma known = true) : Passes rules n p ts a rest := by
  generalize whole : ts ++ .mark ',' joint :: more = xs,
    behind : rest ++ .mark ',' joint :: more = ys at h
  induction h generalizing ts rest with
  | nothing =>
    obtain rfl := List.append_cancel_right (whole.trans behind.symm)
    exact .nothing
  | @tree _ _ t _ fits =>
    subst behind
    obtain rfl : ts = t :: rest := List.append_cancel_right whole
    exact .tree fits
  | @within _ d _ inner _ _ content =>
    subst behind
    obtain rfl : ts = .group d inner :: rest := List.append_cancel_right whole
    exact .within content
  | noItems | lastItem | item => simp [stopsAtComma] at stops
  | noArguments =>
    obtain rfl := List.append_cancel_right (whole.trans behind.symm)
    cases ts with
    | nil => simp at whole
    | cons t ts =>
      obtain ⟨rfl, -⟩ := List.cons.inj whole
      exact .noArguments
  | lastArgument some _ first =>
    simp only [stopsAtComma] at stops
    subst whole
    have taken := first stops rfl behind
    cases rest with
    | nil => simp at behind
    | cons t rest =>
      obtain ⟨rfl, -⟩ := List.cons.inj behind
      exact .lastArgument (head_not_closing_of_append some) taken
  | argument some one two first others =>
    have both := stops
    simp only [stopsAtComma] at both
    subst whole behind
    obtain ⟨before, rfl⟩ := exists_before_comma two.suffix
    exact .argument (head_not_closing_of_append some) (first both rfl rfl) (others stops rfl rfl)
  | andThen one two first second =>
    simp only [stopsAtComma, Bool.and_eq_true] at stops
    subst whole behind
    obtain ⟨before, rfl⟩ := exists_before_comma two.suffix
    exact .andThen (first stops.1 rfl rfl) (second stops.2 rfl rfl)
  | yes next _ taken =>
    simp only [stopsAtComma, Bool.and_eq_true] at stops
    subst whole
    rw [Lookahead.holds_append_comma stops.1.1] at next
    exact .yes next (taken stops.1.2 rfl behind)
  | no next _ taken =>
    simp only [stopsAtComma, Bool.and_eq_true] at stops
    subst whole
    rw [Lookahead.holds_append_comma stops.1.1] at next
    exact .no next (taken stops.2 rfl behind)
  | behind one two first second =>
    simp only [stopsAtComma, Bool.and_eq_true] at stops
    subst whole behind
    obtain ⟨before, rfl⟩ := exists_before_comma two.suffix
    refine .behind (first stops.1.1 rfl rfl) (second ?_ rfl rfl)
    split
    · exact stops.1.2
    · exact stops.2
  | done next =>
    simp only [stopsAtComma, Bool.and_eq_true] at stops
    obtain rfl := List.append_cancel_right (whole.trans behind.symm)
    subst whole
    rw [Lookahead.holds_append_comma stops.1] at next
    exact .done next
  | again next one two first others =>
    have both := stops
    simp only [stopsAtComma, Bool.and_eq_true] at both
    subst whole behind
    obtain ⟨before, rfl⟩ := exists_before_comma two.suffix
    rw [Lookahead.holds_append_comma both.1] at next
    exact .again next (first both.2 rfl rfl) (others stops rfl rfl)
  | rewritten _ taken => exact .rewritten (taken stops whole behind)
  | verbatim _ taken =>
    have written := Passes.verbatim (taken stops whole behind)
    subst whole behind
    rwa [take_of_append]
  | rule _ taken => exact .rule (taken (closed _ stops) whole behind)

private theorem rounds_le_append (ts more : List Tree) : rounds ts ≤ rounds (ts ++ more) := by
  simp only [rounds, Tree.sizeAll_append]
  omega

end Phrase

namespace Rule

/-- The rules for types, and those that they follow outside of groups. -/
def stopsAtComma : Rule → Bool
  | .path .type | .pathRest .type | .segment .type | .qualified .type | .type _ | .argument
  | .bound _ | .bounds | .sum _ | .mixedBounds .. | .binderItems | .lifetimeBounds | .parameter _
  | .attributes => true
  | _ => false

/-- No test of these rules is passed by a comma. -/
theorem stopsAtComma_phrase (r : Rule) (h : r.stopsAtComma = true) :
    r.phrase.stopsAtComma stopsAtComma = true := by
  cases r with
  | path style | pathRest style | segment style | qualified style =>
    cases style with
    | type => rfl
    | value => cases h
  | type sums | parameter sums => cases sums <;> rfl
  | bound place | sum place => cases place <;> rfl
  | mixedBounds place sums => cases place <;> cases sums <;> rfl
  | argument | bounds | binderItems | lifetimeBounds | attributes => rfl
  | _ => cases h

/-- A rule takes all of the trees if it leaves none. -/
theorem whole?_eq_some_iff {r : Rule} {ts a : List Tree} :
    r.whole? ts = some a ↔ r.split? ts = some (a, []) := by
  unfold whole?
  constructor
  · intro h
    split at h
    · next taken => exact taken.trans (by rw [Option.some.inj h])
    · cases h
  · intro h
    rw [h]

/-- What is left behind a rule is the end of the trees. -/
theorem suffix_of_split? {r : Rule} {ts a rest : List Tree} (h : r.split? ts = some (a, rest)) :
    rest <:+ ts :=
  (Phrase.passes_of_pass? h).suffix

/-- Such a rule takes the same from trees that go on behind a comma. -/
theorem split?_append_comma {r : Rule} (stops : r.stopsAtComma = true) {ts a rest : List Tree}
    (h : r.split? ts = some (a, rest)) (joint : Bool) (more : List Tree) :
    r.split? (ts ++ .mark ',' joint :: more) = some (a, rest ++ .mark ',' joint :: more) := by
  have taken := (Phrase.passes_of_pass? h).append_comma stopsAtComma_phrase stops joint more
  exact (taken.mono (Phrase.rounds_le_append ts _)).pass?

end Rule

section Separated

variable {m : Type → Type} [Monad m] [LawfulMonad m] {α : Type} {stop : m (List α)}
  {read : List Tree → m (α × List Tree)} {ts : List Tree} {a : α}

/-- What is taken up to the end is the last that commas separate. -/
theorem separated_last (some : ts ≠ []) (last : read ts = pure (a, [])) (n : Nat) :
    separated stop read (n + 1) ts = pure [a] := by
  obtain ⟨t, ts, rfl⟩ := List.exists_cons_of_ne_nil some
  simp [separated, last]

/-- Behind what is taken up to a comma the others follow. -/
theorem separated_next (some : ts ≠ []) {joint : Bool} {rest : List Tree}
    (first : read ts = pure (a, .mark ',' joint :: rest)) (n : Nat) :
    separated stop read (n + 1) ts = (a :: ·) <$> separated stop read n rest := by
  obtain ⟨t, ts, rfl⟩ := List.exists_cons_of_ne_nil some
  simp [separated, first]

end Separated

end VersionedStore.Declaration
