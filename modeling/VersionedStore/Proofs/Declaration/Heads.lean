import VersionedStore.Proofs.Declaration.Rounds

/-!
# First trees

A phrase that keeps heads writes for the first tree that it takes the same one, but for what a group
holds, and writes nothing only where it takes nothing. The rules for expressions keep heads, so the
beginning of an expression is read off what is written for it.
-/

namespace VersionedStore.Declaration

/-- Trees that are the same, but for what groups hold. -/
inductive Tree.Alike : Tree → Tree → Prop where
  | same (t : Tree) : Alike t t
  | group (d : Delimiter) (content written : List Tree) :
      Alike (.group d content) (.group d written)

namespace Phrase

variable {ρ : Type} {rules : ρ → Phrase ρ} {eats keeps : ρ → Bool}

/-- What is written for trees that are taken begins as they do; nothing is written for none. -/
inductive Begins : List Tree → List Tree → List Tree → Prop where
  | nothing {ts : List Tree} : Begins ts [] ts
  | tree {t u : Tree} {ts a rest : List Tree} (alike : t.Alike u) : Begins (t :: ts) (u :: a) rest

/-- What is taken later is written behind. -/
theorem Begins.append {ts a mid b rest : List Tree} (first : Begins ts a mid)
    (second : Begins mid b rest) : Begins ts (a ++ b) rest := by
  cases first with
  | nothing => exact second
  | tree alike => exact .tree alike

/-- Behind trees of which one was taken anything may be written. -/
theorem Begins.append_of_lt {ts a mid : List Tree} (first : Begins ts a mid)
    (less : Tree.sizeAll mid < Tree.sizeAll ts) (b rest : List Tree) : Begins ts (a ++ b) rest := by
  cases first with
  | nothing => exact absurd less (Nat.lt_irrefl _)
  | tree alike => exact .tree alike

private theorem begins_take {ts rest : List Tree} (h : rest <:+ ts) :
    Begins ts (ts.take (ts.length - rest.length)) rest := by
  obtain ⟨taken, rfl⟩ := h
  rw [List.length_append, Nat.add_sub_cancel, List.take_left]
  cases taken with
  | nil => exact .nothing
  | cons t taken => exact .tree (.same t)

/-- Does the phrase keep heads? Behind what takes a tree it may do otherwise. -/
def keepsHead (eats keeps : ρ → Bool) : Phrase ρ → Bool
  | .nothing | .tree _ | .within .. | .verbatim _ => true
  | .items _ | .arguments _ | .rewritten .. => false
  | .andThen p q => p.keepsHead eats keeps && (p.consumes eats || q.keepsHead eats keeps)
  | .choice _ p q => p.keepsHead eats keeps && q.keepsHead eats keeps
  | .behind p _ q r =>
    p.keepsHead eats keeps &&
      (p.consumes eats || q.keepsHead eats keeps && r.keepsHead eats keeps)
  | .many _ p => p.keepsHead eats keeps
  | .rule name => keeps name

/-- A phrase that keeps heads writes what begins as the trees that it takes. -/
theorem Passes.begins (eaten : ∀ name, eats name = true → (rules name).consumes eats = true)
    (kept : ∀ name, keeps name = true → (rules name).keepsHead eats keeps = true) {n : Nat}
    {p : Phrase ρ} {ts a rest : List Tree} (h : Passes rules n p ts a rest)
    (keep : p.keepsHead eats keeps = true) : Begins ts a rest := by
  induction h with
  | nothing | done => exact .nothing
  | tree => exact .tree (.same _)
  | within => exact .tree (.group ..)
  | noItems | lastItem | item | noArguments | lastArgument | argument | rewritten =>
    simp [keepsHead] at keep
  | andThen one two first second =>
    simp only [keepsHead, Bool.and_eq_true, Bool.or_eq_true] at keep
    rcases keep with ⟨keep, takes | keep'⟩
    · exact (first keep).append_of_lt (one.sizeAll_lt eaten takes) _ _
    · exact (first keep).append (second keep')
  | yes _ _ taken =>
    simp only [keepsHead, Bool.and_eq_true] at keep
    exact taken keep.1
  | no _ _ taken =>
    simp only [keepsHead, Bool.and_eq_true] at keep
    exact taken keep.2
  | behind one two first second =>
    simp only [keepsHead, Bool.and_eq_true, Bool.or_eq_true] at keep
    rcases keep with ⟨keep, takes | keep'⟩
    · exact (first keep).append_of_lt (one.sizeAll_lt eaten takes) _ _
    · exact (first keep).append (second (by split <;> simp [keep']))
  | again _ _ _ first others =>
    exact (first keep).append (others keep)
  | verbatim taken => exact begins_take taken.suffix
  | rule _ taken => exact taken (kept _ keep)

end Phrase

namespace Rule

/-- The rules for expressions, and those that they begin with. -/
def keepsHead : Rule → Bool
  | .attributes | .path .value | .pathRest .value | .segment .value | .qualified .value
  | .expression _ | .climbing .. | .operators .. | .operand _ | .atom _ | .postfixes | .conditional
  | .closure _ | .blockLike => true
  | _ => false

/-- These rules keep heads. -/
theorem keepsHead_phrase (r : Rule) (h : r.keepsHead = true) :
    r.phrase.keepsHead consumes keepsHead = true := by
  cases r with
  | path style | pathRest style | segment style | qualified style =>
    cases style with
    | value => rfl
    | type => cases h
  | expression flag | operand flag | atom flag | closure flag => cases flag <;> rfl
  | climbing literals base => cases literals <;> cases base <;> rfl
  | operators literals base compared =>
    cases literals <;> cases base <;> cases compared <;> decide +kernel
  | attributes | postfixes | conditional | blockLike => rfl
  | _ => cases h

/-- What such a rule writes begins as the trees that it takes. -/
theorem begins {r : Rule} (keeps : r.keepsHead = true) {ts a rest : List Tree}
    (h : Phrase.Takes (.rule r) ts a rest) : Phrase.Begins ts a rest := by
  obtain ⟨n, taken⟩ := h
  exact taken.begins ranked.consumes keepsHead_phrase keeps

end Rule

end VersionedStore.Declaration
