import Mathlib.Data.List.Forall2
import VersionedStore.Outcome
import VersionedStore.Proofs.Declaration.Booleans

/-!
# How arguments are spelled

An argument of a model is spelled by its key, a sign of equality and a value: a type, a string
literal or a boolean literal, before which attributes may stand. Arguments are read from exactly the
trees that spell them, one by one and with commas between.
-/

namespace VersionedStore.Declaration

/-- The word for a boolean. -/
def booleanWord (b : Bool) : String := if b then "true" else "false"

/-- The words for booleans are literals. -/
theorem isLiteral_booleanWord (b : Bool) : Tree.isLiteral (.word (booleanWord b)) = true := by
  cases b <;> rfl

/-- An expression is a boolean if it is the word for it, behind its attributes. -/
theorem boolean_eq_ok_iff {key : String} {ts : List Tree} {b : Bool} :
    boolean key ts = .ok b ↔ withoutAttributes ts = [.word (booleanWord b)] := by
  unfold boolean
  constructor
  · intro h
    split at h
    · next word =>
      cases h
      exact word
    · next word =>
      cases h
      exact word
    · cases h
  · intro h
    rw [h]
    cases b <;> rfl

/-- What reads well is what was read. -/
theorem orMalformed_eq_ok_iff {α : Type} {o : Option α} {a : α} :
    orMalformed o = .ok a ↔ o = some a := by
  cases o <;> simp [orMalformed]

namespace ModelArgument

/-- The key of an argument. -/
def key : ModelArgument → String
  | .oid _ => "oid"
  | .tag _ => "tag"
  | .debug _ => "debug"

/-- Trees that spell an argument; `before` says what may stand before a boolean literal. -/
inductive Spelled (before : List Tree → Prop) : ModelArgument → List Tree → Prop where
  | oid {type ts : List Tree} (joint : Bool) (whole : (Rule.type true).whole? ts = some type) :
      Spelled before (.oid type) (.word "oid" :: .mark '=' joint :: ts)
  | tag {text spelling : String} (joint : Bool) (value : stringValue? spelling = some text) :
      Spelled before (.tag text) [.word "tag", .mark '=' joint, .literal .string spelling]
  | debug {row : List Tree} (joint : Bool) (attributes : before row) (b : Bool) :
      Spelled before (.debug b)
        (.word "debug" :: .mark '=' joint :: (row ++ [.word (booleanWord b)]))

/-- No argument is spelled by nothing. -/
theorem Spelled.ne_nil {before : List Tree → Prop} {a : ModelArgument} {piece : List Tree}
    (h : Spelled before a piece) : piece ≠ [] := by
  cases h <;> exact List.cons_ne_nil _ _

/-- The key of an identifier stands before a type. -/
theorem Spelled.type_whole {before : List Tree → Prop} {a : ModelArgument} {joint : Bool}
    {value : List Tree} (h : Spelled before a (.word "oid" :: .mark '=' joint :: value)) :
    (Rule.type true).whole? value ≠ none := by
  generalize same : Tree.word "oid" :: .mark '=' joint :: value = piece at h
  cases h with
  | oid _ whole =>
    cases same
    simp [whole]
  | tag => simp at same
  | debug => simp at same

/-- The key for debugging stands before a boolean literal. -/
theorem Spelled.literal_eq {before : List Tree → Prop} {a : ModelArgument} {joint : Bool}
    {value : List Tree} (h : Spelled before a (.word "debug" :: .mark '=' joint :: value)) :
    ∃ row b, before row ∧ value = row ++ [.word (booleanWord b)] := by
  generalize same : Tree.word "debug" :: .mark '=' joint :: value = piece at h
  cases h with
  | oid => simp at same
  | tag => simp at same
  | debug _ attributes b =>
    cases same
    exact ⟨_, b, attributes, rfl⟩

/-- Behind its key and a sign of equality an argument is read by its value. -/
theorem read_word {w : String} (name : Tree.isName (.word w) = true) (joint : Bool)
    (value : List Tree) : read (.word w :: .mark '=' joint :: value) = ofKey w value := by
  exact bind_of_ok (orMalformed_eq_ok_iff.mpr (name?_word name _)) _

private theorem exists_of_read {ts : List Tree} {r : ModelArgument × List Tree}
    (h : read ts = .ok r) :
    ∃ w joint value, ts = .word w :: .mark '=' joint :: value ∧ ofKey w value = .ok r := by
  obtain ⟨⟨w, rest⟩, front, behind⟩ := ok_of_bind h
  have named := orMalformed_eq_ok_iff.mp front
  unfold name? at named
  split at named
  · split at named
    · cases named
      simp only at behind
      split at behind
      · exact ⟨w, _, _, rfl, behind⟩
      · cases behind
    · cases named
  · cases named

/-- The value of an argument is read from the front of trees by its key. -/
theorem ofKey_eq_ok_iff {w : String} {ts rest : List Tree} {a : ModelArgument} :
    ofKey w ts = .ok (a, rest) ↔
      (∃ type, w = "oid" ∧ a = .oid type ∧ type? ts = some (type, rest)) ∨
      (∃ text spelling, w = "tag" ∧ a = .tag text ∧ ts = .literal .string spelling :: rest ∧
        stringValue? spelling = some text) ∨
      ∃ b written, w = "debug" ∧ a = .debug b ∧ expression? ts = some (written, rest) ∧
        withoutAttributes written = [.word (booleanWord b)] := by
  constructor
  · intro h
    unfold ofKey at h
    split at h
    · obtain ⟨⟨type, left⟩, taken, same⟩ := ok_of_bind h
      cases same
      exact .inl ⟨type, rfl, rfl, orMalformed_eq_ok_iff.mp taken⟩
    · split at h
      · next spelling left =>
        obtain ⟨text, value, same⟩ := ok_of_bind h
        cases same
        exact .inr (.inl ⟨text, spelling, rfl, rfl, rfl, orMalformed_eq_ok_iff.mp value⟩)
      · cases h
    · obtain ⟨⟨written, left⟩, taken, h⟩ := ok_of_bind h
      obtain ⟨b, literal, same⟩ := ok_of_bind h
      cases same
      exact .inr (.inr ⟨b, written, rfl, rfl, orMalformed_eq_ok_iff.mp taken,
        boolean_eq_ok_iff.mp literal⟩)
    · cases h
  · rintro (⟨type, rfl, rfl, taken⟩ | ⟨text, spelling, rfl, rfl, rfl, value⟩ |
      ⟨b, written, rfl, rfl, taken, literal⟩)
    · exact bind_of_ok (orMalformed_eq_ok_iff.mpr taken) _
    · exact bind_of_ok (orMalformed_eq_ok_iff.mpr value) _
    · refine (bind_of_ok (orMalformed_eq_ok_iff.mpr taken) _).trans ?_
      exact bind_of_ok (boolean_eq_ok_iff.mpr literal) _

/-- A type is taken up to an end where it is taken whole. -/
theorem type?_eq_some_iff {ts type rest : List Tree} (ended : Ended rest) :
    type? ts = some (type, rest) ↔
      ∃ front, (Rule.type true).whole? front = some type ∧ ts = front ++ rest :=
  Rule.split?_eq_some_iff_of_ended rfl ended

/-- An argument is read up to an end from the trees that spell it. -/
theorem read_eq_ok_iff {ts rest : List Tree} {a : ModelArgument} (ended : Ended rest) :
    read ts = .ok (a, rest) ↔ ∃ piece, Spelled AttributeRow a piece ∧ ts = piece ++ rest := by
  constructor
  · intro h
    obtain ⟨w, joint, value, same, behind⟩ := exists_of_read h
    subst same
    rcases ofKey_eq_ok_iff.mp behind with ⟨type, rfl, rfl, taken⟩ |
      ⟨text, spelling, rfl, rfl, rfl, value⟩ | ⟨b, written, rfl, rfl, taken, literal⟩
    · obtain ⟨front, whole, rfl⟩ := (type?_eq_some_iff ended).mp taken
      exact ⟨_, .oid joint whole, rfl⟩
    · exact ⟨_, .tag joint value, rfl⟩
    · obtain ⟨row, inRow, rfl⟩ :=
        (expression?_literal_iff (isLiteral_booleanWord b) ended).mp ⟨written, taken, literal⟩
      exact ⟨_, .debug joint inRow b, by simp⟩
  · rintro ⟨piece, spelled, rfl⟩
    cases spelled with
    | @oid type front joint whole =>
      have taken := (type?_eq_some_iff ended).mpr ⟨front, whole, rfl⟩
      exact (read_word rfl joint _).trans (ofKey_eq_ok_iff.mpr (.inl ⟨type, rfl, rfl, taken⟩))
    | tag joint value =>
      exact (read_word rfl joint _).trans
        (ofKey_eq_ok_iff.mpr (.inr (.inl ⟨_, _, rfl, rfl, rfl, value⟩)))
    | @debug row joint inRow b =>
      obtain ⟨written, taken, literal⟩ :=
        (expression?_literal_iff (isLiteral_booleanWord b) ended).mpr ⟨row, inRow, rfl⟩
      rw [List.cons_append, List.cons_append, List.append_assoc]
      exact (read_word rfl joint _).trans
        (ofKey_eq_ok_iff.mpr (.inr (.inr ⟨b, written, rfl, rfl, taken, literal⟩)))

end ModelArgument

/-! ### Lists of arguments -/

/-- Pieces with commas between; one more may follow. -/
inductive Joined : List (List Tree) → List Tree → Prop where
  | nil : Joined [] []
  | last (piece : List Tree) : Joined [piece] piece
  | next {pieces : List (List Tree)} {ts : List Tree} (piece : List Tree) (joint : Bool)
      (others : Joined pieces ts) : Joined (piece :: pieces) (piece ++ .mark ',' joint :: ts)

/-- Pieces are none, or one, or a comma stands behind the first. -/
theorem Joined.split {pieces : List (List Tree)} {ts : List Tree} (h : Joined pieces ts) :
    ts = [] ∨ pieces = [ts] ∨ ∃ piece joint rest others, pieces = piece :: others ∧
      ts = piece ++ .mark ',' joint :: rest ∧ Joined others rest := by
  cases h with
  | nil => exact .inl rfl
  | last => exact .inr (.inl rfl)
  | next piece joint others => exact .inr (.inr ⟨piece, joint, _, _, rfl, rfl, others⟩)

namespace ModelArguments

open ModelArgument (Spelled read_eq_ok_iff)

/-- Trees give arguments: pieces with commas between spell them. -/
def Given (before : List Tree → Prop) (as : List ModelArgument) (ts : List Tree) : Prop :=
  ∃ pieces, Joined pieces ts ∧ List.Forall₂ (Spelled before) as pieces

private theorem separated_eq_ok {n : Nat} {ts : List Tree} {as : List ModelArgument}
    (some : ts ≠ [])
    (h : separated (.error .malformed) ModelArgument.read (n + 1) ts = .ok as) :
    (∃ a, as = [a] ∧ ModelArgument.read ts = .ok (a, [])) ∨
      ∃ a joint rest others, as = a :: others ∧
        ModelArgument.read ts = .ok (a, .mark ',' joint :: rest) ∧
        separated (.error .malformed) ModelArgument.read n rest = .ok others := by
  obtain ⟨t, ts, rfl⟩ := List.exists_cons_of_ne_nil some
  obtain ⟨⟨a, rest⟩, first, h⟩ := ok_of_bind h
  simp only at h
  split at h
  · cases h
    exact .inl ⟨a, rfl, first⟩
  · next joint rest =>
    obtain ⟨others, more, same⟩ := ok_of_bind h
    cases same
    exact .inr ⟨a, joint, rest, others, rfl, first, more⟩
  · cases h

/-- No trees give no arguments. -/
theorem given_nil_iff {before : List Tree → Prop} {as : List ModelArgument} :
    Given before as [] ↔ as = [] := by
  constructor
  · rintro ⟨pieces, joined, spelled⟩
    generalize none : ([] : List Tree) = ts at joined
    cases joined with
    | nil =>
      cases spelled
      rfl
    | last piece =>
      cases spelled with
      | cons first _ => exact absurd none.symm first.ne_nil
    | next piece joint others => simp at none
  · rintro rfl
    exact ⟨[], .nil, .nil⟩

/-- Arguments are read from exactly the trees that give them. -/
theorem separated_eq_ok_iff {n : Nat} {ts : List Tree} {as : List ModelArgument}
    (enough : ts.length ≤ n) :
    separated (.error .malformed) ModelArgument.read n ts = .ok as ↔ Given AttributeRow as ts := by
  induction n generalizing ts as with
  | zero =>
    obtain rfl := List.length_eq_zero_iff.mp (Nat.le_zero.mp enough)
    rw [given_nil_iff]
    simp [separated, pure, Except.pure, eq_comm]
  | succ n ih =>
    by_cases some : ts = []
    · subst some
      rw [given_nil_iff]
      simp [separated, pure, Except.pure, eq_comm]
    constructor
    · intro h
      rcases separated_eq_ok some h with ⟨a, rfl, taken⟩ |
        ⟨a, joint, rest, others, rfl, taken, more⟩
      · obtain ⟨piece, spelled, same⟩ := (read_eq_ok_iff .nil).mp taken
        obtain rfl : ts = piece := by simpa using same
        exact ⟨[ts], .last ts, .cons spelled .nil⟩
      · obtain ⟨piece, spelled, rfl⟩ := (read_eq_ok_iff (.comma joint rest)).mp taken
        simp only [List.length_append, List.length_cons] at enough
        obtain ⟨pieces, joined, behind⟩ := (ih (by omega)).mp more
        exact ⟨piece :: pieces, .next piece joint joined, .cons spelled behind⟩
    · rintro ⟨pieces, joined, spelled⟩
      cases joined with
      | nil => exact absurd rfl some
      | last piece =>
        cases spelled with
        | cons first none =>
          cases none
          exact separated_last some ((read_eq_ok_iff .nil).mpr ⟨_, first, by simp⟩) n
      | @next pieces rest piece joint joined =>
        cases spelled with
        | @cons a _ as _ first behind =>
          simp only [List.length_append, List.length_cons] at enough
          have others := (ih (by omega)).mpr ⟨pieces, joined, behind⟩
          have taken := (read_eq_ok_iff (.comma joint rest)).mpr ⟨piece, first, rfl⟩
          exact (separated_next some taken n).trans (congrArg ((a :: ·) <$> ·) others)

/-- Arguments that are given are read, and put together. -/
theorem read_eq {ts : List Tree} {as : List ModelArgument} (given : Given AttributeRow as ts) :
    read ts = ofList as :=
  bind_of_ok ((separated_eq_ok_iff (Nat.le_refl _)).mpr given) _

/-- Arguments that are read are given. -/
theorem exists_given {ts : List Tree} {m : ModelArguments} (h : read ts = .ok m) :
    ∃ as, Given AttributeRow as ts ∧ ofList as = .ok m := by
  obtain ⟨as, several, put⟩ := ok_of_bind h
  exact ⟨as, (separated_eq_ok_iff (Nat.le_refl _)).mp several, put⟩

end ModelArguments

end VersionedStore.Declaration
