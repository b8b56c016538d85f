import Mathlib.Data.List.Induction
import VersionedStore.Declaration.Expansion
import VersionedStore.Proofs.Declaration.Phrases

/-!
# Merged derives

A struct has one attribute for the traits that it derives. It names the required traits and then
those of the attributes it stands in for, of all paths to one trait the first; the other attributes
follow as they are. A trait is known by the name of a path's last segment. The paths are read back
from the merged attribute, so merging once more changes nothing.
-/

namespace VersionedStore.Declaration

namespace Path

/-! ### The name of a path -/

/-- Every angle that opens among trees closes there, and none closes besides; that of an arrow is no
such angle. -/
inductive Balanced : List Tree → Prop where
  | nil : Balanced []
  | tree {t : Tree} {ts : List Tree} (plain : ∀ c ∈ ['<', '>', '-'], t.isMark c = false)
      (rest : Balanced ts) : Balanced (t :: ts)
  | arrow {joint last : Bool} {ts : List Tree} (rest : Balanced ts) :
      Balanced (.mark '-' joint :: .mark '>' last :: ts)
  | minus {joint : Bool} {t : Tree} {ts : List Tree} (plain : t.isMark '>' = false)
      (rest : Balanced (t :: ts)) : Balanced (.mark '-' joint :: t :: ts)
  | angles {joint last : Bool} {inside ts : List Tree} (content : Balanced inside)
      (rest : Balanced ts) : Balanced (.mark '<' joint :: inside ++ .mark '>' last :: ts)

/-- The last segment of trees has this name: only its arguments stand behind it. -/
inductive LastSegment (name : String) : List Tree → Prop where
  | bare {front : List Tree} (before : Balanced front) : LastSegment name (front ++ [.word name])
  | arguments {front colons inside : List Tree} {joint last : Bool} (before : Balanced front)
      (marks : ∀ t ∈ colons, t.isMark ':' = true) (content : Balanced inside) :
      LastSegment name
        (front ++ .word name :: (colons ++ .mark '<' joint :: (inside ++ [.mark '>' last])))

private theorem lastName_plain {t : Tree} (plain : ∀ c ∈ ['<', '>', '-'], t.isMark c = false)
    (depth : Nat) (name : String) :
    ∃ next, (0 < depth → next = name) ∧
      ∀ ts, lastName depth name (t :: ts) = lastName depth next ts := by
  cases t with
  | mark c joint =>
    simp only [Tree.isMark, List.mem_cons, List.not_mem_nil, or_false, forall_eq_or_imp, forall_eq,
      beq_eq_false_iff_ne] at plain
    exact ⟨name, fun _ ↦ rfl, fun ts ↦ by simp [lastName, plain]⟩
  | word w =>
    cases depth with
    | zero => exact ⟨w, fun inside ↦ absurd inside (Nat.lt_irrefl 0), fun ts ↦ by simp [lastName]⟩
    | succ => exact ⟨name, fun _ ↦ rfl, fun ts ↦ by simp [lastName]⟩
  | _ => exact ⟨name, fun _ ↦ rfl, fun ts ↦ by simp [lastName]⟩

/-- Balanced trees leave the angles open that are, and inside of these the name as it is. -/
theorem Balanced.lastName_append {ts : List Tree} (h : Balanced ts) (depth : Nat) (name : String) :
    ∃ next, (0 < depth → next = name) ∧
      ∀ rest, lastName depth name (ts ++ rest) = lastName depth next rest := by
  induction h generalizing depth name with
  | nil => exact ⟨name, fun _ ↦ rfl, fun _ ↦ rfl⟩
  | tree plain _ ih =>
    obtain ⟨next, kept, first⟩ := lastName_plain plain depth name
    obtain ⟨last, kept', others⟩ := ih depth next
    exact ⟨last, fun inside ↦ (kept' inside).trans (kept inside), fun rest ↦
      (first _).trans (others rest)⟩
  | arrow _ ih =>
    obtain ⟨next, kept, others⟩ := ih depth name
    exact ⟨next, kept, fun rest ↦ by simp [lastName, others]⟩
  | @minus _ t _ plain _ ih =>
    obtain ⟨next, kept, others⟩ := ih depth name
    refine ⟨next, kept, fun rest ↦ ?_⟩
    rw [← others]
    cases t with
    | mark c _ =>
      have other : c ≠ '>' := by simpa [Tree.isMark] using plain
      simp [lastName, other]
    | _ => simp [lastName]
  | angles _ _ content ih =>
    obtain ⟨next, kept, inside⟩ := content (depth + 1) name
    obtain rfl := kept (Nat.zero_lt_succ _)
    obtain ⟨last, kept', others⟩ := ih depth next
    exact ⟨last, kept', fun rest ↦ by simp [lastName, inside, others]⟩

private theorem key_of_lastSegment {p : Path} {name : String} (h : LastSegment name p.trees) :
    p.key = name := by
  unfold key
  generalize p.trees = ts at h
  cases h with
  | bare before =>
    obtain ⟨_, -, passed⟩ := before.lastName_append 0 ""
    rw [passed]
    rfl
  | @arguments front colons inside _ _ before marks content =>
    obtain ⟨next, -, passed⟩ := before.lastName_append 0 ""
    obtain ⟨same, kept, closed⟩ := content.lastName_append 1 name
    obtain rfl := kept Nat.zero_lt_one
    have behind (rest : List Tree) : lastName 0 same (colons ++ rest) = lastName 0 same rest := by
      induction colons with
      | nil => rfl
      | cons t colons ih =>
        obtain ⟨colon, others⟩ := List.forall_mem_cons.mp marks
        cases t with
        | mark c _ =>
          obtain rfl : c = ':' := by simpa [Tree.isMark] using colon
          simp [lastName, ih others]
        | _ => cases colon
    rw [passed]
    simp [lastName, behind, closed]

/-! ### The first path to each trait -/

/-- Paths read from the left: each is kept unless one before it leads to the same trait. -/
inductive Merges : List Path → List Path → Prop where
  | none : Merges [] []
  | first {listed kept : List Path} {p : Path} (sofar : Merges listed kept)
      (unseen : p.key ∉ listed.map key) : Merges (listed ++ [p]) (kept ++ [p])
  | again {listed kept : List Path} {p : Path} (sofar : Merges listed kept)
      (seen : p.key ∈ listed.map key) : Merges (listed ++ [p]) kept

/-- The same traits are led to by paths and by the first of them. -/
theorem mem_keys_distinct {ps : List Path} {key : String} :
    key ∈ (distinct ps).map Path.key ↔ key ∈ ps.map Path.key := by
  induction ps with
  | nil => rfl
  | cons p ps ih =>
    by_cases same : key = p.key
    · simp [distinct, same]
    · simp only [distinct, List.map_cons, List.mem_cons, same, false_or, ← ih]
      simp only [List.mem_map, List.mem_filter, decide_eq_true_eq]
      constructor
      · rintro ⟨q, ⟨mem, _⟩, eq⟩
        exact ⟨q, mem, eq⟩
      · rintro ⟨q, mem, eq⟩
        exact ⟨q, ⟨mem, eq ▸ same⟩, eq⟩

/-- Of further paths those to other traits are added. -/
theorem distinct_append (ps qs : List Path) :
    distinct (ps ++ qs) = distinct ps ++ (distinct qs).filter fun q ↦ q.key ∉ ps.map key := by
  induction ps with
  | nil => exact (List.filter_eq_self.mpr fun _ _ ↦ rfl).symm
  | cons p ps ih =>
    simp only [List.cons_append, distinct, ih, List.filter_append, List.filter_filter]
    congr 3
    funext q
    simp

/-- Paths to traits that all differ are kept. -/
theorem distinct_of_nodup {ps : List Path} (h : (ps.map key).Nodup) : distinct ps = ps := by
  induction ps with
  | nil => rfl
  | cons p ps ih =>
    obtain ⟨unseen, others⟩ := List.nodup_cons.mp h
    rw [distinct, ih others, List.filter_eq_self.mpr]
    intro q mem
    exact decide_eq_true fun same ↦ unseen (same ▸ List.mem_map_of_mem mem)

/-- The first of paths to each trait are those that are kept. -/
theorem merges_distinct (ps : List Path) : Merges ps (distinct ps) := by
  -- Paths are kept by those before them, so the induction takes them off at the end.
  induction ps using List.reverseRecOn with
  | nil => exact .none
  | append_singleton ps p ih =>
    have last : distinct [p] = [p] := rfl
    rw [distinct_append, last]
    by_cases seen : p.key ∈ ps.map key
    · rw [List.filter_cons_of_neg (by simpa using seen), List.filter_nil, List.append_nil]
      exact ih.again seen
    · rw [List.filter_cons_of_pos (by simpa using seen), List.filter_nil]
      exact ih.first seen

/-- Paths that come once more behind some of themselves add nothing. -/
theorem distinct_append_distinct (ps qs : List Path) :
    distinct (ps ++ distinct (ps ++ qs)) = distinct (ps ++ qs) := by
  have settled : distinct (distinct (ps ++ qs)) = distinct (ps ++ qs) :=
    distinct_of_nodup (distinct_nodup _)
  have none : (distinct ps).filter (fun q ↦ q.key ∉ ps.map key) = [] :=
    List.filter_eq_nil_iff.mpr fun q mem ↦ by
      simpa using mem_keys_distinct.mp (List.mem_map_of_mem mem)
  rw [distinct_append, settled, distinct_append, List.filter_append, none, List.nil_append,
    List.filter_filter]
  simp

/-! ### Reading paths back -/

/-- A path takes all of its trees. -/
theorem split?_trees (p : Path) : (Rule.path .type).split? p.trees = some (p.trees, []) :=
  Rule.whole?_eq_some_iff.mp p.isPath

/-- A path is read where its trees are taken. -/
theorem read?_of_split? {ts rest : List Tree} {p : Path}
    (h : (Rule.path .type).split? ts = some (p.trees, rest)) : read? ts = some (p, rest) := by
  simp [read?, h, p.isPath]

/-- A path is read from its own trees. -/
theorem read?_trees (p : Path) : read? p.trees = some (p, []) := read?_of_split? p.split?_trees

private theorem read?_append_comma (p : Path) (joint : Bool) (more : List Tree) :
    read? (p.trees ++ .mark ',' joint :: more) = some (p, .mark ',' joint :: more) :=
  read?_of_split? (Rule.split?_append_comma rfl p.split?_trees joint more)

/-- No trees are no path. -/
theorem trees_ne_nil (p : Path) : p.trees ≠ [] := by
  intro empty
  have taken := p.split?_trees
  rw [empty] at taken
  cases taken

private theorem separated_joined (ps : List Path) {n : Nat} (enough : (joined ps).length ≤ n) :
    separated none read? n (joined ps) = some ps := by
  induction ps generalizing n with
  | nil => cases n <;> rfl
  | cons p ps ih =>
    have long := List.length_pos_iff.mpr p.trees_ne_nil
    cases ps with
    | nil =>
      obtain ⟨m, rfl⟩ := Nat.exists_eq_add_one.mpr (Nat.lt_of_lt_of_le long enough)
      exact separated_last p.trees_ne_nil p.read?_trees m
    | cons q qs =>
      simp only [joined, List.length_append, List.length_cons] at enough
      obtain ⟨m, rfl⟩ := Nat.exists_eq_add_one.mpr (show 0 < n by omega)
      have some : joined (p :: q :: qs) ≠ [] := by simp [joined]
      rw [separated_next some (p.read?_append_comma false (joined (q :: qs))), ih (by omega)]
      rfl

end Path

/-! ### Attributes that derive -/

namespace Attribute

/-- The paths that an attribute for derived traits lists; nothing if it does not list paths. -/
def paths? (a : Attribute) : Option (List Path) :=
  match a.content with
  | [.word "derive", .group _ content] => separated none Path.read? content.length content
  | _ => none

/-- The traits that an attribute derives are those that it lists. -/
theorem derived_eq (a : Attribute) : a.derived = a.paths?.getD [] := by
  unfold derived
  split
  · next content => simp only [paths?, content]
  · next other =>
    have none : a.paths? = none := by
      unfold paths?
      split
      · next content => exact (other _ _ content).elim
      · rfl
    rw [none]
    rfl

private theorem paths?_of_not_isDerive {a : Attribute} (h : a.isDerive = false) :
    a.paths? = none := by
  unfold paths?
  split
  · next content => simp [isDerive, name?, content] at h
  · rfl

/-- The merged attribute derives. -/
theorem isDerive_derive (ps : List Path) : (derive ps).isDerive = true := rfl

/-- The merged attribute lists the paths that it is made of. -/
theorem paths?_derive (ps : List Path) : (derive ps).paths? = some ps :=
  Path.separated_joined ps (Nat.le_refl _)

end Attribute

/-- Only the attributes for derived traits name some. -/
theorem flatMap_derived (as : List Attribute) :
    as.flatMap Attribute.derived = (as.filter (·.isDerive)).flatMap Attribute.derived := by
  induction as with
  | nil => rfl
  | cons a as ih =>
    cases kind : a.isDerive with
    | false =>
      have none : a.derived = [] := by rw [a.derived_eq, a.paths?_of_not_isDerive kind]; rfl
      simp [kind, none, ih]
    | true => simp [kind, ih]

/-- Merging once more merges the same. -/
theorem mergedDerives_withDerives (required : List Path) (as : List Attribute) :
    mergedDerives required (withDerives required as) = mergedDerives required as := by
  have others : (as.filter fun a ↦ !a.isDerive).flatMap Attribute.derived = [] := by
    rw [flatMap_derived, List.filter_filter]
    simp
  have own : (Attribute.derive (mergedDerives required as)).derived =
      mergedDerives required as := by
    rw [Attribute.derived_eq, Attribute.paths?_derive]
    rfl
  rw [mergedDerives, withDerives, List.flatMap_cons, own, others, List.append_nil, mergedDerives,
    Path.distinct_append_distinct]

/-- Of attributes with their derived traits merged one derives, the first. -/
theorem filter_isDerive_withDerives (required : List Path) (as : List Attribute) :
    (withDerives required as).filter (·.isDerive) = [.derive (mergedDerives required as)] := by
  rw [withDerives, List.filter_cons_of_pos (Attribute.isDerive_derive _), List.filter_filter]
  simp

/-- Merging once more changes nothing. -/
theorem withDerives_withDerives (required : List Path) (as : List Attribute) :
    withDerives required (withDerives required as) = withDerives required as := by
  have others : (withDerives required as).filter (fun a ↦ !a.isDerive) =
      as.filter fun a ↦ !a.isDerive := by
    simp [withDerives, Attribute.isDerive_derive, List.filter_filter]
  conv_lhs => rw [withDerives, mergedDerives_withDerives, others]
  rfl

/-- Where every attribute for derived traits lists paths, one such attribute comes first, and the
others follow as they are. It lists the required paths and then those listed before, of all paths to
one trait the first, so that each trait occurs once; a trait is known by the last segment of a path.
Merging once more changes nothing. -/
theorem withDerives_merges (required : List Path) (as : List Attribute)
    (lists : Attribute → List Path)
    (listed : ∀ a ∈ as, a.isDerive = true → a.paths? = some (lists a)) :
    let paths := required ++ (as.filter (·.isDerive)).flatMap lists
    ∃ merged, withDerives required as = .derive merged :: as.filter (fun a ↦ !a.isDerive) ∧
      (withDerives required as).filter (·.isDerive) = [.derive merged] ∧
      (Attribute.derive merged).paths? = some merged ∧ Path.Merges paths merged ∧
      (merged.map Path.key).Nodup ∧
      (∀ key, key ∈ merged.map Path.key ↔ key ∈ paths.map Path.key) ∧
      (∀ p ∈ paths, ∀ name, Path.LastSegment name p.trees → p.key = name) ∧
      withDerives required (withDerives required as) = withDerives required as := by
  intro paths
  have same : required ++ as.flatMap Attribute.derived = paths := by
    have each : ∀ a ∈ as.filter (·.isDerive), a.derived = lists a := by
      intro a mem
      obtain ⟨own, kind⟩ := List.mem_filter.mp mem
      rw [a.derived_eq, listed a own kind]
      rfl
    rw [flatMap_derived, List.flatMap_def, List.map_congr_left each, ← List.flatMap_def]
  refine ⟨mergedDerives required as, rfl, filter_isDerive_withDerives required as,
    Attribute.paths?_derive _, ?_, Path.distinct_nodup _, fun key ↦ ?_,
    fun _ _ _ last ↦ Path.key_of_lastSegment last, withDerives_withDerives required as⟩
  · rw [mergedDerives, same]
    exact Path.merges_distinct paths
  · rw [mergedDerives, same]
    exact Path.mem_keys_distinct

/-- Traits are derived in two places around another attribute, one of them by two paths: each is
derived once, in front of that attribute. -/
theorem withDerives_merges_note :
    let declared : List Attribute :=
      [⟨[.word "derive", .group .parenthesis
        [.word "Clone", .mark ',' false, .word "Serialize", .mark ',' false]]⟩, defaultAttribute,
        .derive [.serialize, .debug]]
    let required := [Path.default, Path.serialize]
    (∀ a ∈ declared, a.isDerive = true → a.paths? = some a.derived) ∧
      withDerives required declared =
        [.derive [.default, .serialize, .clone, .debug], defaultAttribute] ∧
      withDerives required (withDerives required declared) = withDerives required declared := by
  intro declared required
  have listed : ∀ a ∈ declared, a.isDerive = true → a.paths? = some a.derived := by
    intro a own derives
    obtain rfl | rfl | rfl : a = _ ∨ a = _ ∨ a = _ := by simpa [declared] using own
    · rfl
    · cases derives
    · rw [Attribute.derived_eq, Attribute.paths?_derive]
      rfl
  obtain ⟨_, -, -, -, -, -, -, -, again⟩ :=
    withDerives_merges required declared Attribute.derived listed
  exact ⟨listed, by decide, again⟩

end VersionedStore.Declaration
