import Mathlib.Data.List.Forall2
import Mathlib.Logic.Function.Basic
import VersionedStore.Proofs.Memory.Content
import VersionedStore.Proofs.Memory.Invariant
import VersionedStore.Proofs.Relational.Serving
import VersionedStore.Proofs.Schema.Document

/-!
# Rows that show objects

`Shows` relates an object in memory to the row that stands for it: the key and the columns are its
own, the numeric id being renamed, and the payload is its document with whatever numeric id it had
when it was written. `Mirrors` relates a memory to a table in this way, object by object in the same
order. Adding, changing and dropping rows keeps the relation, and leaves the rows of other models
alone.
-/

namespace VersionedStore

open Crud

namespace Model.Object

variable {M : Model}

/-- The object with another numeric id in place of its own. -/
def renumber (ρ : Word 64 → Word 64) (m : M.Object) : M.Object :=
  { m with numericId := m.numericId.map ρ }

/-- Where the JSON keeps the names of the metadata, the numeric id is no content. -/
theorem content_renumber (conventional : M.Conventional) (ρ : Word 64 → Word 64) (m : M.Object) :
    (m.renumber ρ).content = m.content := by
  rw [content_eq conventional, content_eq conventional]
  rfl

/-- What replaces a renumbered object is renumbered. -/
theorem succeeding_renumber {m stored : M.Object} {n : Word 64}
    (numbered : stored.numericId = some n) (ρ : Word 64 → Word 64) (version : Version) :
    m.succeeding (stored.renumber ρ) version = (m.succeeding stored version).renumber ρ := by
  simp [succeeding, renumber, numbered]

end Model.Object

namespace Relational

/-- A number below the limit has a column, which has it. -/
theorem toColumn_of_lt {n : Word 64} (small : n.val < 0x8000000000000000) :
    ∃ c, toColumn n = .ok c ∧ ofColumn c = .ok n := by
  have made : toColumn n = .ok ⟨n.val, by omega⟩ := dif_pos small
  exact ⟨_, made, ofColumn_of_toColumn made⟩

/-- The number of a column is its value. -/
theorem value_of_ofColumn {c : Int64Value} {n : Word 64} (h : ofColumn c = .ok n) :
    c.value = n.val := by
  unfold ofColumn at h
  split at h
  · cases h
    exact (Int.toNat_of_nonneg ‹_›).symm
  · cases h

/-- Columns with the same number are equal. -/
theorem ofColumn_injective {c d : Int64Value} {n : Word 64} (hc : ofColumn c = .ok n)
    (hd : ofColumn d = .ok n) : c = d := by
  have value := (value_of_ofColumn hc).trans (value_of_ofColumn hd).symm
  obtain ⟨c, hc'⟩ := c
  obtain ⟨d, hd'⟩ := d
  obtain rfl : c = d := value
  rfl

/-- A column that is not negative has a number, which is its value. -/
theorem ofColumn_of_nonneg {c : Int64Value} (h : 0 ≤ c.value) :
    ∃ n, ofColumn c = .ok n ∧ (n.val : Int) = c.value :=
  ⟨_, dif_pos h, Int.toNat_of_nonneg h⟩

variable {M : Model}

/-- A row shows an object that is stored under an OID, its numeric id renamed. -/
structure Shows (ρ : Word 64 → Word 64) (e : M.Oid × M.Object) (r : Row) : Prop where
  tag : r.tag = M.tag
  oid : r.oid = M.oidKind.textOf e.1
  numbered : ∃ n, e.2.numericId = some n ∧ ofColumn r.numericId = .ok (ρ n)
  versioned : ofColumn r.version = .ok e.2.version.number
  payload : ∃ n, r.payload = toDocument { e.2 with numericId := n }

/-- The row that shows an object is read as the object, renumbered. -/
theorem Shows.ofRow {ρ : Word 64 → Word 64} {e : M.Oid × M.Object} {r : Row} (h : Shows ρ e r) :
    ofRow M r = .ok (e.2.renumber ρ) := by
  obtain ⟨stale, payload⟩ := h.payload
  obtain ⟨n, own, numbered⟩ := h.numbered
  have read : (ofJson M.Object r.payload.json).mapError Failure.serialization =
      .ok { e.2 with numericId := stale } := by
    rw [payload, ofJson_toDocument M.faithful_schema]
    rfl
  refine (bind_of_ok read _).trans <| (bind_of_ok numbered _).trans <|
    (bind_of_ok h.versioned _).trans ?_
  simp [Model.Object.renumber, own]

/-- A row has the key of an OID exactly when it shows the object under the OID. -/
theorem Shows.hasKey_iff {ρ : Word 64 → Word 64} {e : M.Oid × M.Object} {r : Row}
    (h : Shows ρ e r) (oid : M.Oid) :
    r.hasKey M.tag (M.oidKind.textOf oid) = true ↔ e.1 = oid := by
  rw [Row.hasKey, h.tag, beq_self_eq_true, Bool.true_and, h.oid, beq_iff_eq]
  exact ⟨OidKind.textOf_injective, congrArg _⟩

/-- Only the name of the object's own numeric id matters. -/
theorem Shows.congr {ρ ρ' : Word 64 → Word 64} {e : M.Oid × M.Object} {r : Row} (h : Shows ρ e r)
    (same : ∀ n, e.2.numericId = some n → ρ' n = ρ n) : Shows ρ' e r where
  tag := h.tag
  oid := h.oid
  numbered := by
    obtain ⟨n, own, numbered⟩ := h.numbered
    exact ⟨n, own, (same n own).symm ▸ numbered⟩
  versioned := h.versioned
  payload := h.payload

/-- A table shows what is in a memory, object by object, under numeric ids that ascend as those in
memory do and were all drawn from the sequence. -/
structure Mirrors (ρ : Word 64 → Word 64) (s : Memory M) (t : Table) : Prop where
  rows : List.Forall₂ (Shows ρ) s.objects (t.tagged M.tag)
  ascending : ∀ i j : Word 64, 1 ≤ i.val → i < j → j ≤ s.sequence → ρ i < ρ j
  drawn : ∀ i : Word 64, 1 ≤ i.val → i ≤ s.sequence → ((ρ i).val : Int) ≤ t.sequence.value
  start : 0 ≤ t.sequence.value

variable {ρ : Word 64 → Word 64} {s : Memory M} {t u : Table}

/-- The empty memory is mirrored by a table without rows. -/
theorem mirrors_empty (rows : t.rows = []) (start : 0 ≤ t.sequence.value) :
    Mirrors ρ (.empty M) t where
  rows := by
    rw [Table.tagged, rows]
    exact .nil
  ascending i j one less most := by
    have none : j.val ≤ 0 := most
    have : i.val < j.val := less
    omega
  drawn i one most := by
    have none : i.val ≤ 0 := most
    omega
  start := start

/-- The rows of other models and skipped numeric ids do not matter. -/
theorem Mirrors.frame (h : Mirrors ρ s t) (same : u.tagged M.tag = t.tagged M.tag)
    (later : t.sequence.value ≤ u.sequence.value) : Mirrors ρ s u where
  rows := same ▸ h.rows
  ascending := h.ascending
  drawn i one most := Int.le_trans (h.drawn i one most) later
  start := Int.le_trans h.start later

private theorem Mirrors.rows_hasKey (h : Mirrors ρ s t) (oid : M.Oid) :
    List.Forall₂ (Shows ρ) (s.objects.filter fun e ↦ e.1 = oid)
      (t.rows.filter (Row.hasKey M.tag (M.oidKind.textOf oid))) := by
  have tagged : t.rows.filter (Row.hasKey M.tag (M.oidKind.textOf oid)) =
      (t.tagged M.tag).filter (Row.hasKey M.tag (M.oidKind.textOf oid)) := by
    rw [Table.tagged, List.filter_filter]
    apply List.filter_congr
    intro r _
    cases tag : r.tag == M.tag <;> simp [Row.hasKey, tag]
  rw [tagged]
  exact List.rel_filter
    (fun e r shows ↦ decide_eq_true_iff.trans (shows.hasKey_iff oid).symm) h.rows

/-- Where there is no object under an OID, there is no row with its key. -/
theorem Mirrors.row?_of_none (h : Mirrors ρ s t) {oid : M.Oid} (free : s.get? oid = none) :
    t.row? M.tag (M.oidKind.textOf oid) = none := by
  have none : s.objects.filter (fun e ↦ e.1 = oid) = [] := by
    rw [Memory.get?, Option.map_eq_none_iff, ← List.head?_filter] at free
    exact List.head?_eq_none_iff.mp free
  have matched := h.rows_hasKey oid
  rw [none, List.forall₂_nil_left_iff] at matched
  rw [Table.row?, ← List.head?_filter, matched]
  rfl

/-- Where there is an object under an OID, the row with its key shows it. -/
theorem Mirrors.row?_of_some (h : Mirrors ρ s t) {oid : M.Oid} {m : M.Object}
    (there : s.get? oid = some m) :
    ∃ r, t.row? M.tag (M.oidKind.textOf oid) = some r ∧ Shows ρ (oid, m) r := by
  obtain ⟨e, found, rfl⟩ := Option.map_eq_some_iff.mp there
  have key : e.1 = oid := by simpa using List.find?_some found
  rw [← List.head?_filter, List.head?_eq_some_iff] at found
  obtain ⟨others, found⟩ := found
  have matched := h.rows_hasKey oid
  rw [found] at matched
  obtain ⟨r, rows, shows, -, eq⟩ := List.forall₂_cons_left_iff.mp matched
  refine ⟨r, ?_, key ▸ shows⟩
  rw [Table.row?, ← List.head?_filter, eq]
  rfl

/-! ### Changes of the rows -/

/-- Tables with the same rows have the same rows of a tag. -/
theorem tagged_congr (rows : u.rows = t.rows) (tag : String) : u.tagged tag = t.tagged tag :=
  congrArg (List.filter fun r : Row ↦ r.tag == tag) rows

/-- A row of one tag does not have the keys of another. -/
theorem hasKey_of_ne {tag oid : String} {r : Row} (ne : r.tag ≠ tag) :
    r.hasKey tag oid = false := by
  rw [Row.hasKey, beq_eq_false_iff_ne.mpr ne, Bool.false_and]

/-- Dropping the row of a key leaves the rows of other tags alone. -/
theorem tagged_drop_ne {tag oid other : String} (ne : other ≠ tag) (t : Table) :
    (t.drop (Row.hasKey tag oid)).tagged other = t.tagged other := by
  rw [Table.tagged, Table.drop, List.filter_comm]
  apply List.filter_eq_self.mpr
  intro r hr
  rw [hasKey_of_ne (beq_iff_eq.mp (List.mem_filter.mp hr).2 ▸ ne), Bool.not_false]

private theorem tagged_append {r : Row} {tag : String} (rows : u.rows = t.rows ++ [r])
    (own : r.tag = tag) :
    u.tagged tag = t.tagged tag ++ [r] := by
  rw [Table.tagged, rows, List.filter_append,
    List.filter_cons_of_pos (p := fun r : Row ↦ r.tag == tag) (beq_iff_eq.mpr own)]
  rfl

/-- Adding a row of one tag leaves the rows of other tags alone. -/
theorem tagged_append_ne {r : Row} {other : String} (ne : other ≠ r.tag)
    (rows : u.rows = t.rows ++ [r]) : u.tagged other = t.tagged other := by
  rw [Table.tagged, rows, List.filter_append, List.filter_cons_of_neg, List.filter_nil,
    List.append_nil]
  · rfl
  · rw [beq_iff_eq]
    exact Ne.symm ne

/-- Rewriting a row rewrites it among the rows of each tag. -/
theorem tagged_rewrite (key oid : String) (expected version : Int64Value) (payload : Document)
    (t : Table) (tag : String) :
    (t.rewrite key oid expected version payload).tagged tag = (t.tagged tag).map fun r ↦
      if r.hasKey key oid && r.version == expected then Table.rewriteRow version payload r
      else r := by
  have tags : ((fun r : Row ↦ r.tag == tag) ∘ fun r ↦
      if r.hasKey key oid && r.version == expected then Table.rewriteRow version payload r
      else r) = fun r ↦ r.tag == tag := by
    funext r
    simp only [Function.comp_apply]
    split <;> rfl
  rw [Table.tagged, Table.rewrite, Table.change, List.filter_map, tags]
  rfl

/-- Rewriting a row of one tag leaves the rows of other tags alone. -/
theorem tagged_rewrite_ne {tag oid other : String} (ne : other ≠ tag)
    (expected version : Int64Value) (payload : Document) (t : Table) :
    (t.rewrite tag oid expected version payload).tagged other = t.tagged other := by
  rw [tagged_rewrite]
  refine (List.map_congr_left fun r hr ↦ ?_).trans (List.map_id' _)
  rw [hasKey_of_ne (beq_iff_eq.mp (List.mem_filter.mp hr).2 ▸ ne), Bool.false_and]
  rfl

/-- Dropping the row of an OID is taking out its object. -/
theorem Mirrors.drop (h : Mirrors ρ s t) {oid : M.Oid}
    (rows : u.rows = (t.drop (Row.hasKey M.tag (M.oidKind.textOf oid))).rows)
    (later : t.sequence.value ≤ u.sequence.value) : Mirrors ρ (s.erase oid) u where
  rows := by
    rw [tagged_congr rows, Table.tagged, Table.drop, List.filter_comm]
    refine List.rel_filter (fun e r shows ↦ ?_) h.rows
    have key := shows.hasKey_iff oid
    cases has : r.hasKey M.tag (M.oidKind.textOf oid) <;> simp_all
  ascending := h.ascending
  drawn i one most := Int.le_trans (h.drawn i one most) later
  start := Int.le_trans h.start later

/-- Rewriting the row of an OID is putting another object with its numeric id in the place of the
one that is there. -/
theorem Mirrors.rewrite (h : Mirrors ρ s t) (keys : (s.objects.map Prod.fst).Nodup) {oid : M.Oid}
    {stored next : M.Object} (there : s.get? oid = some stored)
    (same : next.numericId = stored.numericId) {expected version : Int64Value}
    (before : ofColumn expected = .ok stored.version.number)
    (after : ofColumn version = .ok next.version.number) {payload : Document}
    (written : ∃ n, payload = toDocument { next with numericId := n })
    (rows : u.rows = (t.rewrite M.tag (M.oidKind.textOf oid) expected version payload).rows)
    (later : t.sequence.value ≤ u.sequence.value) : Mirrors ρ (s.replace oid next) u where
  rows := by
    have known := (List.forall₂_and_left _ _).mpr ⟨fun e he ↦ he, h.rows⟩
    rw [tagged_congr rows, tagged_rewrite]
    refine List.rel_map (fun e r shown ↦ ?_) known
    obtain ⟨mem, shows⟩ := shown
    by_cases key : e.1 = oid
    · obtain rfl : stored = e.2 :=
        Option.some.inj (there.symm.trans (Memory.get?_of_mem keys (by rwa [← key])))
      have current : r.version = expected := ofColumn_injective shows.versioned before
      rw [if_pos key, (shows.hasKey_iff oid).mpr key, current, beq_self_eq_true, Bool.and_self,
        if_pos rfl]
      exact ⟨shows.tag, key ▸ shows.oid, same ▸ shows.numbered, after, written⟩
    · have other : r.hasKey M.tag (M.oidKind.textOf oid) = false :=
        Bool.eq_false_iff.mpr fun has ↦ key ((shows.hasKey_iff oid).mp has)
      rw [if_neg key, other, Bool.false_and]
      exact shows
  ascending := h.ascending
  drawn i one most := Int.le_trans (h.drawn i one most) later
  start := Int.le_trans h.start later

/-- A name for the next numeric id leaves the names of those up to here. -/
theorem update_after_of_le {last i : Word 64} (space : last.val + 1 < Nat.pow 2 64)
    (most : i ≤ last) (ρ : Word 64 → Word 64) (n : Word 64) :
    Function.update ρ last.after n i = ρ i := by
  apply Function.update_of_ne
  rintro rfl
  have next : last.after.val = last.val + 1 := Memory.val_after space
  have : last.after.val ≤ last.val := most
  omega

/-- A numeric id up to the next one is the next one or comes before. -/
theorem le_or_eq_after {last i : Word 64} (space : last.val + 1 < Nat.pow 2 64)
    (most : i ≤ last.after) : i ≤ last ∨ i = last.after := by
  have next : last.after.val = last.val + 1 := Memory.val_after space
  have : i.val ≤ last.after.val := most
  rcases Nat.lt_or_ge last.val i.val with lt | le
  · exact .inr (Fin.ext (by omega))
  · exact .inl le

/-- Adding a row is taking in an object: the next numeric id in memory is renamed to the one that
was drawn, and every other one as before. -/
theorem Mirrors.add (h : Mirrors ρ s t) (space : s.sequence.val + 1 < Nat.pow 2 64)
    (numbered : ∀ e ∈ s.objects, ∃ n, e.2.numericId = some n ∧ n ≤ s.sequence) {oid : M.Oid}
    {m : M.Object} {version numericId : Int64Value} {n : Word 64}
    (first : ofColumn version = .ok Version.first.number) (number : ofColumn numericId = .ok n)
    (value : (n.val : Int) = numericId.value) (above : t.sequence.value < numericId.value)
    (rows : u.rows = t.rows ++ [⟨M.tag, M.oidKind.textOf oid, numericId, version,
      toDocument { m with version := .first }⟩]) (last : u.sequence = numericId) :
    Mirrors (Function.update ρ s.sequence.after n) (s.insert oid (m.entering s.sequence.after))
      u := by
  have next : s.sequence.after.val = s.sequence.val + 1 := Memory.val_after space
  have before {i : Word 64} (most : i ≤ s.sequence) :
      Function.update ρ s.sequence.after n i = ρ i :=
    update_after_of_le space most ρ n
  refine ⟨?_, ?_, ?_, ?_⟩
  · have old := ((List.forall₂_and_left _ _).mpr ⟨numbered, h.rows⟩).imp
      (S := Shows (Function.update ρ s.sequence.after n)) fun e r known ↦ by
        obtain ⟨⟨i, own, most⟩, shows⟩ := known
        refine shows.congr fun j own' ↦ before ?_
        rwa [← Option.some.inj (own.symm.trans own')]
    have new : Shows (Function.update ρ s.sequence.after n) (oid, m.entering s.sequence.after)
        ⟨M.tag, M.oidKind.textOf oid, numericId, version,
          toDocument { m with version := .first }⟩ :=
      ⟨rfl, rfl, ⟨_, rfl, by rw [Function.update_self, number]⟩, first, m.numericId, rfl⟩
    rw [tagged_append rows rfl]
    exact List.rel_append old (.cons new .nil)
  · intro i j one less most
    rcases le_or_eq_after space most with most | rfl
    · have under : i ≤ s.sequence := Fin.le_trans (Fin.le_of_lt less) most
      rw [before most, before under]
      exact h.ascending i j one less most
    · have under : i ≤ s.sequence := by
        have : i.val < s.sequence.after.val := less
        exact Nat.le_of_lt_succ (by omega)
      have drawn := h.drawn i one under
      rw [before under, Function.update_self, Fin.lt_def]
      omega
  · intro i one most
    rw [last]
    rcases le_or_eq_after space most with most | rfl
    · have drawn := h.drawn i one most
      rw [before most]
      omega
    · rw [Function.update_self]
      exact Int.le_of_eq value
  · have := h.start
    rw [last]
    omega

end Relational

end VersionedStore
