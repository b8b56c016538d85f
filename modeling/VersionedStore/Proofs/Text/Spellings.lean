import VersionedStore.Model.Oid
import VersionedStore.Text.Blank

/-!
# The spellings of an OID

A UUID has four spellings in lower case. A text reads as the UUID exactly when it is one of them but
for the case of its letters. Each way of reading is inverted on its own: digits, then hyphens, then
what stands around them.
-/

namespace VersionedStore

open Text

private theorem Text.HexDigit.toNat_toChar (d : HexDigit) :
    d.toChar.toNat = if d.val < 10 then 48 + d.val else 87 + d.val := by
  revert d
  decide

private theorem Text.HexDigit.ofChar?_eq_some_iff {c : Char} {d : HexDigit} :
    ofChar? c = some d ↔ c.toLower = d.toChar := by
  have small := toNat_toLower c
  have digit := toNat_toChar d
  have bound := d.isLt
  rw [← Char.toNat_inj, small, digit]
  simp only [ofChar?]
  split
  · simp only [Option.some.injEq, Fin.ext_iff]
    split <;> split <;> omega
  · split
    · simp only [Option.some.injEq, Fin.ext_iff]
      split <;> split <;> omega
    · split
      · simp only [Option.some.injEq, Fin.ext_iff]
        split <;> split <;> omega
      · simp only [reduceCtorEq, false_iff]
        split <;> split <;> omega

namespace Uuid

/-- The ways of spelling a UUID. -/
inductive Spelling where
  | simple
  | hyphenated
  | braced
  | urn
  deriving DecidableEq, Repr

/-- The characters of a UUID in a spelling, in lower case. -/
def Spelling.chars : Spelling → Uuid → List Char
  | .simple, u => u.simpleChars
  | .hyphenated, u => u.chars
  | .braced, u => '\x7b' :: (u.chars ++ ['\x7d'])
  | .urn, u => ['u', 'r', 'n', ':', 'u', 'u', 'i', 'd', ':'] ++ u.chars

/-- A text spells a UUID, in any case. -/
def Spells (t : String) (u : Uuid) : Prop :=
  ∃ spelling : Spelling, t.toList.map Char.toLower = spelling.chars u

private theorem map_hyphenated {f : Char → Char} (fixed : f '-' = '-') (cs : List Char) :
    (hyphenated cs).map f = hyphenated (cs.map f) := by
  simp [hyphenated, List.map_take, List.map_drop, fixed]

private theorem eq_hyphenated_of_map {f : Char → Char} (only : ∀ c, f c = '-' → c = '-')
    {cs ds : List Char} (length : ds.length = 32) (h : cs.map f = hyphenated ds) :
    ∃ es, cs = hyphenated es ∧ es.map f = ds := by
  obtain ⟨a, b, c, d, e, rfl, ha, hb, hc, hd, -⟩ := exists_groups length
  rw [hyphenated_groups ha hb hc hd] at h
  simp only [List.append_assoc, List.cons_append, List.map_eq_append_iff,
    List.map_eq_cons_iff] at h
  obtain ⟨a', _, rfl, rfl, x, _, rfl, hx, b', _, rfl, rfl, y, _, rfl, hy, c', _, rfl, rfl, z, _,
    rfl, hz, d', _, rfl, rfl, w, e', rfl, hw, rfl⟩ := h
  rw [List.length_map] at ha hb hc hd
  refine ⟨a' ++ b' ++ c' ++ d' ++ e', ?_, by simp⟩
  rw [hyphenated_groups ha hb hc hd, only x hx, only y hy, only z hz, only w hw]
  simp

/-- Characters stand for digits exactly when they are those of the digits but for their case. -/
theorem mapM_ofChar?_eq_some_iff {cs : List Char} {ds : List HexDigit} :
    cs.mapM HexDigit.ofChar? = some ds ↔ cs.map Char.toLower = ds.map HexDigit.toChar := by
  induction cs generalizing ds with
  | nil => cases ds <;> simp
  | cons c cs ih =>
    cases ds with
    | nil => simp [List.mapM_cons, Option.bind_eq_some_iff]
    | cons d ds =>
      rw [List.mapM_cons, List.map_cons, List.map_cons, List.cons.injEq,
        ← HexDigit.ofChar?_eq_some_iff, ← ih]
      simp [Option.bind_eq_some_iff]

/-- Digits are read as a UUID exactly when they are its digits but for their case. -/
theorem readSimple?_eq_some_iff {cs : List Char} {u : Uuid} :
    readSimple? cs = some u ↔ cs.map Char.toLower = u.simpleChars := by
  have digits {ds : List HexDigit} : ofDigits? ds = some u ↔ ds = u.digits := by
    unfold ofDigits?
    split
    · next h =>
      rw [Option.some.injEq]
      constructor
      · rintro rfl
        rfl
      · rintro rfl
        rfl
    · next h =>
      refine iff_of_false (Option.some_ne_none u).symm ?_
      rintro rfl
      exact h u.length_digits
  rw [readSimple?, Option.bind_eq_some_iff, simpleChars]
  constructor
  · rintro ⟨ds, read, made⟩
    rw [← digits.mp made]
    exact mapM_ofChar?_eq_some_iff.mp read
  · intro same
    exact ⟨u.digits, mapM_ofChar?_eq_some_iff.mpr same, digits.mpr rfl⟩

private theorem dropHyphens?_eq_some_iff {cs ds : List Char} :
    dropHyphens? cs = some ds ↔ ds.length = 32 ∧ cs = hyphenated ds := by
  constructor
  · intro h
    simp only [dropHyphens?] at h
    split at h
    · next shape =>
      cases h
      obtain ⟨length, same⟩ := shape
      exact ⟨by simp [length], same.symm⟩
    · cases h
  · rintro ⟨length, rfl⟩
    exact dropHyphens?_hyphenated length

/-- Characters are read as a UUID with hyphens exactly when they are its own but for their case. -/
theorem readHyphenated?_eq_some_iff {cs : List Char} {u : Uuid} :
    readHyphenated? cs = some u ↔ cs.map Char.toLower = u.chars := by
  have fixed : Char.toLower '-' = '-' := by decide
  rw [readHyphenated?, Option.bind_eq_some_iff, chars]
  constructor
  · rintro ⟨ds, dropped, read⟩
    obtain ⟨-, rfl⟩ := dropHyphens?_eq_some_iff.mp dropped
    rw [map_hyphenated fixed, readSimple?_eq_some_iff.mp read]
  · intro same
    obtain ⟨ds, rfl, digits⟩ := eq_hyphenated_of_map
      (fun c h ↦ eq_of_toLower (by decide) h) u.length_simpleChars same
    have length : ds.length = 32 := by
      rw [← List.length_map Char.toLower, digits]
      exact u.length_simpleChars
    exact ⟨ds, dropHyphens?_hyphenated length, readSimple?_eq_some_iff.mpr digits⟩

private theorem insideBraces?_eq_some_iff {cs ds : List Char} :
    insideBraces? cs = some ds ↔ cs = '\x7b' :: (ds ++ ['\x7d']) := by
  constructor
  · intro h
    unfold insideBraces? at h
    split at h
    · next rest =>
      split at h
      · next last =>
        cases h
        obtain ⟨front, rfl⟩ := List.getLast?_eq_some_iff.mp last
        rw [List.dropLast_concat]
      · cases h
    · cases h
  · rintro rfl
    simp [insideBraces?]

private theorem behindUrn?_eq_some_iff {cs ds : List Char} :
    behindUrn? cs = some ds ↔ ∃ front, cs = front ++ ds ∧
      front.map Char.toLower = ['u', 'r', 'n', ':', 'u', 'u', 'i', 'd', ':'] := by
  constructor
  · intro h
    unfold behindUrn? at h
    split at h
    · next urn =>
      cases h
      exact ⟨cs.take 9, (List.take_append_drop 9 cs).symm, urn⟩
    · cases h
  · rintro ⟨front, rfl, urn⟩
    have nine : front.length = 9 := by
      rw [← List.length_map Char.toLower, urn]
      rfl
    rw [behindUrn?, List.take_append_of_le_length (Nat.le_of_eq nine.symm),
      List.take_of_length_le (Nat.le_of_eq nine), if_pos urn, ← nine, List.drop_left]

/-- The number of characters in each spelling. -/
theorem Spelling.length_chars (u : Uuid) : ∀ spelling : Spelling,
    (spelling.chars u).length = match spelling with
      | .simple => 32
      | .hyphenated => 36
      | .braced => 38
      | .urn => 45
  | .simple => u.length_simpleChars
  | .hyphenated => u.length_chars
  | .braced => by simp [chars, u.length_chars]
  | .urn => by simp [chars, u.length_chars]

/-- Characters in braces are read exactly when they spell the UUID so. -/
theorem readBraced_eq_some_iff {cs : List Char} {u : Uuid} :
    (insideBraces? cs).bind readHyphenated? = some u ↔
      cs.map Char.toLower = Spelling.braced.chars u := by
  simp only [Option.bind_eq_some_iff, insideBraces?_eq_some_iff, readHyphenated?_eq_some_iff,
    Spelling.chars]
  constructor
  · rintro ⟨ds, rfl, same⟩
    simp only [List.map_cons, List.map_append, same]
    rfl
  · intro same
    obtain ⟨first, _, rfl, hf, same⟩ := List.map_eq_cons_iff.mp same
    obtain ⟨ds, _, rfl, digits, same⟩ := List.map_eq_append_iff.mp same
    obtain ⟨last, _, rfl, hl, none⟩ := List.map_eq_cons_iff.mp same
    rw [List.map_eq_nil_iff.mp none, eq_of_toLower (by decide) hf, eq_of_toLower (by decide) hl]
    exact ⟨ds, rfl, digits⟩

/-- Characters behind `urn:uuid:` are read exactly when they spell the UUID so. -/
theorem readUrn_eq_some_iff {cs : List Char} {u : Uuid} :
    (behindUrn? cs).bind readHyphenated? = some u ↔
      cs.map Char.toLower = Spelling.urn.chars u := by
  simp only [Option.bind_eq_some_iff, behindUrn?_eq_some_iff, readHyphenated?_eq_some_iff,
    Spelling.chars, List.map_eq_append_iff]
  constructor
  · rintro ⟨ds, ⟨front, rfl, urn⟩, same⟩
    exact ⟨front, ds, rfl, urn, same⟩
  · rintro ⟨front, ds, rfl, urn, same⟩
    exact ⟨ds, ⟨front, rfl, urn⟩, same⟩

/-- A text is read as a UUID exactly when it spells it. -/
theorem read?_eq_some_iff {t : String} {u : Uuid} : read? t = some u ↔ Spells t u := by
  rw [read?, Spells]
  generalize t.toList = cs
  constructor
  · intro h
    unfold readChars? at h
    split at h
    · exact ⟨.simple, readSimple?_eq_some_iff.mp h⟩
    · split at h
      · exact ⟨.hyphenated, readHyphenated?_eq_some_iff.mp h⟩
      · split at h
        · exact ⟨.braced, readBraced_eq_some_iff.mp h⟩
        · split at h
          · exact ⟨.urn, readUrn_eq_some_iff.mp h⟩
          · cases h
  · rintro ⟨spelling, same⟩
    -- The number of characters tells the spelling.
    have length := spelling.length_chars u
    rw [← same, List.length_map] at length
    cases spelling with
    | simple =>
      rw [readChars?, if_pos length]
      exact readSimple?_eq_some_iff.mpr same
    | hyphenated =>
      have count : cs.length = 36 := length
      rw [readChars?, if_neg (by omega), if_pos length]
      exact readHyphenated?_eq_some_iff.mpr same
    | braced =>
      have count : cs.length = 38 := length
      rw [readChars?, if_neg (by omega), if_neg (by omega), if_pos length]
      exact readBraced_eq_some_iff.mpr same
    | urn =>
      have count : cs.length = 45 := length
      rw [readChars?, if_neg (by omega), if_neg (by omega), if_neg (by omega), if_pos length]
      exact readUrn_eq_some_iff.mpr same

end Uuid

namespace OidKind

/-- A text spells an OID: a text is its own spelling, and a UUID has several. -/
def Spells : (k : OidKind) → String → k.Oid → Prop
  | .text, t, oid => t = oid
  | .uuid, t, oid => Uuid.Spells t oid

/-- A text is read as an OID exactly when it spells it. -/
theorem ofText?_eq_some_iff {k : OidKind} {t : String} {oid : k.Oid} :
    k.ofText? t = some oid ↔ k.Spells t oid := by
  cases k with
  | text => exact Option.some_inj
  | uuid => exact Uuid.read?_eq_some_iff

end OidKind

end VersionedStore
