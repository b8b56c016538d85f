import Mathlib.Data.List.TakeWhile
import VersionedStore.Settings.Basic

/-!
# Overriding texts

A text stands for a flag if one of the words for it, in capitals or not, stands there between
blanks. Settings are overridden exactly when every text that is given stands for a flag, each
setting by the text under its own key; else the first key with another text is told. So texts may be
given in layers, of which the last one counts, and giving the same ones again changes nothing.
-/

namespace VersionedStore.Text

private theorem exists_blanks (cs : List Char) :
    ∃ before after, cs = before ++ trimBoth cs ++ after ∧ (∀ c ∈ before, isBlank c = true) ∧
      ∀ c ∈ after, isBlank c = true := by
  have split (ds : List Char) : ds.takeWhile isBlank ++ trimLeft ds = ds :=
    List.takeWhile_append_dropWhile
  have blank (ds : List Char) : ∀ c ∈ ds.takeWhile isBlank, isBlank c = true :=
    fun _ ↦ List.mem_takeWhile_imp
  refine ⟨cs.takeWhile isBlank, ((trimLeft cs).reverse.takeWhile isBlank).reverse, ?_, blank cs,
    fun c mem ↦ blank _ c (List.mem_reverse.mp mem)⟩
  rw [trimBoth, List.append_assoc, ← List.reverse_append, split, List.reverse_reverse, split]

/-- Trimming on the left passes over blanks. -/
theorem trimLeft_append {before : List Char} (blank : ∀ c ∈ before, isBlank c = true)
    (cs : List Char) : trimLeft (before ++ cs) = trimLeft cs :=
  List.dropWhile_append_of_pos blank

private theorem trimBoth_between {before word after : List Char}
    (front : ∀ c ∈ before, isBlank c = true) (plain : ∀ c ∈ word, isBlank c = false)
    (back : ∀ c ∈ after, isBlank c = true) : trimBoth (before ++ word ++ after) = word := by
  cases word with
  | nil =>
    apply trimBoth_of_all_blank
    rw [List.all_eq_true]
    intro c mem
    rcases List.mem_append.mp mem with mem | mem
    · exact front c (by simpa using mem)
    · exact back c mem
  | cons c cs =>
    have left : trimLeft (before ++ (c :: cs) ++ after) = (c :: cs) ++ after := by
      rw [List.append_assoc, trimLeft_append front, List.cons_append]
      exact trimLeft_cons_of_not_blank (plain c List.mem_cons_self) _
    have right : trimLeft (c :: cs).reverse = (c :: cs).reverse := by
      rw [trimLeft, List.dropWhile_eq_self_iff]
      intro long
      simpa using plain _ (List.mem_reverse.mp (List.getElem_mem long))
    rw [trimBoth, left, List.reverse_append,
      trimLeft_append fun c mem ↦ back c (List.mem_reverse.mp mem), right, List.reverse_reverse]

private theorem toLower_of_isBlank {c : Char} (blank : isBlank c = true) : c.toLower = c := by
  have apart : ¬(65 ≤ c.toNat ∧ c.toNat ≤ 90) := by
    simp only [isBlank, blankStretches, inStretches_cons, inStretches_nil, Stretch.contains,
      Bool.or_eq_true, Bool.and_eq_true, decide_eq_true_eq, beq_iff_eq, Bool.false_eq_true, or_false]
      at blank
    omega
  apply Char.toNat_inj.mp
  rw [toNat_toLower, if_neg apart]

end VersionedStore.Text

namespace VersionedStore.Settings

open Text

/-! ### Words for flags -/

/-- The words for a flag. -/
def words : Bool → List String
  | true => ["1", "true", "yes", "on"]
  | false => ["0", "false", "no", "off"]

/-- A text stands for a flag: a word for it, in capitals or not, stands there between blanks. -/
def StandsFor (s : String) (b : Bool) : Prop :=
  ∃ before word after, s.toList = before ++ word ++ after ∧ (∀ c ∈ before, isBlank c = true) ∧
    (∀ c ∈ after, isBlank c = true) ∧ ∃ w ∈ words b, word.map Char.toLower = w.toList

private theorem flagOfWord?_eq_some_iff {w : String} {b : Bool} :
    flagOfWord? w = some b ↔ w ∈ words b := by
  unfold flagOfWord?
  split <;> cases b <;> simp_all [words]

private theorem isBlank_of_mem_words {b : Bool} {w : String} (h : w ∈ words b) :
    ∀ c ∈ w.toList, isBlank c = false := by
  have plain : ∀ w ∈ words b, (w.toList.all fun c ↦ !isBlank c) = true := by
    cases b <;> decide
  simpa using plain w h

/-- A text is read as the flag that it stands for. -/
theorem flagOfWord?_normalize {s : String} {b : Bool} :
    flagOfWord? (normalize s) = some b ↔ StandsFor s b := by
  have small : (normalize s).toList = (trimBoth s.toList).map Char.toLower := by
    simp [normalize, asciiSmall, trim]
  rw [flagOfWord?_eq_some_iff]
  constructor
  · intro word
    obtain ⟨before, after, parts, front, back⟩ := exists_blanks s.toList
    exact ⟨before, trimBoth s.toList, after, parts, front, back, normalize s, word, small.symm⟩
  · rintro ⟨before, word, after, parts, front, back, w, isWord, lower⟩
    have plain : ∀ c ∈ word, isBlank c = false := by
      intro c mem
      apply eq_false_of_ne_true
      intro blank
      have same : c ∈ word.map Char.toLower := List.mem_map.mpr ⟨c, mem, toLower_of_isBlank blank⟩
      rw [lower] at same
      exact absurd blank (by simp [isBlank_of_mem_words isWord c same])
    have trimmed : trimBoth s.toList = word := by rw [parts, trimBoth_between front plain back]
    have found : normalize s = w := by
      apply String.toList_inj.mp
      rw [small, trimmed, lower]
    rwa [found]

/-- No text stands for both flags. -/
theorem StandsFor.unique {s : String} {a b : Bool} (ha : StandsFor s a) (hb : StandsFor s b) :
    a = b := by
  rw [← flagOfWord?_normalize] at ha hb
  exact Option.some.inj (ha.symm.trans hb)

/-! ### One key -/

/-- There is a text under a key that stands for no flag. -/
def Offends (lookup : String → Option String) (key : String) : Prop :=
  ∃ s, lookup key = some s ∧ ∀ b, ¬ StandsFor s b

/-- A flag is that of the text under a key, or the old one where there is no text. -/
inductive Overridden (lookup : String → Option String) (key : String) (old : Bool) :
    Bool → Prop where
  | kept (absent : lookup key = none) : Overridden lookup key old old
  | replaced {s : String} {b : Bool} (present : lookup key = some s) (stands : StandsFor s b) :
      Overridden lookup key old b

variable {lookup first second : String → Option String} {key : String} {old b : Bool}

/-- What overrides a flag is found. -/
theorem Overridden.override_eq (h : Overridden lookup key old b) :
    override lookup key old = .ok b := by
  cases h with
  | kept absent => simp [override, absent]
  | replaced present stands =>
    simp [override, present, readFlag, flagOfWord?_normalize.mpr stands]

/-- Where a flag is overridden, the key does not offend. -/
theorem Overridden.not_offends (h : Overridden lookup key old b) : ¬ Offends lookup key := by
  rintro ⟨s, present, none⟩
  cases h with
  | kept absent => simp [absent] at present
  | replaced present' stands =>
    obtain rfl := Option.some.inj (present.symm.trans present')
    exact none b stands

/-- A text that stands for no flag is told with its key. -/
theorem override_of_offends {s : String} (present : lookup key = some s)
    (none : ∀ b, ¬ StandsFor s b) :
    override lookup key old = .error (.configuration (.notAFlag key (normalize s))) := by
  have unread : flagOfWord? (normalize s) = Option.none := by
    apply Option.eq_none_iff_forall_ne_some.mpr
    intro b found
    exact none b (flagOfWord?_normalize.mp found)
  simp [override, present, readFlag, unread]

/-- Where a key does not offend, there is a flag. -/
theorem exists_overridden (fine : ¬ Offends lookup key) (old : Bool) :
    ∃ b, Overridden lookup key old b := by
  cases present : lookup key with
  | none => exact ⟨old, .kept present⟩
  | some s =>
    by_cases stands : ∃ b, StandsFor s b
    · obtain ⟨b, stands⟩ := stands
      exact ⟨b, .replaced present stands⟩
    · exact absurd ⟨s, present, not_exists.mp stands⟩ fine

/-- Of two layers the second is asked first: what it overrides is the flag that the first one left.
-/
theorem Overridden.override_layered (h : Overridden first key old b) :
    override (fun key ↦ (second key).or (first key)) key old = override second key b := by
  cases present : second key with
  | none =>
    have same := h.override_eq
    simp only [override] at same
    simp [override, present, same]
  | some s => simp [override, present]

/-! ### All keys -/

/-- The keys of overriding texts, in the order in which they are looked up. -/
def keys : List String := [readOnlyKey, generateOidsKey, createMissingKey]

/-- Each setting is what its own key makes of it. -/
structure AllOverridden (lookup : String → Option String) (s t : Settings) : Prop where
  readOnly : Overridden lookup readOnlyKey s.readOnly t.readOnly
  generateOids : Overridden lookup generateOidsKey s.generateOids t.generateOids
  createMissing : Overridden lookup createMissingKey s.createMissing t.createMissing

variable {s t : Settings}

/-- Settings each of which is overridden are found. -/
theorem AllOverridden.withOverrides_eq (h : AllOverridden lookup s t) :
    withOverrides lookup s = .ok t := by
  simp only [withOverrides, h.readOnly.override_eq, h.generateOids.override_eq,
    h.createMissing.override_eq]
  rfl

/-- Where settings are overridden, no key offends. -/
theorem AllOverridden.not_offends (h : AllOverridden lookup s t) :
    ∀ key ∈ keys, ¬ Offends lookup key := by
  simp [keys, h.readOnly.not_offends, h.generateOids.not_offends, h.createMissing.not_offends]

/-- Where no key offends, all settings are overridden. -/
theorem exists_allOverridden (fine : ∀ key ∈ keys, ¬ Offends lookup key) (s : Settings) :
    ∃ t, AllOverridden lookup s t := by
  simp only [keys, List.forall_mem_cons] at fine
  obtain ⟨readOnly, r⟩ := exists_overridden fine.1 s.readOnly
  obtain ⟨generateOids, g⟩ := exists_overridden fine.2.1 s.generateOids
  obtain ⟨createMissing, c⟩ := exists_overridden fine.2.2.1 s.createMissing
  exact ⟨⟨readOnly, generateOids, createMissing⟩, r, g, c⟩

/-- The first key that offends is told, with its text. -/
theorem withOverrides_of_offends (offends : ∃ key ∈ keys, Offends lookup key) (s : Settings) :
    ∃ before key after text, keys = before ++ key :: after ∧ (∀ k ∈ before, ¬ Offends lookup k) ∧
      lookup key = some text ∧ (∀ b, ¬ StandsFor text b) ∧
      withOverrides lookup s = .error (.configuration (.notAFlag key (normalize text))) := by
  by_cases atFirst : Offends lookup readOnlyKey
  · obtain ⟨text, present, none⟩ := atFirst
    refine ⟨[], _, _, text, rfl, by simp, present, none, ?_⟩
    rw [withOverrides, override_of_offends present none]
    rfl
  obtain ⟨_, r⟩ := exists_overridden atFirst s.readOnly
  by_cases atSecond : Offends lookup generateOidsKey
  · obtain ⟨text, present, none⟩ := atSecond
    refine ⟨[_], _, _, text, rfl, by simpa using atFirst, present, none, ?_⟩
    rw [withOverrides, r.override_eq, override_of_offends present none]
    rfl
  obtain ⟨_, g⟩ := exists_overridden atSecond s.generateOids
  have atThird : Offends lookup createMissingKey := by
    simpa [keys, atFirst, atSecond] using offends
  obtain ⟨text, present, none⟩ := atThird
  refine ⟨[_, _], _, _, text, rfl, by simpa using ⟨atFirst, atSecond⟩, present, none, ?_⟩
  rw [withOverrides, r.override_eq, g.override_eq, override_of_offends present none]
  rfl

/-- Of two layers the second overrides the settings that the first one left. -/
theorem AllOverridden.withOverrides_layered (h : AllOverridden first s t) :
    withOverrides (fun key ↦ (second key).or (first key)) s = withOverrides second t := by
  simp only [withOverrides, h.readOnly.override_layered, h.generateOids.override_layered,
    h.createMissing.override_layered]

/-- Settings are overridden exactly when every text that is given stands for a flag. Then each is
what its own key makes of it; else the first key with another text is told. Overriding once more is
overriding with both layers, of which the second is asked first, and with the same texts it changes
nothing. -/
theorem withOverrides_layers (lookup : String → Option String) (s : Settings) :
    ((∃ t, withOverrides lookup s = .ok t) ↔ ∀ key ∈ keys, ¬ Offends lookup key) ∧
      (∀ t, withOverrides lookup s = .ok t ↔ AllOverridden lookup s t) ∧
      (∀ f, withOverrides lookup s = .error f → ∃ before key after text,
        keys = before ++ key :: after ∧ (∀ k ∈ before, ¬ Offends lookup k) ∧
        lookup key = some text ∧ (∀ b, ¬ StandsFor text b) ∧
        f.message =
          "config error: " ++ (key ++ ": expected a boolean, found '" ++ normalize text ++ "'")) ∧
      ((∀ key ∈ keys, ¬ Offends lookup key) → ∀ second,
        withOverrides lookup s >>= withOverrides second =
          withOverrides (fun key ↦ (second key).or (lookup key)) s) ∧
      withOverrides lookup s >>= withOverrides lookup = withOverrides lookup s := by
  by_cases fine : ∀ key ∈ keys, ¬ Offends lookup key
  · obtain ⟨t, overridden⟩ := exists_allOverridden fine s
    have found := overridden.withOverrides_eq
    have layers (second : String → Option String) :
        withOverrides lookup s >>= withOverrides second =
          withOverrides (fun key ↦ (second key).or (lookup key)) s := by
      rw [overridden.withOverrides_layered, found]
      rfl
    refine ⟨⟨fun _ ↦ fine, fun _ ↦ ⟨t, found⟩⟩, fun u ↦ ⟨fun same ↦ ?_, fun h ↦ h.withOverrides_eq⟩,
      fun f failed ↦ ?_, fun _ ↦ layers, ?_⟩
    · rw [found] at same
      cases same
      exact overridden
    · rw [found] at failed
      cases failed
    · simpa using layers lookup
  · have offends : ∃ key ∈ keys, Offends lookup key := by simpa using fine
    obtain ⟨before, key, after, text, parts, front, present, none, failed⟩ :=
      withOverrides_of_offends offends s
    refine ⟨⟨fun ⟨t, found⟩ ↦ ?_, fun h ↦ absurd h fine⟩, fun t ↦ ⟨fun found ↦ ?_, fun h ↦ ?_⟩,
      fun f failed' ↦ ⟨before, key, after, text, parts, front, present, none, ?_⟩,
      fun h ↦ absurd h fine, ?_⟩
    · rw [failed] at found
      cases found
    · rw [failed] at found
      cases found
    · exact absurd h.not_offends fine
    · rw [failed] at failed'
      cases failed'
      rfl
    · rw [failed]
      rfl

/-- Over a layer that forbids changes, in capitals and between blanks, one that has no missing
objects created: both count. -/
theorem withOverrides_layers_two :
    let lower (key : String) : Option String :=
      if key = readOnlyKey then some "\u3000On " else none
    let upper (key : String) : Option String := if key = createMissingKey then some "no" else none
    (∀ key ∈ keys, ¬ Offends lower key) ∧
      withOverrides (fun key ↦ (upper key).or (lower key)) standard = .ok ⟨true, true, false⟩ := by
  intro lower upper
  obtain ⟨fine, -, -, layers, -⟩ := withOverrides_layers lower standard
  have found : ∀ key ∈ keys, ¬ Offends lower key := fine.mp ⟨⟨true, true, true⟩, rfl⟩
  refine ⟨found, ?_⟩
  rw [← layers found upper]
  rfl

end VersionedStore.Settings
