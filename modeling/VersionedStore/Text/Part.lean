/-!
# Parts of texts

Whether characters stand one after the other somewhere in a text.
-/

namespace VersionedStore.Text

/-- Does the part stand somewhere in the text? -/
def containsPart (part : List Char) : List Char → Bool
  | [] => part.isEmpty
  | c :: cs => part.isPrefixOf (c :: cs) || containsPart part cs

/-- A part stands in a text exactly when the text is something, the part, and something else. -/
theorem containsPart_iff {part cs : List Char} :
    containsPart part cs = true ↔ ∃ before after, cs = before ++ part ++ after := by
  induction cs with
  | nil =>
    constructor
    · intro h
      exact ⟨[], [], by simpa [containsPart] using h⟩
    · rintro ⟨b, a, h⟩
      have h := congrArg List.length h
      simp only [List.length_nil, List.length_append] at h
      have : part = [] := List.eq_nil_of_length_eq_zero (by omega)
      simp [containsPart, this]
  | cons c cs ih =>
    rw [containsPart, Bool.or_eq_true, List.isPrefixOf_iff_prefix, ih]
    constructor
    · rintro (⟨a, h⟩ | ⟨b, a, h⟩)
      · exact ⟨[], a, by simp [h]⟩
      · exact ⟨c :: b, a, by simp [h]⟩
    · rintro ⟨_ | ⟨d, b⟩, a, h⟩
      · exact .inl ⟨a, by simpa using h.symm⟩
      · obtain ⟨_, rfl⟩ := List.cons.inj h
        exact .inr ⟨b, a, by simp⟩

end VersionedStore.Text
