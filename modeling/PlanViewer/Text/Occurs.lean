/-!
# Substrings

`occursIn p t` tells whether the text `p` stands somewhere in the text `t`. The empty text stands
in every text, the empty one included.
-/

namespace PlanViewer.Text

/-- Whether the first text is a run of consecutive characters of the second. -/
def occursIn (part : List Char) : List Char → Bool
  | [] => part.isEmpty
  | c :: rest => part.isPrefixOf (c :: rest) || occursIn part rest

theorem occursIn_iff {part : List Char} {text : List Char} :
    occursIn part text = true ↔ ∃ before after, text = before ++ part ++ after := by
  induction text with
  | nil => cases part <;> simp [occursIn]
  | cons c rest ih =>
    rw [occursIn, Bool.or_eq_true, ih, List.isPrefixOf_iff_prefix]
    constructor
    · rintro (⟨after, h⟩ | ⟨before, after, h⟩)
      · exact ⟨[], after, by simp [h]⟩
      · exact ⟨c :: before, after, by simp [h]⟩
    · rintro ⟨before, after, h⟩
      cases before with
      | nil => exact Or.inl ⟨after, by simpa using h.symm⟩
      | cons b before =>
        simp only [List.cons_append, List.cons.injEq] at h
        exact Or.inr ⟨before, after, h.2⟩

end PlanViewer.Text
