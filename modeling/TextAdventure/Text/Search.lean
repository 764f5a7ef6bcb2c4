/-!
# Finding a text within a text
-/

namespace TextAdventure.Text

/-- The needle stands somewhere in the text, as an unbroken run of characters. -/
def occursIn (needle : List Char) : List Char → Bool
  | [] => needle.isEmpty
  | c :: rest => needle.isPrefixOf (c :: rest) || occursIn needle rest

theorem occursIn_iff {needle text : List Char} :
    occursIn needle text = true ↔ ∃ before after, text = before ++ needle ++ after := by
  induction text with
  | nil => simp [occursIn]
  | cons c rest ih =>
      simp only [occursIn, Bool.or_eq_true, ih, List.isPrefixOf_iff_prefix]
      constructor
      · rintro (⟨after, htext⟩ | ⟨before, after, rfl⟩)
        · exact ⟨[], after, by simpa using htext.symm⟩
        · exact ⟨c :: before, after, rfl⟩
      · rintro ⟨before, after, htext⟩
        cases before with
        | nil => exact Or.inl ⟨after, by simpa using htext.symm⟩
        | cons b before =>
            obtain ⟨-, hrest⟩ := List.cons.inj htext
            exact Or.inr ⟨before, after, hrest⟩

end TextAdventure.Text
