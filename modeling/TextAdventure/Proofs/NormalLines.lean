import TextAdventure.Proofs.SplitLines

/-!
# Lines in normal form

The parts of a line that has been read are in lower case, and blank space divides them in one way
only.  Lines of this form are the ones that come back when their parts are put together and read
again, so reading is idempotent.  The remainder of such a line has one lower-case form, itself, so
it is searched for keywords as it stands.
-/

namespace TextAdventure

namespace Line

/-- The parts of a line are in lower case and stripped, and there is no blank in the verb.  Nothing
remains of a line without a verb. -/
structure IsNormal (line : Line) : Prop where
  verb_small : Text.lowered line.verb = line.verb
  remainder_small : Text.lowered line.remainder = line.remainder
  verb_solid : Text.IsSolid line.verb
  remainder_stripped : Text.trimmed line.remainder = line.remainder
  remainder_empty : line.verb = "" → line.remainder = ""

/-- The parts of a line with a space between them. -/
def text (line : Line) : String :=
  line.verb ++ " " ++ line.remainder

variable {line : Line}

/-- A line is lower-cased before it is split, and no lower-case form depends on the text around it,
so the parts are in lower case on their own. -/
theorem isNormal_read (input : String) : (read input).IsNormal := by
  obtain ⟨gap, hsplits⟩ := exists_splits_read input
  obtain ⟨between, hsplitsInput⟩ := Text.exists_splits (Text.isStripped_trim input.toList)
  have hread := read_eq_of_splits hsplitsInput
  refine ⟨?_, ?_, hsplits.solid, ?_, ?_⟩
  · rw [hread, Text.lowered, String.toList_ofList, Text.lower_lower]
  · rw [hread, Text.lowered, String.toList_ofList, Text.lower_lower]
  · rw [Text.trimmed, hsplits.stripped.trim_eq, String.ofList_toList]
  · intro hverb
    have htext := hsplits.text_eq
    rw [hverb] at hsplits
    rw [hsplits.text_eq_nil (Text.isStripped_trim _)] at htext
    simpa using (List.append_eq_nil_iff.mp htext.symm).2

theorem IsNormal.read_text (hline : line.IsNormal) : read line.text = line := by
  by_cases hverb : line.verb = ""
  · have hempty : line = ⟨"", ""⟩ := by
      rw [Line.mk.injEq]
      exact ⟨hverb, hline.remainder_empty hverb⟩
    rw [hempty]
    decide
  · have hgap : Text.IsGap " " := by decide
    have hread := read_append_gap hverb hline.verb_solid hgap (by decide) line.remainder
    rw [text, hread, hline.remainder_stripped, hline.verb_small, hline.remainder_small]

/-- The lines that come back are those in normal form. -/
theorem read_text_eq_self_iff : read line.text = line ↔ line.IsNormal := by
  constructor
  · intro hread
    rw [← hread]
    exact isNormal_read line.text
  · exact IsNormal.read_text

end Line

/-- A text in lower case is searched for keywords as it stands. -/
theorem Registry.mentioned_of_lowered (registry : Registry) {text : String}
    (htext : Text.lowered text = text) :
    registry.mentioned text = registry.subjects.filter (·.isMentioned text.toList) := by
  rw [mentioned_eq_filter, (Text.lowered_eq_self_iff text).mp htext]

/-- Reading is idempotent.  Lower-casing a part of a line that has been read changes nothing, the
parts come back when they are put together and read again, and the subjects that the line mentions
are found without lower-casing its remainder again. -/
theorem Line.read_text_read_and_mentioned_remainder (input : String) :
    Text.lowered (read input).verb = (read input).verb ∧
      Text.lowered (read input).remainder = (read input).remainder ∧
      read ((read input).verb ++ " " ++ (read input).remainder) = read input ∧
      ∀ registry : Registry, registry.mentioned (read input).remainder =
        registry.subjects.filter (·.isMentioned (read input).remainder.toList) := by
  have hnormal := isNormal_read input
  refine ⟨hnormal.verb_small, hnormal.remainder_small, read_text_eq_self_iff.mpr hnormal, ?_⟩
  intro registry
  exact registry.mentioned_of_lowered hnormal.remainder_small

/-- A sigma that ends a word of the line ends its part, and a capital I with a dot becomes two
characters. -/
example : Line.read "ΔΕΣ\u2003\u0130Σ " = ⟨"δες", "i\u0307ς"⟩ ∧
    Line.read ("δες" ++ " " ++ "i\u0307ς") = ⟨"δες", "i\u0307ς"⟩ := by
  decide +kernel

end TextAdventure
