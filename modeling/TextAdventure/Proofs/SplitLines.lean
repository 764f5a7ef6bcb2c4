import Mathlib.Data.List.Basic
import TextAdventure.Command
import TextAdventure.Proofs.MentionedKeywords

/-!
# Lines that are split

A line is split into its first word and a remainder, and only blank space is lost: what surrounds
the line, and the gap behind the first word.  A line is lower-cased as a whole before it is split.
Since lower-casing leaves blank space where it is, the parts could as well be lower-cased on their
own, so that other spacing, in any form of blank space, gives the same parts.
-/

namespace TextAdventure

namespace Text

/-! ## A word, a gap and the rest -/

/-- A text is a word and a rest, with a gap between them unless there is no rest. -/
structure Splits (text word gap rest : List Char) : Prop where
  text_eq : text = word ++ gap ++ rest
  solid : ∀ c ∈ word, isBlank c = false
  blank : ∀ c ∈ gap, isBlank c = true
  opens : gap = [] → rest = []
  stripped : IsStripped rest

variable {text word gap rest : List Char}

/-- A text that is stripped is split where it is cut. -/
theorem exists_splits (htext : IsStripped text) :
    ∃ gap, Splits text (cutAtBlank text).1 gap (trimStart (cutAtBlank text).2) := by
  rcases solid_or_exists_blank text with hsolid | ⟨word, blank, behind, hsolid, hblank, rfl⟩
  · refine ⟨[], ?_⟩
    rw [cutAtBlank_of_solid hsolid]
    exact ⟨by simp [trimStart], hsolid, by simp, fun _ => rfl, isStripped_trim []⟩
  · have hgap : ∀ c ∈ behind.takeWhile isBlank, isBlank c = true :=
      List.all_eq_true.mp List.all_takeWhile
    have hbehind : behind.takeWhile isBlank ++ trimStart behind = behind :=
      List.takeWhile_append_dropWhile
    have htext_eq : word ++ blank :: behind =
        word ++ (blank :: behind.takeWhile isBlank) ++ trimStart behind := by
      rw [List.append_assoc, List.cons_append, hbehind]
    refine ⟨blank :: behind.takeWhile isBlank, ?_⟩
    rw [cutAtBlank_append hsolid hblank]
    refine ⟨htext_eq, hsolid, List.forall_mem_cons.mpr ⟨hblank, hgap⟩, by simp,
      head?_trimStart behind, ?_⟩
    intro c hc
    apply htext.last
    rw [htext_eq]
    exact List.mem_getLast?_append_of_mem_getLast? hc

/-- Only one split of a text is where the text is cut. -/
theorem Splits.cutAtBlank_eq (hsplits : Splits text word gap rest) :
    (cutAtBlank text).1 = word ∧ trimStart (cutAtBlank text).2 = rest := by
  obtain ⟨rfl, hsolid, hblank, hopens, hstripped⟩ := hsplits
  cases gap with
  | nil =>
      obtain rfl := hopens rfl
      rw [List.append_nil, List.append_nil, cutAtBlank_of_solid hsolid]
      exact ⟨rfl, rfl⟩
  | cons first blanks =>
      obtain ⟨hfirst, hblanks⟩ := List.forall_mem_cons.mp hblank
      rw [List.append_assoc, List.cons_append, cutAtBlank_append hsolid hfirst]
      exact ⟨rfl, by rw [trimStart_append_of_blank hblanks, trimStart_of_head? hstripped.first]⟩

/-- A word that something follows behind a gap is split off, and the rest is stripped. -/
theorem exists_splits_append (hsome : word ≠ []) (hsolid : ∀ c ∈ word, isBlank c = false)
    (hblank : ∀ c ∈ gap, isBlank c = true) (hgap : gap ≠ []) (rest : List Char) :
    ∃ between, Splits (trim (word ++ gap ++ rest)) word between (trim rest) := by
  obtain ⟨left, right, hleft, hright, hrest⟩ := exists_blank_append rest
  have hfirst : ∀ behind : List Char, ∀ c ∈ (word ++ behind).head?, isBlank c = false := by
    intro behind c hc
    rw [List.head?_append_of_ne_nil word hsome] at hc
    exact hsolid c (List.mem_of_mem_head? hc)
  by_cases hnone : trim rest = []
  · -- Nothing but blank space follows the word.
    have hbehind : ∀ c ∈ gap ++ rest, isBlank c = true :=
      List.forall_mem_append.mpr ⟨hblank, (trim_eq_nil_iff rest).mp hnone⟩
    have hword : IsStripped word :=
      ⟨by simpa using hfirst [], fun c hc => hsolid c (List.mem_of_getLast? hc)⟩
    have htext : trim (word ++ gap ++ rest) = word := by
      have hstrip : trim ([] ++ word ++ (gap ++ rest)) = trim word :=
        trim_append_append (by simp) hbehind word
      rwa [List.nil_append, ← List.append_assoc, hword.trim_eq] at hstrip
    refine ⟨[], ?_⟩
    rw [htext, hnone]
    exact ⟨by simp, hsolid, by simp, fun _ => rfl, isStripped_trim []⟩
  · have hline : IsStripped (word ++ (gap ++ left) ++ trim rest) := by
      constructor
      · rw [List.append_assoc]
        exact hfirst _
      · rw [List.getLast?_append_of_ne_nil _ hnone]
        exact (isStripped_trim rest).last
    have htext : trim (word ++ gap ++ rest) = word ++ (gap ++ left) ++ trim rest := by
      calc
        trim (word ++ gap ++ rest) =
            trim ([] ++ (word ++ (gap ++ left) ++ trim rest) ++ right) := by
          rw [List.nil_append]
          conv_lhs => rw [hrest]
          simp only [List.append_assoc]
        _ = word ++ (gap ++ left) ++ trim rest := by
          rw [trim_append_append (by simp) hright, hline.trim_eq]
    refine ⟨gap ++ left, htext, hsolid, ?_, ?_, isStripped_trim rest⟩
    · exact List.forall_mem_append.mpr ⟨hblank, hleft⟩
    · intro hempty
      exact absurd (List.append_eq_nil_iff.mp hempty).1 hgap

theorem Splits.text_eq_nil (hsplits : Splits text [] gap rest) (htext : IsStripped text) :
    text = [] := by
  obtain ⟨rfl, -, hblank, hopens, -⟩ := hsplits
  cases gap with
  | nil => simp [hopens rfl]
  | cons first blanks =>
      have hfirst := htext.first first (by simp)
      rw [hblank first List.mem_cons_self] at hfirst
      cases hfirst

/-! ## Cutting in lower case -/

/-- A text is cut at its first blank before or after it is lower-cased. -/
theorem cutAtBlank_lower (cs : List Char) :
    cutAtBlank (lower cs) = (lower (cutAtBlank cs).1, lower (cutAtBlank cs).2) := by
  rcases solid_or_exists_blank cs with hsolid | ⟨word, blank, rest, hsolid, hblank, rfl⟩
  · have hlower : ∀ c ∈ lower cs, isBlank c = false := not_blank_of_mem_lowerFrom hsolid
    rw [cutAtBlank_of_solid hlower, cutAtBlank_of_solid hsolid, lower_nil]
  · have hlower : ∀ c ∈ lower word, isBlank c = false := not_blank_of_mem_lowerFrom hsolid
    rw [lower_append_blank hblank, cutAtBlank_append hlower hblank,
      cutAtBlank_append hsolid hblank]

/-- A string is all blank space. -/
def IsGap (s : String) : Prop :=
  ∀ c ∈ s.toList, isBlank c = true

/-- A string has no blank in it. -/
def IsSolid (s : String) : Prop :=
  ∀ c ∈ s.toList, isBlank c = false

instance : DecidablePred IsGap := fun s => List.decidableBAll _ s.toList

instance : DecidablePred IsSolid := fun s => List.decidableBAll _ s.toList

end Text

namespace Line

/-! ## Reading lines -/

/-- A line can be split before it is lower-cased. -/
theorem read_eq_of_splits {input : String} {word gap rest : List Char}
    (hsplits : Text.Splits (Text.trim input.toList) word gap rest) :
    read input = ⟨String.ofList (Text.lower word), String.ofList (Text.lower rest)⟩ := by
  obtain ⟨hword, hrest⟩ := hsplits.cutAtBlank_eq
  simp only [read, Text.trim_lower, Text.cutAtBlank_lower, Text.trimStart_lower, hword, hrest]

/-- What was read of a line, and the gap between, make up the line in lower case. -/
theorem exists_splits_read (input : String) :
    ∃ gap, Text.Splits (Text.trim (Text.lower input.toList)) (read input).verb.toList gap
      (read input).remainder.toList := by
  obtain ⟨gap, hsplits⟩ := Text.exists_splits (Text.isStripped_trim (Text.lower input.toList))
  exact ⟨gap, by simpa [read] using hsplits⟩

theorem isGap_of_read {input : String} (hverb : (read input).verb = "") : Text.IsGap input := by
  obtain ⟨gap, hsplits⟩ := exists_splits_read input
  rw [hverb] at hsplits
  have hnone := hsplits.text_eq_nil (Text.isStripped_trim _)
  rw [Text.trim_lower] at hnone
  by_contra hsome
  exact Text.lower_ne_nil (mt (Text.trim_eq_nil_iff _).mp hsome) hnone

/-- A word and what follows it behind a gap are read apart from each other. -/
theorem read_spaced {left word gap right : String} (hleft : Text.IsGap left) (hsome : word ≠ "")
    (hsolid : Text.IsSolid word) (hgap : Text.IsGap gap) (hopen : gap ≠ "")
    (hright : Text.IsGap right) (rest : String) :
    read (left ++ word ++ gap ++ rest ++ right) =
      ⟨Text.lowered word, Text.lowered (Text.trimmed rest)⟩ := by
  have hline : Text.trim (left ++ word ++ gap ++ rest ++ right).toList =
      Text.trim (word.toList ++ gap.toList ++ rest.toList) := by
    rw [← Text.trim_append_append hleft hright (word.toList ++ gap.toList ++ rest.toList)]
    simp only [String.toList_append, List.append_assoc]
  obtain ⟨between, hsplits⟩ := Text.exists_splits_append (by simpa using hsome) hsolid hgap
    (by simpa using hopen) rest.toList
  rw [← hline] at hsplits
  rw [read_eq_of_splits hsplits, Text.lowered, Text.lowered, Text.trimmed, String.toList_ofList]

theorem read_append_gap {word gap : String} (hsome : word ≠ "") (hsolid : Text.IsSolid word)
    (hgap : Text.IsGap gap) (hopen : gap ≠ "") (rest : String) :
    read (word ++ gap ++ rest) = ⟨Text.lowered word, Text.lowered (Text.trimmed rest)⟩ := by
  have hnone : Text.IsGap "" := by simp [Text.IsGap]
  have hplain := read_spaced hnone hsome hsolid hgap hopen hnone rest
  rwa [String.empty_append, String.append_empty] at hplain

/-- Nothing but blank space is lost when a line is split, and only a line of blank space has no
first word.  A word and what follows it are read in the same way however they are spaced: each is
lower-cased on its own. -/
theorem exists_splits_read_and_read_spaced :
    (∀ input : String, ∃ gap,
      Text.Splits (Text.trim (Text.lower input.toList)) (read input).verb.toList gap
          (read input).remainder.toList ∧
        ((read input).verb = "" → Text.IsGap input)) ∧
    ∀ left word gap other rest right : String, word ≠ "" → Text.IsSolid word →
      Text.IsGap left → Text.IsGap gap → gap ≠ "" → Text.IsGap other → other ≠ "" →
      Text.IsGap right →
      read (left ++ word ++ gap ++ rest ++ right) = read (word ++ other ++ rest) ∧
        read (word ++ other ++ rest) = ⟨Text.lowered word, Text.lowered (Text.trimmed rest)⟩ := by
  constructor
  · intro input
    obtain ⟨gap, hsplits⟩ := exists_splits_read input
    exact ⟨gap, hsplits, isGap_of_read⟩
  · intro left word gap other rest right hsome hsolid hleft hgap hopen hother hopens hright
    rw [read_spaced hleft hsome hsolid hgap hopen hright,
      read_append_gap hsome hsolid hother hopens]
    exact ⟨rfl, rfl⟩

/-- A sigma at the end of a word is final in front of any gap. -/
theorem exists_splits_read_and_read_spaced_road :
    (read "\u2003\n").verb = "" ∧ Text.IsGap "\u2003\n" ∧
      read ("\u3000" ++ "ΟΔΟΣ" ++ "\t " ++ " ΟΔΟΣ ΜΑΣ" ++ " ") = ⟨"οδος", "οδος μας"⟩ ∧
      read ("ΟΔΟΣ" ++ "\u00A0" ++ " ΟΔΟΣ ΜΑΣ") = ⟨"οδος", "οδος μας"⟩ := by
  have hverb : (read "\u2003\n").verb = "" := by decide +kernel
  obtain ⟨gap, -, hblank⟩ := exists_splits_read_and_read_spaced.1 "\u2003\n"
  have hspaced := exists_splits_read_and_read_spaced.2 "\u3000" "ΟΔΟΣ" "\t " "\u00A0" " ΟΔΟΣ ΜΑΣ"
    " " (by decide) (by decide) (by decide) (by decide) (by decide) (by decide) (by decide)
    (by decide)
  have hword : Text.lowered "ΟΔΟΣ" = "οδος" := by decide +kernel
  have hrest : Text.lowered (Text.trimmed " ΟΔΟΣ ΜΑΣ") = "οδος μας" := by decide +kernel
  rw [hword, hrest] at hspaced
  exact ⟨hverb, hblank hverb, hspaced.1.trans hspaced.2, hspaced.2⟩

end Line

/-- A verb in front of a text calls for the subjects that the text mentions without the blank space
around it. -/
theorem Command.ofLine_append (registry : Registry) {verb : String} (hsome : verb ≠ "")
    (hsolid : Text.IsSolid verb) (text : String) :
    ofLine registry (verb ++ " " ++ text) =
      ⟨Action.ofVerb (Text.lowered verb), registry.mentioned (Text.trimmed text)⟩ := by
  have hread : Line.read (verb ++ " " ++ text) = _ :=
    Line.read_append_gap hsome hsolid (by decide) (by decide) text
  simp only [ofLine, hread, Line.action, Registry.mentioned_lowered]

end TextAdventure
