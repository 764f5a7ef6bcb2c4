import Mathlib.Data.List.Basic
import Mathlib.Data.List.Induction
import TextAdventure.Completion
import TextAdventure.Proofs.LoweredText
import TextAdventure.Session

/-!
# Words that are completed

The word in front of the cursor is cut out of the line, and lower-cased before it is looked up.  The
cut is made one byte behind the first byte of the last blank, so it fails exactly if that blank has
more than one byte.  The keywords are not lower-cased, so a keyword is offered for its own beginning
exactly if it starts with the lower-case form of that beginning; a keyword in lower case always
does.
-/

namespace TextAdventure

namespace Text

/-- The last character of a text, if it has one, takes one byte. -/
def endsNarrow (cs : List Char) : Bool :=
  cs.getLast?.all (·.utf8Size == 1)

/-- The last character of a text, if it has one, is blank. -/
def endsBlank (cs : List Char) : Bool :=
  cs.getLast?.all isBlank

end Text

namespace Completion

/-! ## Cutting out the word -/

theorem takeBytes?_append (front behind : List Char) :
    takeBytes? (Text.byteCount front) (front ++ behind) = some front := by
  induction front with
  | nil => simp [Text.byteCount, takeBytes?]
  | cons c rest ih =>
      have hpos := c.utf8Size_pos
      obtain ⟨n, hn⟩ : ∃ n, c.utf8Size + Text.byteCount rest = n + 1 :=
        ⟨c.utf8Size + Text.byteCount rest - 1, by omega⟩
      have hle : c.utf8Size ≤ n + 1 := by omega
      have hrest : n + 1 - c.utf8Size = Text.byteCount rest := by omega
      rw [Text.byteCount, hn, List.cons_append, takeBytes?, if_pos hle, hrest, ih, Option.map_some]

/-- The word at the end of a text is found, unless the blank in front of it is too wide. -/
theorem lastWord?_append {front word : List Char} (hsolid : ∀ c ∈ word, Text.isBlank c = false)
    (hopens : Text.endsBlank front = true) :
    lastWord? (front ++ word) =
      if Text.endsNarrow front then some (Text.byteCount front, word) else none := by
  have hword : ∀ c ∈ word.reverse, (! Text.isBlank c) = true := by
    intro c hc
    simp [hsolid c (List.mem_reverse.mp hc)]
  have hsize : Text.byteCount (front ++ word) - Text.byteCount word = Text.byteCount front := by
    rw [Text.byteCount_append]
    omega
  rw [lastWord?, List.reverse_append, List.takeWhile_append_of_pos hword,
    List.dropWhile_append_of_pos hword]
  cases front using List.reverseRecOn with
  | nil => simp [Text.endsNarrow, Text.byteCount]
  | append_singleton rest blank =>
      have hblank : Text.isBlank blank = true := by simpa [Text.endsBlank] using hopens
      have hreverse : (rest ++ [blank]).reverse = blank :: rest.reverse := by simp
      have htake : (blank :: rest.reverse).takeWhile (! Text.isBlank ·) = [] := by simp [hblank]
      have hdrop : (blank :: rest.reverse).dropWhile (! Text.isBlank ·) =
          blank :: rest.reverse := by
        simp [hblank]
      rw [hreverse, htake, hdrop, List.append_nil, List.reverse_reverse, hsize]
      simp [Text.endsNarrow]

/-- Every text ends with a word, which may be empty, behind a blank or at the front. -/
theorem exists_front_word (cs : List Char) :
    ∃ front word, cs = front ++ word ∧ (∀ c ∈ word, Text.isBlank c = false) ∧
      Text.endsBlank front = true := by
  induction cs using List.reverseRecOn with
  | nil => exact ⟨[], [], rfl, by simp, rfl⟩
  | append_singleton rest c ih =>
      by_cases hc : Text.isBlank c = true
      · exact ⟨rest ++ [c], [], by simp, by simp, by simp [Text.endsBlank, hc]⟩
      · obtain ⟨front, word, rfl, hsolid, hopens⟩ := ih
        refine ⟨front, word ++ [c], by simp, ?_, hopens⟩
        intro d hd
        rcases List.mem_append.mp hd with hword | hlast
        · exact hsolid d hword
        · rw [List.mem_singleton.mp hlast]
          simpa using hc

/-! ## The cut in the line -/

/-- The word ends at the cursor, has no blank in it, and begins behind a blank or with the line. -/
structure WordCut (line : String) (cursor : ℕ) (front word : String) : Prop where
  stands : ∃ behind, line = front ++ word ++ behind
  ends : (front ++ word).utf8ByteSize = cursor
  solid : ∀ c ∈ word.toList, Text.isBlank c = false
  opens : Text.endsBlank front.toList = true

variable {line front word : String} {cursor : ℕ}

/-- In front of every place between characters stands a word that can be cut out there. -/
theorem exists_wordCut (hcursor : String.Pos.Raw.IsValid line ⟨cursor⟩) :
    ∃ front word, WordCut line cursor front word := by
  obtain ⟨before, behind, rfl, hbefore⟩ := String.Pos.Raw.isValid_iff_exists_append.mp hcursor
  obtain ⟨front, word, hsplit, hsolid, hopens⟩ := exists_front_word before.toList
  have hword : String.ofList front ++ String.ofList word = before := by
    rw [← String.ofList_append, ← hsplit, String.ofList_toList]
  refine ⟨String.ofList front, String.ofList word, ⟨behind, by rw [hword]⟩, ?_, ?_, ?_⟩
  · rw [hword]
    exact (congrArg String.Pos.Raw.byteIdx hbefore).symm
  · simpa using hsolid
  · simpa using hopens

/-- What is completed at the cut, if the blank in front of the word is not too wide. -/
theorem WordCut.of?_eq (hcut : WordCut line cursor front word) (keywords : List String) :
    of? keywords line cursor =
      if Text.endsNarrow front.toList then
        some ⟨front.utf8ByteSize, keywords.filter fun keyword =>
          (Text.lower word.toList).isPrefixOf keyword.toList⟩
      else none := by
  obtain ⟨⟨behind, rfl⟩, rfl, hsolid, hopens⟩ := hcut
  have hline : (front ++ word ++ behind).toList = (front ++ word).toList ++ behind.toList :=
    String.toList_append
  have htake : takeBytes? (front ++ word).utf8ByteSize (front ++ word ++ behind).toList =
      some (front.toList ++ word.toList) := by
    rw [hline, ← Text.byteCount_toList, takeBytes?_append, String.toList_append]
  rw [of?, htake, Option.bind_eq_bind, Option.bind_some, lastWord?_append hsolid hopens,
    Text.byteCount_toList]
  split
  · rfl
  · rfl

theorem WordCut.isValid_front (hcut : WordCut line cursor front word) :
    String.Pos.Raw.IsValid line ⟨front.utf8ByteSize⟩ := by
  obtain ⟨behind, rfl⟩ := hcut.stands
  exact String.Pos.Raw.isValid_iff_exists_append.mpr
    ⟨front, word ++ behind, String.append_assoc, rfl⟩

theorem WordCut.front_le (hcut : WordCut line cursor front word) : front.utf8ByteSize ≤ cursor := by
  rw [← hcut.ends, String.utf8ByteSize_append]
  omega

/-- A word in front of the cursor is completed exactly if the blank in front of it takes one byte or
there is none.  It is then cut out between two characters, where the word begins. -/
theorem exists_wordCut_and_isSome_of?_iff (keywords : List String)
    (hcursor : String.Pos.Raw.IsValid line ⟨cursor⟩) :
    ∃ front word, WordCut line cursor front word ∧
      ((of? keywords line cursor).isSome ↔ Text.endsNarrow front.toList = true) ∧
      ∀ completion, of? keywords line cursor = some completion →
        completion.start = front.utf8ByteSize ∧ completion.start ≤ cursor ∧
          String.Pos.Raw.IsValid line ⟨completion.start⟩ := by
  obtain ⟨front, word, hcut⟩ := exists_wordCut hcursor
  refine ⟨front, word, hcut, ?_, ?_⟩
  · rw [hcut.of?_eq]
    simp
  · intro completion hcompletion
    have hstart : completion.start = front.utf8ByteSize := by
      rw [hcut.of?_eq] at hcompletion
      split at hcompletion
      · cases hcompletion
        rfl
      · cases hcompletion
    rw [hstart]
    exact ⟨rfl, hcut.front_le, hcut.isValid_front⟩

/-- The last blank takes one byte, although there is a wider one before it. -/
theorem exists_wordCut_and_isSome_of?_iff_lamp :
    String.Pos.Raw.IsValid "öl\u3000take la" ⟨13⟩ ∧
      ∃ front word, WordCut "öl\u3000take la" 13 front word ∧
        ((of? ["lamp"] "öl\u3000take la" 13).isSome ↔ Text.endsNarrow front.toList = true) ∧
        ∀ completion, of? ["lamp"] "öl\u3000take la" 13 = some completion →
          completion.start = front.utf8ByteSize ∧ completion.start ≤ 13 ∧
            String.Pos.Raw.IsValid "öl\u3000take la" ⟨completion.start⟩ := by
  have hcursor : String.Pos.Raw.IsValid "öl\u3000take la" ⟨13⟩ :=
    String.Pos.Raw.isValid_iff_exists_append.mpr ⟨"öl\u3000take la", "", rfl, rfl⟩
  exact ⟨hcursor, exists_wordCut_and_isSome_of?_iff ["lamp"] hcursor⟩

/-- No word can be cut out behind an ideographic space, which takes three bytes. -/
theorem exists_of?_eq_none :
    ∃ keywords line cursor, String.Pos.Raw.IsValid line ⟨cursor⟩ ∧
      of? keywords line cursor = none := by
  refine ⟨["key"], "take\u3000k", 8, ?_, by decide⟩
  exact String.Pos.Raw.isValid_iff_exists_append.mpr ⟨"take\u3000k", "", rfl, rfl⟩

end Completion

/-! ## Typing the beginning of a keyword -/

namespace Text

/-- A text without blanks has none in another spelling either. -/
theorem not_blank_of_lower_eq {cs ds : List Char} (hsolid : ∀ c ∈ cs, isBlank c = false)
    (hlower : lower ds = lower cs) : ∀ d ∈ ds, isBlank d = false := by
  intro d hd
  by_contra hblank
  have hblank : isBlank d = true := by simpa using hblank
  obtain ⟨front, behind, rfl⟩ := List.append_of_mem hd
  have hmem : d ∈ lower (front ++ d :: behind) := by simp [lower_append_blank hblank]
  rw [hlower] at hmem
  rw [not_blank_of_mem_lowerFrom hsolid d hmem] at hblank
  cases hblank

theorem length_le_length_lowerFrom (before cs : List Char) :
    cs.length ≤ (lowerFrom before cs).length := by
  induction cs generalizing before with
  | nil => simp
  | cons c rest ih =>
      have hfirst := List.length_pos_iff.mpr (lowerAt_ne_nil before c rest)
      have hrest := ih (c :: before)
      rw [lowerFrom_cons, List.length_append, List.length_cons]
      omega

/-- A text in lower case is in lower case at each of its beginnings. -/
theorem lower_eq_of_begins {cs front : List Char} (hlower : lower cs = cs) (hfront : front <+: cs) :
    lower front = front := by
  apply lowerFrom_of_isSettled
  intro c hc
  have hmem : c ∈ lower cs := hlower.symm ▸ hfront.subset hc
  exact isSettled_of_mem_lowerFrom c hmem

/-- A text starts with the lower-case form of each of its beginnings exactly if it is in lower
case. -/
theorem forall_lower_prefix_iff (cs : List Char) :
    (∀ front, front <+: cs → lower front <+: cs) ↔ lower cs = cs := by
  constructor
  · intro hall
    exact (hall cs (List.prefix_refl cs)).eq_of_length_le (length_le_length_lowerFrom [] cs)
  · intro hlower front hfront
    rwa [lower_eq_of_begins hlower hfront]

/-- A word that opens a line or follows a space can be cut out. -/
theorem endsBlank_and_endsNarrow {lead : String} (hlead : lead = "" ∨ ∃ text, lead = text ++ " ") :
    endsBlank lead.toList = true ∧ endsNarrow lead.toList = true := by
  rcases hlead with rfl | ⟨text, rfl⟩
  · exact ⟨rfl, rfl⟩
  · have hlast : (text ++ " ").toList.getLast? = some ' ' := by simp
    rw [endsBlank, endsNarrow, hlast]
    exact ⟨rfl, rfl⟩

end Text

namespace Session

/-- A keyword without blanks that is offered can be typed from its beginning in any spelling, at the
front of a line or behind a space.  It is among the candidates exactly if it starts with the
lower-case form of that beginning, and it does so for each beginning exactly if it is in lower
case. -/
theorem mem_candidates_iff_and_lowered_eq_iff (session : Session) {keyword : String}
    (hkeyword : keyword ∈ session.completions)
    (hsolid : ∀ c ∈ keyword.toList, Text.isBlank c = false) :
    (∀ beginning typed lead : String, beginning.toList <+: keyword.toList →
      Text.lowered typed = Text.lowered beginning → (lead = "" ∨ ∃ text, lead = text ++ " ") →
      ∃ completion, Completion.of? session.completions (lead ++ typed)
          (lead ++ typed).utf8ByteSize = some completion ∧
        (keyword ∈ completion.candidates ↔
          (Text.lowered beginning).toList <+: keyword.toList)) ∧
    ((∀ beginning : String, beginning.toList <+: keyword.toList →
      (Text.lowered beginning).toList <+: keyword.toList) ↔ Text.lowered keyword = keyword) := by
  constructor
  · intro beginning typed lead hbeginning htyped hlead
    have hlower : Text.lower typed.toList = Text.lower beginning.toList := by
      simpa [Text.lowered] using congrArg String.toList htyped
    have hword : ∀ c ∈ typed.toList, Text.isBlank c = false :=
      Text.not_blank_of_lower_eq (fun c hc => hsolid c (hbeginning.subset hc)) hlower
    obtain ⟨hopens, hnarrow⟩ := Text.endsBlank_and_endsNarrow hlead
    have hcut : Completion.WordCut (lead ++ typed) (lead ++ typed).utf8ByteSize lead typed :=
      ⟨⟨"", by simp⟩, rfl, hword, hopens⟩
    refine ⟨_, by rw [hcut.of?_eq, if_pos hnarrow], ?_⟩
    rw [List.mem_filter, hlower]
    simp [hkeyword, Text.lowered]
  · rw [Text.lowered_eq_self_iff, ← Text.forall_lower_prefix_iff]
    constructor
    · intro hall front hfront
      simpa [Text.lowered] using hall (String.ofList front) (by simpa using hfront)
    · intro hall beginning hbeginning
      simpa [Text.lowered] using hall beginning.toList hbeginning

/-- A porch with a lantern, and with a dog that is called by its name. -/
def porch : Scene where
  id := "porch"
  placements := [
    { subject := { name := "lantern", keywords := ["lantern"] } },
    { subject := { name := "dog", keywords := ["Rex"] } }]

/-- The porch when the story has just begun. -/
def porchSession : Session where
  story := { start := "porch", scenes := [porch] }
  interpreter := { registry := ⟨porch.placements.map (·.subject)⟩ }
  scene := "porch"

theorem mem_candidates_iff_and_lowered_eq_iff_lantern :
    "lantern" ∈ porchSession.completions ∧ Text.lowered "lantern" = "lantern" ∧
      Text.lowered "LAnt" = Text.lowered "lant" ∧
      ∃ completion, Completion.of? porchSession.completions ("take the " ++ "LAnt")
          ("take the " ++ "LAnt").utf8ByteSize = some completion ∧
        "lantern" ∈ completion.candidates := by
  have hkeyword : "lantern" ∈ porchSession.completions := by decide
  have hlowered : Text.lowered "lantern" = "lantern" := by decide
  have htyped : Text.lowered "LAnt" = Text.lowered "lant" := by decide
  have hsolid : ∀ c ∈ "lantern".toList, Text.isBlank c = false :=
    List.forall_iff_forall_mem.mp (by decide)
  have hoffered := mem_candidates_iff_and_lowered_eq_iff porchSession hkeyword hsolid
  obtain ⟨completion, hcompletion, hmem⟩ :=
    hoffered.1 "lant" "LAnt" "take the " (by decide) htyped (Or.inr ⟨"take the", by decide⟩)
  exact ⟨hkeyword, hlowered, htyped, completion, hcompletion,
    hmem.mpr (hoffered.2.mpr hlowered "lant" (by decide))⟩

/-- The name of the dog is never completed, however it is typed. -/
theorem exists_keyword_not_completed :
    ∃ (session : Session) (keyword beginning : String), keyword ∈ session.completions ∧
      (∀ c ∈ keyword.toList, Text.isBlank c = false) ∧
      beginning ≠ "" ∧ beginning.toList <+: keyword.toList ∧
      ∀ typed ∈ ["Re", "re", "RE"], Text.lowered typed = Text.lowered beginning ∧
        ∃ completion, Completion.of? session.completions ("look " ++ typed)
            ("look " ++ typed).utf8ByteSize = some completion ∧
          keyword ∉ completion.candidates := by
  refine ⟨porchSession, "Rex", "Re", by decide, List.forall_iff_forall_mem.mp (by decide),
    by decide, by decide, ?_⟩
  intro typed htyped
  simp only [List.mem_cons, List.not_mem_nil, or_false] at htyped
  rcases htyped with rfl | rfl | rfl
  all_goals exact ⟨by decide, ⟨5, ["remember"]⟩, by decide, by decide⟩

end Session

end TextAdventure
