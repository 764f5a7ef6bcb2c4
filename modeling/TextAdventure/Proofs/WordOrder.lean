import TextAdventure.Interpreter
import TextAdventure.Proofs.SplitLines

/-!
# The order of words

A keyword without blanks that stands in a text stands within one word of it, and every word is
lower-cased on its own.  So a text mentions whatever its words mention, in any order and however
they are spaced.  Only the first word of a line has its place: it is the verb.
-/

namespace TextAdventure

namespace Text

/-! ## The words of a text -/

/-- The words of a text: its unbroken runs of characters that are not blank. -/
def words (cs : List Char) : List (List Char) :=
  (cs.splitOnP isBlank).filter (! ·.isEmpty)

@[simp] theorem words_nil : words [] = [] := by
  simp [words, List.splitOnP_nil]

theorem words_of_solid {cs : List Char} (hsome : cs ≠ []) (hsolid : ∀ c ∈ cs, isBlank c = false) :
    words cs = [cs] := by
  rw [words, List.splitOnP_eq_singleton hsolid]
  simp [hsome]

/-- No word goes on behind a blank. -/
theorem words_append_blank {c : Char} (hc : isBlank c = true) (front behind : List Char) :
    words (front ++ c :: behind) = words front ++ words behind := by
  rw [words, List.splitOnP_append_cons front behind hc, List.filter_append, words, words]

/-- A text is empty, a word, or two texts with a blank between them. -/
theorem words_induction {P : List Char → Prop} (empty : P [])
    (word : ∀ cs, cs ≠ [] → (∀ c ∈ cs, isBlank c = false) → P cs)
    (blank : ∀ c, isBlank c = true → ∀ front behind, P front → P behind →
      P (front ++ c :: behind)) (cs : List Char) : P cs := by
  induction hlength : cs.length using Nat.strongRecOn generalizing cs with
  | _ length ih =>
      rcases solid_or_exists_blank cs with hsolid | ⟨front, c, behind, hsolid, hc, rfl⟩
      · by_cases hsome : cs = []
        · exact hsome ▸ empty
        · exact word cs hsome hsolid
      · rw [List.length_append, List.length_cons] at hlength
        exact blank c hc front behind (ih _ (by omega) front rfl) (ih _ (by omega) behind rfl)

theorem words_append_of_blank {left : List Char} (hleft : ∀ c ∈ left, isBlank c = true)
    (cs : List Char) : words (left ++ cs) = words cs := by
  induction left with
  | nil => rfl
  | cons c rest ih =>
      obtain ⟨hc, hrest⟩ := List.forall_mem_cons.mp hleft
      have hwords := words_append_blank hc [] (rest ++ cs)
      rw [List.nil_append, words_nil, List.nil_append] at hwords
      rw [List.cons_append, hwords, ih hrest]

/-- Blank space around a text adds no word. -/
theorem words_trim (cs : List Char) : words (trim cs) = words cs := by
  obtain ⟨left, right, hleft, hright, hcs⟩ := exists_blank_append cs
  have hfront : words cs = words (trim cs ++ right) := by
    conv_lhs => rw [hcs, List.append_assoc, words_append_of_blank hleft]
  rw [hfront]
  cases right with
  | nil => rw [List.append_nil]
  | cons c rest =>
      obtain ⟨hc, hrest⟩ := List.forall_mem_cons.mp hright
      have hnone := words_append_of_blank hrest []
      rw [List.append_nil, words_nil] at hnone
      rw [words_append_blank hc, hnone, List.append_nil]

theorem words_lower (cs : List Char) : words (lower cs) = (words cs).map lower := by
  induction cs using words_induction with
  | empty => simp
  | word cs hsome hsolid =>
      have hlower : ∀ c ∈ lower cs, isBlank c = false := not_blank_of_mem_lowerFrom hsolid
      rw [words_of_solid (lower_ne_nil hsome) hlower, words_of_solid hsome hsolid]
      rfl
  | blank c hc front behind hfront hbehind =>
      rw [lower_append_blank hc, words_append_blank hc, words_append_blank hc, hfront, hbehind,
        List.map_append]

/-- The word that is split off is the first one. -/
theorem Splits.words_eq {text word gap rest : List Char} (hsplits : Splits text word gap rest)
    (hsome : word ≠ []) : words text = word :: words rest := by
  obtain ⟨rfl, hsolid, hblank, hopens, -⟩ := hsplits
  cases gap with
  | nil =>
      obtain rfl := hopens rfl
      rw [List.append_nil, List.append_nil, words_of_solid hsome hsolid, words_nil]
  | cons c blanks =>
      obtain ⟨hc, hblanks⟩ := List.forall_mem_cons.mp hblank
      rw [List.append_assoc, List.cons_append, words_append_blank hc,
        words_append_of_blank hblanks, words_of_solid hsome hsolid, List.singleton_append]

/-! ## Finding a text within a word -/

theorem isPrefixOf_append_blank {needle : List Char} (hneedle : ∀ c ∈ needle, isBlank c = false)
    {c : Char} (hc : isBlank c = true) (front behind : List Char) :
    needle.isPrefixOf (front ++ c :: behind) = needle.isPrefixOf front := by
  induction front generalizing needle with
  | nil =>
      cases needle with
      | nil => rfl
      | cons d rest =>
          have hd : d ≠ c := by
            rintro rfl
            rw [hneedle d List.mem_cons_self] at hc
            cases hc
          simp [List.isPrefixOf, hd]
  | cons b front ih =>
      cases needle with
      | nil => rfl
      | cons d rest =>
          have hrest := ih fun e he => hneedle e (List.mem_cons_of_mem d he)
          rw [List.cons_append, List.isPrefixOf, List.isPrefixOf, hrest]

/-- What has no blank in it is found on one side of a blank. -/
theorem occursIn_append_blank {needle : List Char} (hsome : needle ≠ [])
    (hneedle : ∀ c ∈ needle, isBlank c = false) {c : Char} (hc : isBlank c = true)
    (front behind : List Char) :
    occursIn needle (front ++ c :: behind) = (occursIn needle front || occursIn needle behind) := by
  induction front with
  | nil =>
      have hprefix := isPrefixOf_append_blank hneedle hc [] behind
      have hnone : needle.isPrefixOf [] = false := by
        cases needle with
        | nil => exact absurd rfl hsome
        | cons => rfl
      rw [List.nil_append, hnone] at hprefix
      simp [occursIn, hprefix, hsome]
  | cons d front ih =>
      have hprefix := isPrefixOf_append_blank hneedle hc (d :: front) behind
      rw [List.cons_append] at hprefix
      rw [List.cons_append, occursIn, hprefix, ih, occursIn, Bool.or_assoc]

theorem occursIn_iff_exists_word {needle : List Char} (hsome : needle ≠ [])
    (hneedle : ∀ c ∈ needle, isBlank c = false) (cs : List Char) :
    occursIn needle cs = true ↔ ∃ word ∈ words cs, occursIn needle word = true := by
  induction cs using words_induction with
  | empty => simp [occursIn, hsome]
  | word cs hsome hsolid => simp [words_of_solid hsome hsolid]
  | blank c hc front behind hfront hbehind =>
      rw [occursIn_append_blank hsome hneedle hc, Bool.or_eq_true, hfront, hbehind,
        words_append_blank hc]
      simp only [List.mem_append, or_and_right, exists_or]

end Text

/-! ## Subjects that words mention -/

namespace Subject

/-- No keyword of the subject has a blank in it. -/
def HasSolidKeywords (subject : Subject) : Prop :=
  ∀ keyword ∈ subject.keywords, Text.IsSolid keyword

instance : DecidablePred HasSolidKeywords := fun subject =>
  List.decidableBAll _ subject.keywords

/-- A text mentions a subject if one of its words does. -/
theorem isMentioned_lower_iff {subject : Subject} (hsolid : subject.HasSolidKeywords)
    (cs : List Char) :
    subject.isMentioned (Text.lower cs) = true ↔
      ∃ word ∈ Text.words cs, subject.isMentioned (Text.lower word) = true := by
  have hword : ∀ keyword ∈ subject.keywords, keyword ≠ "" →
      (Text.occursIn (Text.lower keyword.toList) (Text.lower cs) = true ↔
        ∃ word ∈ Text.words cs,
          Text.occursIn (Text.lower keyword.toList) (Text.lower word) = true) := by
    intro keyword hkeyword hsome
    have hlower : ∀ c ∈ Text.lower keyword.toList, Text.isBlank c = false :=
      Text.not_blank_of_mem_lowerFrom (hsolid keyword hkeyword)
    rw [Text.occursIn_iff_exists_word (Text.lower_ne_nil (by simpa using hsome)) hlower,
      Text.words_lower]
    simp only [List.mem_map, exists_exists_and_eq_and]
  simp only [isMentioned_iff]
  constructor
  · rintro ⟨keyword, hkeyword, hsome, hoccurs⟩
    obtain ⟨word, hmem, hfound⟩ := (hword keyword hkeyword hsome).mp hoccurs
    exact ⟨word, hmem, keyword, hkeyword, hsome, hfound⟩
  · rintro ⟨word, hmem, keyword, hkeyword, hsome, hfound⟩
    exact ⟨keyword, hkeyword, hsome, (hword keyword hkeyword hsome).mpr ⟨word, hmem, hfound⟩⟩

end Subject

theorem Registry.mentioned_eq_of_perm {registry : Registry}
    (hsolid : ∀ subject ∈ registry.subjects, subject.HasSolidKeywords) {text other : String}
    (hwords : (Text.words text.toList).Perm (Text.words other.toList)) :
    registry.mentioned text = registry.mentioned other := by
  rw [mentioned_eq_filter, mentioned_eq_filter]
  apply List.filter_congr
  intro subject hsubject
  rw [Bool.eq_iff_iff, Subject.isMentioned_lower_iff (hsolid subject hsubject),
    Subject.isMentioned_lower_iff (hsolid subject hsubject)]
  constructor
  · rintro ⟨word, hmem, hfound⟩
    exact ⟨word, hwords.subset hmem, hfound⟩
  · rintro ⟨word, hmem, hfound⟩
    exact ⟨word, hwords.symm.subset hmem, hfound⟩

/-! ## Lines of the same words -/

/-- The verb of a line is its first word, and the remainder has the other ones. -/
theorem Line.read_of_words (line : String) :
    (Text.words line.toList = [] ∧ read line = ⟨"", ""⟩) ∨
      ∃ first rest, Text.words line.toList = first :: Text.words rest ∧
        read line = ⟨String.ofList (Text.lower first), String.ofList (Text.lower rest)⟩ := by
  obtain ⟨gap, hsplits⟩ := Text.exists_splits (Text.isStripped_trim line.toList)
  have hread := read_eq_of_splits hsplits
  rw [← Text.words_trim line.toList]
  generalize (Text.cutAtBlank (Text.trim line.toList)).1 = first at hsplits hread
  generalize Text.trimStart (Text.cutAtBlank (Text.trim line.toList)).2 = rest at hsplits hread
  by_cases hsome : first = []
  · left
    subst hsome
    have hnone := hsplits.text_eq_nil (Text.isStripped_trim line.toList)
    have hempty := hsplits.text_eq
    rw [hnone, List.nil_append] at hempty
    obtain ⟨-, rfl⟩ := List.append_eq_nil_iff.mp hempty.symm
    exact ⟨by rw [hnone, Text.words_nil], hread⟩
  · exact Or.inr ⟨first, rest, hsplits.words_eq hsome, hread⟩

namespace Interpreter

/-- Two lines with the same first word mean the same if their other words are the same in some
order, as long as no keyword has a blank in it. -/
theorem interpret_eq_of_perm {interpreter : Interpreter}
    (hsolid : ∀ subject ∈ interpreter.registry.subjects, subject.HasSolidKeywords)
    {line other : String}
    (hfirst : (Text.words line.toList).head? = (Text.words other.toList).head?)
    (hothers : (Text.words line.toList).tail.Perm (Text.words other.toList).tail)
    (inventories : Inventories) :
    interpreter.interpret inventories line = interpreter.interpret inventories other := by
  have hcommand : Command.ofLine interpreter.registry line =
      Command.ofLine interpreter.registry other := by
    simp only [Command.ofLine, Line.action]
    rcases Line.read_of_words line with ⟨hwords, hread⟩ | ⟨first, rest, hwords, hread⟩ <;>
      rcases Line.read_of_words other with ⟨hwords', hread'⟩ | ⟨first', rest', hwords', hread'⟩
    · rw [hread, hread']
    · simp [hwords, hwords'] at hfirst
    · simp [hwords, hwords'] at hfirst
    · rw [hwords, hwords'] at hfirst hothers
      obtain rfl : first = first' := Option.some.inj hfirst
      have hmentioned : interpreter.registry.mentioned (String.ofList rest) =
          interpreter.registry.mentioned (String.ofList rest') :=
        Registry.mentioned_eq_of_perm hsolid (by simpa using hothers)
      have hlower : ∀ cs : List Char,
          String.ofList (Text.lower cs) = Text.lowered (String.ofList cs) := by
        simp [Text.lowered]
      rw [hread, hread']
      simp only [hlower, Registry.mentioned_lowered, hmentioned]
  rw [interpret, interpret, hcommand]

/-- A key with a use on a door. -/
def doorKey : Subject where
  name := "key"
  keywords := ["Key"]
  uses := [{ partner := "door", description := "The key opens the door." }]

/-- The key and the door are at hand. -/
def doorInterpreter : Interpreter where
  registry := ⟨[doorKey, { name := "door", keywords := ["door"] }]⟩

theorem interpret_eq_of_perm_doorInterpreter :
    (∀ subject ∈ doorInterpreter.registry.subjects, subject.HasSolidKeywords) ∧
      (Text.words "use key on door".toList).tail.Perm
        (Text.words " use\tdoor on\u3000 key".toList).tail ∧
      doorInterpreter.interpret .empty "use key on door" =
        doorInterpreter.interpret .empty " use\tdoor on\u3000 key" := by
  have hsolid : ∀ subject ∈ doorInterpreter.registry.subjects, subject.HasSolidKeywords := by decide
  have hothers : (Text.words "use key on door".toList).tail.Perm
      (Text.words " use\tdoor on\u3000 key".toList).tail := by decide
  exact ⟨hsolid, hothers, interpret_eq_of_perm hsolid (by decide) hothers .empty⟩

end Interpreter

end TextAdventure
