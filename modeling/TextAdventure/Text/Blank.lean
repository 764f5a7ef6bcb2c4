import TextAdventure.Text.CodeRange

/-!
# Blank space

Which characters are blank, and what is left of a text when blank space is stripped from its ends or
when it is cut at its first blank.  The lemmas say that nothing but blank space is lost.
-/

namespace TextAdventure.Text

/-- The characters with the Unicode property White_Space. -/
def blankRanges : List CodeRange :=
  [⟨0x09, 0x0D⟩, ⟨0x20, 0x20⟩, ⟨0x85, 0x85⟩, ⟨0xA0, 0xA0⟩, ⟨0x1680, 0x1680⟩, ⟨0x2000, 0x200A⟩,
   ⟨0x2028, 0x2029⟩, ⟨0x202F, 0x202F⟩, ⟨0x205F, 0x205F⟩, ⟨0x3000, 0x3000⟩]

/-- A character is blank space. -/
def isBlank (c : Char) : Bool :=
  CodeRange.holds blankRanges c

/-- Strips the blank space in front. -/
def trimStart (cs : List Char) : List Char :=
  cs.dropWhile isBlank

/-- Strips the blank space behind. -/
def trimEnd (cs : List Char) : List Char :=
  (cs.reverse.dropWhile isBlank).reverse

/-- Strips the blank space at both ends. -/
def trim (cs : List Char) : List Char :=
  trimEnd (trimStart cs)

/-- The word in front of the first blank, and what follows that blank; nothing follows in a text
without blanks. -/
def cutAtBlank (cs : List Char) : List Char × List Char :=
  (cs.takeWhile (! isBlank ·), (cs.dropWhile (! isBlank ·)).drop 1)

/-- Strips the blank space at both ends of a string. -/
def trimmed (s : String) : String :=
  String.ofList (trim s.toList)

theorem trimStart_of_not_blank {c : Char} (hc : isBlank c = false) (cs : List Char) :
    trimStart (c :: cs) = c :: cs := by
  simp [trimStart, hc]

theorem trimStart_of_blank {c : Char} (hc : isBlank c = true) (cs : List Char) :
    trimStart (c :: cs) = trimStart cs := by
  simp [trimStart, hc]

/-- What is stripped in front is stripped from the first part that is not blank. -/
theorem trimStart_append {cs : List Char} (hcs : trimStart cs ≠ []) (rest : List Char) :
    trimStart (cs ++ rest) = trimStart cs ++ rest := by
  have hkept : cs.dropWhile isBlank ≠ [] := hcs
  simp [trimStart, List.dropWhile_append, hkept]

theorem trimEnd_append_blank {c : Char} (hc : isBlank c = true) (cs : List Char) :
    trimEnd (cs ++ [c]) = trimEnd cs := by
  simp [trimEnd, hc]

theorem trimEnd_append_not_blank {c : Char} (hc : isBlank c = false) (cs : List Char) :
    trimEnd (cs ++ [c]) = cs ++ [c] := by
  simp [trimEnd, hc]

theorem trim_append_blank {c : Char} (hc : isBlank c = true) (cs : List Char) :
    trim (cs ++ [c]) = trim cs := by
  by_cases hkept : trimStart cs = []
  · have hnothing : cs.dropWhile isBlank = [] := hkept
    have hall : trimStart (cs ++ [c]) = [] := by
      simp [trimStart, List.dropWhile_append, hnothing, hc]
    rw [trim, trim, hall, hkept]
  · rw [trim, trimStart_append hkept, trimEnd_append_blank hc, trim]

theorem trimStart_append_of_blank {left : List Char} (hleft : ∀ c ∈ left, isBlank c = true)
    (cs : List Char) : trimStart (left ++ cs) = trimStart cs :=
  List.dropWhile_append_of_pos hleft

/-- Blank space around a text is stripped with what the text itself has. -/
theorem trim_append_append {left right : List Char} (hleft : ∀ c ∈ left, isBlank c = true)
    (hright : ∀ c ∈ right, isBlank c = true) (cs : List Char) :
    trim (left ++ cs ++ right) = trim cs := by
  have hbehind : ∀ cs, trim (cs ++ right) = trim cs := by
    induction right with
    | nil => simp
    | cons c rest ih =>
        intro cs
        have hrest := ih fun d hd => hright d (List.mem_cons_of_mem c hd)
        rw [List.append_cons, hrest, trim_append_blank (hright c List.mem_cons_self)]
  rw [hbehind, trim, trimStart_append_of_blank hleft, trim]

/-- Nothing but blank space is stripped. -/
theorem exists_blank_append (cs : List Char) :
    ∃ left right, (∀ c ∈ left, isBlank c = true) ∧ (∀ c ∈ right, isBlank c = true) ∧
      cs = left ++ trim cs ++ right := by
  have hstart : cs.takeWhile isBlank ++ trimStart cs = cs := List.takeWhile_append_dropWhile
  have hend : trim cs ++ ((trimStart cs).reverse.takeWhile isBlank).reverse = trimStart cs := by
    rw [trim, trimEnd, ← List.reverse_append, List.takeWhile_append_dropWhile,
      List.reverse_reverse]
  refine ⟨cs.takeWhile isBlank, ((trimStart cs).reverse.takeWhile isBlank).reverse, ?_, ?_, ?_⟩
  · exact List.all_eq_true.mp List.all_takeWhile
  · intro c hc
    exact List.all_eq_true.mp List.all_takeWhile c (List.mem_reverse.mp hc)
  · rw [List.append_assoc, hend, hstart]

theorem trim_eq_nil_iff (cs : List Char) : trim cs = [] ↔ ∀ c ∈ cs, isBlank c = true := by
  constructor
  · intro hnone
    obtain ⟨left, right, hleft, hright, hcs⟩ := exists_blank_append cs
    rw [hnone, List.append_nil] at hcs
    intro c hc
    rw [hcs, List.mem_append] at hc
    exact hc.elim (hleft c) (hright c)
  · intro hall
    have hnone : trim (cs ++ [] ++ []) = trim [] := trim_append_append hall (by simp) []
    rwa [List.append_nil, List.append_nil] at hnone

theorem head?_trimStart (cs : List Char) : ∀ c ∈ (trimStart cs).head?, isBlank c = false := by
  intro c hc
  have hfirst := List.head?_dropWhile_not isBlank cs
  rwa [← trimStart, Option.mem_def.mp hc] at hfirst

theorem trimStart_of_head? {cs : List Char} (hfirst : ∀ c ∈ cs.head?, isBlank c = false) :
    trimStart cs = cs := by
  cases cs with
  | nil => rfl
  | cons c rest => exact trimStart_of_not_blank (hfirst c rfl) rest

/-- A text neither begins nor ends with a blank. -/
structure IsStripped (cs : List Char) : Prop where
  first : ∀ c ∈ cs.head?, isBlank c = false
  last : ∀ c ∈ cs.getLast?, isBlank c = false

theorem trimEnd_prefix (cs : List Char) : trimEnd cs <+: cs := by
  rw [← List.reverse_suffix]
  simpa [trimEnd] using List.dropWhile_suffix isBlank

theorem isStripped_trim (cs : List Char) : IsStripped (trim cs) := by
  constructor
  · intro c hc
    obtain ⟨behind, hbehind⟩ := trimEnd_prefix (trimStart cs)
    apply head?_trimStart cs
    rw [← hbehind, ← trim, List.head?_append, Option.mem_def.mp hc]
    rfl
  · rw [trim, trimEnd, List.getLast?_reverse]
    exact head?_trimStart _

theorem IsStripped.trim_eq {cs : List Char} (hcs : IsStripped cs) : trim cs = cs := by
  have hend : trimStart cs.reverse = cs.reverse := by
    apply trimStart_of_head?
    rw [List.head?_reverse]
    exact hcs.last
  rw [trim, trimStart_of_head? hcs.first, trimEnd, ← trimStart, hend, List.reverse_reverse]

theorem trim_trim (cs : List Char) : trim (trim cs) = trim cs :=
  (isStripped_trim cs).trim_eq

theorem trimmed_eq_empty_iff (s : String) : trimmed s = "" ↔ trim s.toList = [] := by
  simp [trimmed]

/-- A text is cut at its first blank. -/
theorem cutAtBlank_append {word : List Char} (hword : ∀ c ∈ word, isBlank c = false) {blank : Char}
    (hblank : isBlank blank = true) (rest : List Char) :
    cutAtBlank (word ++ blank :: rest) = (word, rest) := by
  have hsolid : ∀ c ∈ word, (! isBlank c) = true := fun c hc => by simp [hword c hc]
  rw [cutAtBlank, List.takeWhile_append_of_pos hsolid, List.dropWhile_append_of_pos hsolid]
  simp [hblank]

theorem cutAtBlank_of_solid {cs : List Char} (hcs : ∀ c ∈ cs, isBlank c = false) :
    cutAtBlank cs = (cs, []) := by
  have hsolid : ∀ c ∈ cs, (! isBlank c) = true := fun c hc => by simp [hcs c hc]
  have htake : (cs ++ []).takeWhile (! isBlank ·) = cs ++ [] := List.takeWhile_append_of_pos hsolid
  have hdrop : (cs ++ []).dropWhile (! isBlank ·) = [] := List.dropWhile_append_of_pos hsolid
  rw [List.append_nil] at htake hdrop
  rw [cutAtBlank, htake, hdrop, List.drop_nil]

/-- A text is without blanks, or it has a first one. -/
theorem solid_or_exists_blank (cs : List Char) :
    (∀ c ∈ cs, isBlank c = false) ∨
      ∃ word blank rest, (∀ c ∈ word, isBlank c = false) ∧ isBlank blank = true ∧
        cs = word ++ blank :: rest := by
  induction cs with
  | nil => exact Or.inl (by simp)
  | cons c rest ih =>
      by_cases hc : isBlank c = true
      · exact Or.inr ⟨[], c, rest, by simp, hc, rfl⟩
      · have hc : isBlank c = false := by simpa using hc
        rcases ih with hsolid | ⟨word, blank, behind, hsolid, hblank, rfl⟩
        · exact Or.inl (List.forall_mem_cons.mpr ⟨hc, hsolid⟩)
        · exact Or.inr ⟨c :: word, blank, behind, List.forall_mem_cons.mpr ⟨hc, hsolid⟩,
            hblank, rfl⟩

end TextAdventure.Text
