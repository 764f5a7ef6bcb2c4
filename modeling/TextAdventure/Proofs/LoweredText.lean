import Mathlib.Data.List.Induction
import TextAdventure.Text.Blank
import TextAdventure.Text.LowerCase

/-!
# Text in lower case

Lower-casing a text twice changes nothing that lower-casing it once has not changed, and it leaves
blank space where it is, so that a text can be cut at a blank before or after it is lower-cased.
The first rests on the case tables: no lower-case form has a lower-case form other than itself.  The
second rests on the fact that a word ends at a blank, so the form of a sigma is decided within its
word.
-/

namespace TextAdventure.Text

/-! ## Ranges that do not meet -/

namespace CodeRange

/-- No code point lies in both ranges. -/
def isApart (range other : CodeRange) : Bool :=
  range.last.blt other.first || other.last.blt range.first

theorem covers_iff (range : CodeRange) (code : Nat) :
    range.covers code = true ↔ range.first ≤ code ∧ code ≤ range.last := by
  simp [covers]

theorem isApart_iff (range other : CodeRange) :
    range.isApart other = true ↔ range.last < other.first ∨ other.last < range.first := by
  simp [isApart, Nat.blt_eq]

theorem covers_eq_false_of_isApart {range other : CodeRange}
    (hapart : range.isApart other = true) {code : Nat} (hcode : range.covers code = true) :
    other.covers code = false := by
  rw [isApart_iff] at hapart
  rw [covers_iff] at hcode
  rw [Bool.eq_false_iff, ne_eq, covers_iff]
  omega

theorem holds_eq_false_of_covers {range : CodeRange} {others : List CodeRange}
    (hapart : ∀ other ∈ others, range.isApart other = true) {c : Char}
    (hc : range.covers c.toNat = true) : holds others c = false := by
  rw [holds, List.any_eq_false]
  intro other hother
  simp [covers_eq_false_of_isApart (hapart other hother) hc]

theorem holds_eq_false_of_holds {ranges others : List CodeRange}
    (hapart : ∀ range ∈ ranges, ∀ other ∈ others, range.isApart other = true) {c : Char}
    (hc : holds ranges c = true) : holds others c = false := by
  obtain ⟨range, hrange, hcovers⟩ := List.any_eq_true.mp hc
  exact holds_eq_false_of_covers (hapart range hrange) hcovers

end CodeRange

namespace CaseRun

/-- The code points from the first character of the run to the last. -/
def sources (run : CaseRun) : CodeRange :=
  ⟨run.first, run.last⟩

/-- The code points from the first lower-case form of the run to the last. -/
def images (run : CaseRun) : CodeRange :=
  ⟨run.image, run.lower run.last⟩

/-- No lower-case form of the run belongs to the other run: the two lie apart, or they alternate. -/
def avoids (run other : CaseRun) : Bool :=
  run.images.isApart other.sources ||
    ((run.stride == 2 || run.first == run.last) && other.stride == 2 &&
      run.image % 2 != other.first % 2)

variable {run other : CaseRun} {code : Nat}

theorem covers_iff (run : CaseRun) (code : Nat) :
    run.covers code = true ↔
      run.first ≤ code ∧ code ≤ run.last ∧ (code - run.first) % run.stride = 0 := by
  simp [covers, and_assoc]

theorem covers_sources (hcode : run.covers code = true) : run.sources.covers code = true := by
  rw [covers_iff] at hcode
  exact (CodeRange.covers_iff _ _).mpr ⟨hcode.1, hcode.2.1⟩

theorem covers_images (hcode : run.covers code = true) :
    run.images.covers (run.lower code) = true := by
  rw [covers_iff] at hcode
  have hlow : run.image ≤ run.lower code := Nat.le_add_right _ _
  have hhigh : run.lower code ≤ run.lower run.last := by
    simp only [lower]
    omega
  exact (CodeRange.covers_iff _ _).mpr ⟨hlow, hhigh⟩

theorem covers_lower_of_avoids (havoids : run.avoids other = true)
    (hcode : run.covers code = true) : other.covers (run.lower code) = false := by
  rcases (Bool.or_eq_true _ _).mp havoids with hapart | halternate
  · have hsources := CodeRange.covers_eq_false_of_isApart hapart (covers_images hcode)
    rw [Bool.eq_false_iff] at hsources ⊢
    exact fun hcovers => hsources (covers_sources hcovers)
  · -- The parity of a character of a run with stride two is that of the first one.
    simp only [Bool.and_eq_true, Bool.or_eq_true, beq_iff_eq, bne_iff_ne] at halternate
    obtain ⟨⟨hstride, hother⟩, hparity⟩ := halternate
    rw [covers_iff] at hcode
    have heven : (code - run.first) % 2 = 0 := by
      rcases hstride with htwo | hsingle
      · exact htwo ▸ hcode.2.2
      · omega
    rw [Bool.eq_false_iff, ne_eq, covers_iff, hother, lower]
    omega

end CaseRun

/-! ## The case tables -/

/-- The capital I with a dot, seen as a run of its own. -/
def dottedRun : CaseRun := ⟨0x130, 0x130, 1, 0x69⟩

theorem caseRuns_avoid :
    ∀ run ∈ caseRuns, (dottedRun :: caseRuns).all run.avoids = true := by
  decide +kernel

theorem caseRuns_images_valid :
    ∀ run ∈ caseRuns, run.images.last < 0xD800 ∨
      (0xDFFF < run.images.first ∧ run.images.last < 0x110000) := by
  decide +kernel

theorem caseRuns_not_blank :
    ∀ run ∈ caseRuns, ∀ blank ∈ blankRanges,
      run.sources.isApart blank = true ∧ run.images.isApart blank = true := by
  decide +kernel

theorem blankRanges_not_cased :
    ∀ blank ∈ blankRanges, ∀ cased ∈ casedRanges, blank.isApart cased = true := by
  decide +kernel

theorem blankRanges_not_caseIgnorable :
    ∀ blank ∈ blankRanges, ∀ ignorable ∈ caseIgnorableRanges,
      blank.isApart ignorable = true := by
  decide +kernel

/-- A code point belongs to a run, which maps it, or to none, and is its own lower-case form. -/
theorem lowerCode_cases (code : Nat) :
    (∃ run ∈ caseRuns, run.covers code = true ∧ lowerCode code = run.lower code) ∨
      (∀ run ∈ caseRuns, run.covers code = false) ∧ lowerCode code = code := by
  cases hfind : caseRuns.find? (·.covers code) with
  | some run =>
      have hcovers := List.find?_some hfind
      have hrun := List.mem_of_find?_eq_some hfind
      exact Or.inl ⟨run, hrun, hcovers, by simp [lowerCode, hfind]⟩
  | none =>
      refine Or.inr ⟨?_, by simp [lowerCode, hfind]⟩
      intro run hrun
      simpa using List.find?_eq_none.mp hfind run hrun

theorem lowerCode_of_not_covered {code : Nat}
    (hnone : ∀ run ∈ caseRuns, run.covers code = false) : lowerCode code = code := by
  rcases lowerCode_cases code with ⟨run, hrun, hcovers, -⟩ | ⟨-, hsame⟩
  · rw [hnone run hrun] at hcovers
    cases hcovers
  · exact hsame

/-- No run covers a lower-case form of another. -/
theorem not_covered_lowerCode (code : Nat) :
    ∀ run ∈ caseRuns, run.covers (lowerCode code) = false := by
  intro run hrun
  rcases lowerCode_cases code with ⟨source, hsource, hcovers, hlower⟩ | ⟨hnone, hsame⟩
  · have havoids := List.all_eq_true.mp (caseRuns_avoid source hsource) run
      (List.mem_cons_of_mem _ hrun)
    rw [hlower]
    exact CaseRun.covers_lower_of_avoids havoids hcovers
  · rw [hsame]
    exact hnone run hrun

theorem lowerCode_lowerCode (code : Nat) : lowerCode (lowerCode code) = lowerCode code :=
  lowerCode_of_not_covered (not_covered_lowerCode code)

/-- The capital I with a dot is no lower-case form. -/
theorem lowerCode_ne_dotted {code : Nat} (hcode : code ≠ 0x130) : lowerCode code ≠ 0x130 := by
  rcases lowerCode_cases code with ⟨run, hrun, hcovers, hlower⟩ | ⟨-, hsame⟩
  · have havoids := List.all_eq_true.mp (caseRuns_avoid run hrun) dottedRun List.mem_cons_self
    have hdotted := CaseRun.covers_lower_of_avoids havoids hcovers
    intro hequal
    rw [← hlower, hequal] at hdotted
    cases hdotted
  · rwa [hsame]

/-- The lower-case form of the code point of a character is that of a character. -/
theorem isValidChar_lowerCode (c : Char) : (lowerCode c.toNat).isValidChar := by
  rcases lowerCode_cases c.toNat with ⟨run, hrun, hcovers, hlower⟩ | ⟨-, hsame⟩
  · obtain ⟨hfirst, hlast⟩ := (CodeRange.covers_iff _ _).mp (CaseRun.covers_images hcovers)
    rw [hlower]
    rcases caseRuns_images_valid run hrun with hlow | ⟨hhigh, hlimit⟩
    · exact Or.inl (by omega)
    · exact Or.inr (by omega)
  · rw [hsame]
    exact c.valid

/-! ## Characters -/

/-- The lower-case form of a character, if that is a single one. -/
def smallChar (c : Char) : Char :=
  Char.ofNat (lowerCode c.toNat)

@[simp] theorem smallChar_toNat (c : Char) : (smallChar c).toNat = lowerCode c.toNat := by
  rw [smallChar, Char.ofNat, dif_pos (isValidChar_lowerCode c)]
  rfl

theorem smallChar_smallChar (c : Char) : smallChar (smallChar c) = smallChar c := by
  rw [← Char.toNat_inj]
  simp [lowerCode_lowerCode]

theorem lowerChar_of_ne {c : Char} (hc : c ≠ '\u0130') : lowerChar c = [smallChar c] := by
  simp [lowerChar, hc, smallChar]

/-- Lower-casing a text leaves the character as it is, wherever it stands. -/
def IsSettled (c : Char) : Prop :=
  c ≠ '\u03A3' ∧ lowerChar c = [c]

instance : DecidablePred IsSettled := fun _ => inferInstanceAs (Decidable (_ ∧ _))

theorem isSettled_smallChar {c : Char} (hc : c ≠ '\u0130') : IsSettled (smallChar c) := by
  have hsigma : smallChar c ≠ '\u03A3' := by
    intro hequal
    have huncovered := not_covered_lowerCode c.toNat ⟨0x3A3, 0x3AB, 1, 0x3C3⟩ (by decide)
    rw [← smallChar_toNat, hequal] at huncovered
    exact absurd huncovered (by decide)
  have hdotted : smallChar c ≠ '\u0130' := by
    intro hequal
    have hcode : c.toNat ≠ 0x130 := fun hcode => hc (Char.toNat_inj.mp hcode)
    apply lowerCode_ne_dotted hcode
    rw [← smallChar_toNat, hequal]
    rfl
  exact ⟨hsigma, by rw [lowerChar_of_ne hdotted, smallChar_smallChar]⟩

theorem isSettled_lowerSigma (before after : List Char) : IsSettled (lowerSigma before after) := by
  unfold lowerSigma
  split
  · decide
  · decide

/-- What a character becomes at its place in a text. -/
def lowerAt (before : List Char) (c : Char) (after : List Char) : List Char :=
  if c = '\u03A3' then [lowerSigma before after] else lowerChar c

theorem lowerFrom_cons (before : List Char) (c : Char) (rest : List Char) :
    lowerFrom before (c :: rest) = lowerAt before c rest ++ lowerFrom (c :: before) rest := rfl

theorem mem_lowerAt_cases {before after : List Char} {c d : Char}
    (hd : d ∈ lowerAt before c after) :
    (c = '\u03A3' ∧ d = lowerSigma before after) ∨
      (c = '\u0130' ∧ (d = 'i' ∨ d = '\u0307')) ∨ (c ≠ '\u0130' ∧ d = smallChar c) := by
  unfold lowerAt at hd
  split at hd
  · rename_i hsigma
    exact Or.inl ⟨hsigma, List.mem_singleton.mp hd⟩
  · by_cases hdotted : c = '\u0130'
    · have hpair : d = 'i' ∨ d = '\u0307' := by simpa [lowerChar, hdotted] using hd
      exact Or.inr (Or.inl ⟨hdotted, hpair⟩)
    · rw [lowerChar_of_ne hdotted] at hd
      exact Or.inr (Or.inr ⟨hdotted, List.mem_singleton.mp hd⟩)

theorem isSettled_of_mem_lowerAt {before after : List Char} {c d : Char}
    (hd : d ∈ lowerAt before c after) : IsSettled d := by
  rcases mem_lowerAt_cases hd with ⟨-, rfl⟩ | ⟨-, rfl | rfl⟩ | ⟨hdotted, rfl⟩
  · exact isSettled_lowerSigma before after
  · decide
  · decide
  · exact isSettled_smallChar hdotted

/-! ## Lower-casing twice -/

theorem isSettled_of_mem_lowerFrom {before cs : List Char} :
    ∀ d ∈ lowerFrom before cs, IsSettled d := by
  induction cs generalizing before with
  | nil => simp [lowerFrom]
  | cons c rest ih =>
      intro d hd
      rw [lowerFrom_cons, List.mem_append] at hd
      rcases hd with hfirst | hrest
      · exact isSettled_of_mem_lowerAt hfirst
      · exact ih d hrest

theorem lowerFrom_of_isSettled {before cs : List Char} (hcs : ∀ c ∈ cs, IsSettled c) :
    lowerFrom before cs = cs := by
  induction cs generalizing before with
  | nil => rfl
  | cons c rest ih =>
      have hc := hcs c List.mem_cons_self
      have hrest : lowerFrom (c :: before) rest = rest :=
        ih fun d hd => hcs d (List.mem_cons_of_mem c hd)
      rw [lowerFrom_cons, hrest, lowerAt, if_neg hc.1, hc.2, List.singleton_append]

@[simp] theorem lower_lower (cs : List Char) : lower (lower cs) = lower cs :=
  lowerFrom_of_isSettled isSettled_of_mem_lowerFrom

theorem lowered_eq_self_iff (s : String) : lowered s = s ↔ lower s.toList = s.toList := by
  rw [lowered, ← String.toList_inj, String.toList_ofList]

/-! ## Blank space -/

theorem isBlank_of_covers {run : CaseRun} (hrun : run ∈ caseRuns) {c : Char}
    (hcovers : run.covers c.toNat = true) : isBlank c = false := by
  have hapart := fun blank hblank => (caseRuns_not_blank run hrun blank hblank).1
  exact CodeRange.holds_eq_false_of_covers hapart (CaseRun.covers_sources hcovers)

theorem isBlank_smallChar (c : Char) : isBlank (smallChar c) = isBlank c := by
  rcases lowerCode_cases c.toNat with ⟨run, hrun, hcovers, hlower⟩ | ⟨-, hsame⟩
  · have himage : isBlank (smallChar c) = false := by
      have hapart := fun blank hblank => (caseRuns_not_blank run hrun blank hblank).2
      apply CodeRange.holds_eq_false_of_covers hapart
      rw [smallChar_toNat, hlower]
      exact CaseRun.covers_images hcovers
    rw [himage, isBlank_of_covers hrun hcovers]
  · rw [smallChar, hsame, Char.ofNat_toNat]

/-- What a character becomes is blank only if the character is. -/
theorem isBlank_of_mem_lowerAt {before after : List Char} {c d : Char}
    (hd : d ∈ lowerAt before c after) : isBlank d = isBlank c := by
  rcases mem_lowerAt_cases hd with ⟨rfl, rfl⟩ | ⟨rfl, rfl | rfl⟩ | ⟨-, rfl⟩
  · unfold lowerSigma
    split
    · decide
    · decide
  · decide
  · decide
  · exact isBlank_smallChar c

theorem not_blank_of_mem_lowerFrom {before cs : List Char} (hsolid : ∀ c ∈ cs, isBlank c = false) :
    ∀ d ∈ lowerFrom before cs, isBlank d = false := by
  induction cs generalizing before with
  | nil => simp [lowerFrom]
  | cons c rest ih =>
      intro d hd
      rw [lowerFrom_cons, List.mem_append] at hd
      rcases hd with hfirst | hrest
      · rw [isBlank_of_mem_lowerAt hfirst]
        exact hsolid c List.mem_cons_self
      · exact ih (fun e he => hsolid e (List.mem_cons_of_mem c he)) d hrest

/-- Blank space is its own lower-case form. -/
theorem lowerAt_of_isBlank {c : Char} (hc : isBlank c = true) (before after : List Char) :
    lowerAt before c after = [c] := by
  have hsigma : c ≠ '\u03A3' := by
    rintro rfl
    cases hc
  have hdotted : c ≠ '\u0130' := by
    rintro rfl
    cases hc
  have hnone : ∀ run ∈ caseRuns, run.covers c.toNat = false := by
    intro run hrun
    rw [Bool.eq_false_iff]
    intro hcovers
    rw [isBlank_of_covers hrun hcovers] at hc
    cases hc
  rw [lowerAt, if_neg hsigma, lowerChar_of_ne hdotted, smallChar, lowerCode_of_not_covered hnone,
    Char.ofNat_toNat]

/-- A word ends at a blank: what stands behind it does not matter. -/
theorem meetsCased_append_blank {c : Char} (hc : isBlank c = true) (cs rest : List Char) :
    meetsCased (cs ++ c :: rest) = meetsCased cs := by
  have hcased : isCased c = false := CodeRange.holds_eq_false_of_holds blankRanges_not_cased hc
  have hignorable : isCaseIgnorable c = false :=
    CodeRange.holds_eq_false_of_holds blankRanges_not_caseIgnorable hc
  induction cs with
  | nil => simp [meetsCased, hignorable, hcased]
  | cons d ds ih =>
      by_cases hd : isCaseIgnorable d = true
      · simpa [meetsCased, hd] using ih
      · simp [meetsCased, hd]

theorem lowerAt_append_blank_left {c : Char} (hc : isBlank c = true)
    (before behind : List Char) (d : Char) (after : List Char) :
    lowerAt (before ++ c :: behind) d after = lowerAt before d after := by
  simp only [lowerAt, lowerSigma, meetsCased_append_blank hc]

theorem lowerAt_append_blank_right {c : Char} (hc : isBlank c = true)
    (before : List Char) (d : Char) (after rest : List Char) :
    lowerAt before d (after ++ c :: rest) = lowerAt before d after := by
  simp only [lowerAt, lowerSigma, meetsCased_append_blank hc]

theorem lowerFrom_append_blank {c : Char} (hc : isBlank c = true)
    (before behind cs : List Char) :
    lowerFrom (before ++ c :: behind) cs = lowerFrom before cs := by
  induction cs generalizing before with
  | nil => rfl
  | cons d rest ih =>
      have hrest := ih (d :: before)
      rw [List.cons_append] at hrest
      rw [lowerFrom_cons, lowerFrom_cons, lowerAt_append_blank_left hc, hrest]

/-- A text is lower-cased by lower-casing what is in front of a blank and what is behind it. -/
theorem lower_append_blank {c : Char} (hc : isBlank c = true) (cs rest : List Char) :
    lower (cs ++ c :: rest) = lower cs ++ c :: lower rest := by
  have hgeneral : ∀ before, lowerFrom before (cs ++ c :: rest) =
      lowerFrom before cs ++ c :: lower rest := by
    induction cs with
    | nil =>
        intro before
        have hbehind := lowerFrom_append_blank hc [] before rest
        rw [List.nil_append] at hbehind
        rw [List.nil_append, lowerFrom_cons, lowerAt_of_isBlank hc, hbehind]
        rfl
    | cons d ds ih =>
        intro before
        rw [List.cons_append, lowerFrom_cons, lowerFrom_cons, lowerAt_append_blank_right hc, ih,
          List.append_assoc]
  exact hgeneral []

/-! ## Stripping blank space -/

theorem lowerAt_ne_nil (before : List Char) (c : Char) (after : List Char) :
    lowerAt before c after ≠ [] := by
  unfold lowerAt lowerChar
  split
  · simp
  · split <;> simp

theorem lower_ne_nil {cs : List Char} (hcs : cs ≠ []) : lower cs ≠ [] := by
  obtain ⟨c, rest, rfl⟩ := List.exists_cons_of_ne_nil hcs
  rw [lower, lowerFrom_cons]
  exact List.append_ne_nil_of_left_ne_nil (lowerAt_ne_nil [] c rest) _

theorem trimStart_lower (cs : List Char) : trimStart (lower cs) = lower (trimStart cs) := by
  induction cs with
  | nil => rfl
  | cons c rest ih =>
      by_cases hc : isBlank c = true
      · have hlower : lower (c :: rest) = c :: lower rest := lower_append_blank hc [] rest
        rw [hlower, trimStart_of_blank hc, trimStart_of_blank hc, ih]
      · have hc : isBlank c = false := by simpa using hc
        obtain ⟨d, ds, hfirst⟩ := List.exists_cons_of_ne_nil (lowerAt_ne_nil [] c rest)
        have hd : isBlank d = false := by
          rw [isBlank_of_mem_lowerAt (hfirst ▸ List.mem_cons_self), hc]
        rw [trimStart_of_not_blank hc, lower, lowerFrom_cons, hfirst, List.cons_append,
          trimStart_of_not_blank hd]

/-- The last character of a text is blank just if that of its lower-case form is. -/
theorem exists_lowerFrom_append (before cs : List Char) (c : Char) :
    ∃ ds d, lowerFrom before (cs ++ [c]) = ds ++ [d] ∧ isBlank d = isBlank c := by
  induction cs generalizing before with
  | nil =>
      have hlast := lowerAt_ne_nil before c []
      have hblank := isBlank_of_mem_lowerAt (List.getLast_mem hlast)
      refine ⟨(lowerAt before c []).dropLast, (lowerAt before c []).getLast hlast, ?_, hblank⟩
      rw [List.nil_append, lowerFrom_cons, List.dropLast_concat_getLast]
      exact List.append_nil _
  | cons b rest ih =>
      obtain ⟨ds, d, hrest, hblank⟩ := ih (b :: before)
      refine ⟨lowerAt before b (rest ++ [c]) ++ ds, d, ?_, hblank⟩
      rw [List.cons_append, lowerFrom_cons, hrest, List.append_assoc]

theorem trimEnd_lower (cs : List Char) : trimEnd (lower cs) = lower (trimEnd cs) := by
  induction cs using List.reverseRecOn with
  | nil => rfl
  | append_singleton rest c ih =>
      by_cases hc : isBlank c = true
      · rw [lower_append_blank hc, lower_nil, trimEnd_append_blank hc, trimEnd_append_blank hc, ih]
      · have hc : isBlank c = false := by simpa using hc
        obtain ⟨ds, d, hlower, hd⟩ := exists_lowerFrom_append [] rest c
        rw [trimEnd_append_not_blank hc, lower, hlower, trimEnd_append_not_blank (hd.trans hc)]

/-- Blank space can be stripped before or after a text is lower-cased. -/
theorem trim_lower (cs : List Char) : trim (lower cs) = lower (trim cs) := by
  rw [trim, trimStart_lower, trimEnd_lower, trim]

end TextAdventure.Text
