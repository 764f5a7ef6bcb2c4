import Mathlib.Data.List.Forall2
import TextAdventure.Proofs.LoweredText
import TextAdventure.Registry

/-!
# Keywords in a text

A text mentions a subject if a keyword of the subject stands in it, where both are compared in lower
case.  The text and the keyword are lower-cased apart from each other, and the form of a capital
sigma depends on the letters around it, so a keyword may have another form within a text than alone.
A keyword is found wherever its sigmas keep their form.  One that loses a form somewhere is not
found in every text: it is missed in front of a letter or behind one.
-/

namespace TextAdventure

namespace Text

/-! ## A text within a longer text -/

/-- Lower-cases a text between `before`, which is given from its end, and `after`. -/
def lowerWithin (before after : List Char) : List Char → List Char
  | [] => []
  | c :: rest => lowerAt before c (rest ++ after) ++ lowerWithin (c :: before) after rest

theorem lowerFrom_append (before cs after : List Char) :
    lowerFrom before (cs ++ after) =
      lowerWithin before after cs ++ lowerFrom (cs.reverse ++ before) after := by
  induction cs generalizing before with
  | nil => rfl
  | cons c rest ih =>
      have hcontext : (c :: rest).reverse ++ before = rest.reverse ++ c :: before := by simp
      rw [List.cons_append, lowerFrom_cons, lowerWithin, ih, hcontext, List.append_assoc]

/-- A text that is lower-cased as a whole is lower-cased at each place in its context. -/
theorem lower_append_append (before cs after : List Char) :
    lower (before ++ cs ++ after) =
      lowerWithin [] (cs ++ after) before ++ lowerWithin before.reverse after cs ++
        lowerFrom (cs.reverse ++ before.reverse) after := by
  rw [List.append_assoc, lower, lowerFrom_append, List.append_nil, lowerFrom_append,
    List.append_assoc]

/-- Every capital sigma of a text has the form within a longer text that it has in the text
alone. -/
def KeepsSigmas (before cs after : List Char) : Prop :=
  ∀ left right, cs = left ++ '\u03A3' :: right →
    lowerSigma (before ++ left).reverse (right ++ after) = lowerSigma left.reverse right

theorem forall₂_append_self_iff {R : Char → Char → Prop} (hrefl : ∀ c, R c c)
    (cs ds es : List Char) : List.Forall₂ R (cs ++ ds) (cs ++ es) ↔ List.Forall₂ R ds es := by
  induction cs with
  | nil => rfl
  | cons c rest ih => simp [hrefl c, ih]

/-- A sigma of a text is the first character, or it is one of the rest. -/
theorem forall_sigma_cons_iff {P : List Char → List Char → Prop} (c : Char) (rest : List Char) :
    (∀ left right, c :: rest = left ++ '\u03A3' :: right → P left right) ↔
      (c = '\u03A3' → P [] rest) ∧
        ∀ left right, rest = left ++ '\u03A3' :: right → P (c :: left) right := by
  constructor
  · intro hall
    refine ⟨?_, ?_⟩
    · rintro rfl
      exact hall [] rest rfl
    · rintro left right rfl
      exact hall (c :: left) right rfl
  · rintro ⟨hfirst, hothers⟩ left right hsplit
    cases left with
    | nil =>
        obtain ⟨hsigma, rfl⟩ := List.cons.inj hsplit
        exact hfirst hsigma
    | cons d left =>
        obtain ⟨rfl, hrest⟩ := List.cons.inj hsplit
        exact hothers left right hrest

/-- Character by character, the two lower-case forms of a text differ in the forms of its sigmas
only. -/
theorem forall₂_lowerWithin_iff {R : Char → Char → Prop} (hrefl : ∀ c, R c c)
    (seen before after cs : List Char) :
    List.Forall₂ R (lowerWithin (seen ++ before) after cs) (lowerFrom seen cs) ↔
      ∀ left right, cs = left ++ '\u03A3' :: right →
        R (lowerSigma (left.reverse ++ seen ++ before) (right ++ after))
          (lowerSigma (left.reverse ++ seen) right) := by
  induction cs generalizing seen with
  | nil => simp [lowerWithin, lowerFrom]
  | cons c rest ih =>
      have hrest := ih (c :: seen)
      rw [List.cons_append] at hrest
      rw [forall_sigma_cons_iff, lowerWithin, lowerFrom_cons]
      by_cases hsigma : c = '\u03A3'
      · subst hsigma
        simp [lowerAt, hrest]
      · simp [lowerAt, hsigma, forall₂_append_self_iff hrefl, hrest]

/-- A text has the same lower-case form within a longer text as alone exactly if its sigmas keep
their form. -/
theorem lowerWithin_eq_lower_iff {before cs after : List Char} :
    lowerWithin before.reverse after cs = lower cs ↔ KeepsSigmas before cs after := by
  have hforms := forall₂_lowerWithin_iff (R := Eq) (fun _ => rfl) [] before.reverse after cs
  rw [List.forall₂_eq_eq_eq] at hforms
  simpa [KeepsSigmas, lower] using hforms

theorem keepsSigmas_of_not_mem {cs : List Char} (hnone : '\u03A3' ∉ cs) (before after : List Char) :
    KeepsSigmas before cs after := by
  rintro left right rfl
  simp at hnone

instance {before cs after : List Char} : Decidable (KeepsSigmas before cs after) :=
  decidable_of_iff _ lowerWithin_eq_lower_iff

/-! ## Sigmas that lose their form -/

/-- What stands behind a text decides nothing unless the text is all passed over. -/
theorem meetsCased_append_cases (cs : List Char) :
    (meetsCased cs = false ∧ ∀ ds, meetsCased (cs ++ ds) = meetsCased ds) ∨
      ∀ ds, meetsCased (cs ++ ds) = meetsCased cs := by
  induction cs with
  | nil => exact Or.inl ⟨rfl, fun _ => rfl⟩
  | cons c rest ih =>
      by_cases hc : isCaseIgnorable c = true
      · simpa [meetsCased, hc] using ih
      · right
        intro ds
        simp [meetsCased, hc]

theorem lowerSigma_eq_iff {before after before' after' : List Char} :
    lowerSigma before after = lowerSigma before' after' ↔
      (meetsCased before && ! meetsCased after) = (meetsCased before' && ! meetsCased after') := by
  unfold lowerSigma
  cases meetsCased before && ! meetsCased after <;>
    cases meetsCased before' && ! meetsCased after' <;> decide

/-- If the sigmas of a text keep their form in front of a letter and behind one, they keep it in
every text. -/
theorem keepsSigmas_of_letter {cs : List Char} (hbehind : KeepsSigmas [] cs ['a'])
    (hfront : KeepsSigmas ['a'] cs []) (before after : List Char) :
    KeepsSigmas before cs after := by
  intro left right hsplit
  have hletterBehind := hbehind left right hsplit
  have hletterFront := hfront left right hsplit
  have hletter : meetsCased ['a'] = true := by decide +kernel
  rw [lowerSigma_eq_iff, List.reverse_append] at hletterBehind hletterFront ⊢
  rcases meetsCased_append_cases left.reverse with ⟨hleft, hpast⟩ | hpast
  · -- Nothing in front of the sigma decides, so a letter of the text behind it has to.
    have hright : meetsCased right = true := by
      simpa [hpast, hleft, hletter] using hletterFront
    rcases meetsCased_append_cases right with ⟨hnone, -⟩ | hbeyond
    · rw [hright] at hnone
      cases hnone
    · simp [hleft, hbeyond, hright]
  · rcases meetsCased_append_cases right with ⟨hright, hbeyond⟩ | hbeyond
    · -- Nothing behind the sigma decides, so there can be no letter in front of it.
      have hleft : meetsCased left.reverse = false := by
        simpa [hpast, hbeyond, hright, hletter] using hletterBehind
      simp [hpast, hleft]
    · rw [hpast, hbeyond]

/-- A text behind can only take a sigma its final form. -/
theorem lowerSigma_append_behind (before after rest : List Char) :
    lowerSigma before (after ++ rest) = lowerSigma before after ∨
      lowerSigma before after = '\u03C2' := by
  rcases meetsCased_append_cases after with ⟨hafter, -⟩ | hbeyond
  · by_cases hbefore : meetsCased before = true
    · exact Or.inr (by simp [lowerSigma, hbefore, hafter])
    · exact Or.inl (by simp [lowerSigma, hbefore])
  · exact Or.inl (by rw [lowerSigma, lowerSigma, hbeyond])

/-- A text in front can only give a sigma its final form. -/
theorem lowerSigma_append_front (before after rest : List Char) :
    lowerSigma (before ++ rest) after = lowerSigma before after ∨
      lowerSigma before after = '\u03C3' := by
  rcases meetsCased_append_cases before with ⟨hbefore, -⟩ | hpast
  · exact Or.inr (by simp [lowerSigma, hbefore])
  · exact Or.inl (by rw [lowerSigma, lowerSigma, hpast])

theorem count_le_of_forall₂ {form : Char} {ds es : List Char}
    (hforms : List.Forall₂ (fun d e => d = e ∨ e = form) ds es) :
    ds.count form ≤ es.count form := by
  induction hforms with
  | nil => exact Nat.le_refl 0
  | cons hfirst _ ih =>
      rcases hfirst with rfl | rfl
      · simpa [List.count_cons] using ih
      · rw [List.count_cons_self, List.count_cons]
        split <;> omega

/-- Two texts are equal if they differ only where the second has a certain character, and the second
does not have it more often. -/
theorem eq_of_forall₂_of_count_le {form : Char} {ds es : List Char}
    (hforms : List.Forall₂ (fun d e => d = e ∨ e = form) ds es)
    (hcount : es.count form ≤ ds.count form) : ds = es := by
  induction hforms with
  | nil => rfl
  | @cons d e ds es hfirst hrest ih =>
      have hle := count_le_of_forall₂ hrest
      by_cases hsame : d = e
      · subst hsame
        rw [ih (by simpa [List.count_cons] using hcount)]
      · obtain rfl := hfirst.resolve_left hsame
        rw [List.count_cons_self, List.count_cons_of_ne hsame] at hcount
        omega

/-- A text that is found within a longer one keeps its sigmas there, if they could only lose one of
their two forms and the rest of the longer text has none of that form. -/
theorem keepsSigmas_of_occursIn (form : Char) {before cs after : List Char}
    (hforms : ∀ left right,
      lowerSigma (before ++ left).reverse (right ++ after) = lowerSigma left.reverse right ∨
        lowerSigma left.reverse right = form)
    (hbefore : form ∉ lowerWithin [] (cs ++ after) before)
    (hafter : form ∉ lowerFrom (cs.reverse ++ before.reverse) after)
    (hoccurs : occursIn (lower cs) (lower (before ++ cs ++ after)) = true) :
    KeepsSigmas before cs after := by
  obtain ⟨front, behind, hsplit⟩ := occursIn_iff.mp hoccurs
  have hcharacters := forall₂_lowerWithin_iff (R := fun d e => d = e ∨ e = form)
    (fun _ => Or.inl rfl) [] before.reverse after cs
  have hcount := congrArg (List.count form) hsplit
  rw [lower_append_append] at hcount
  simp only [List.count_append, List.count_eq_zero.mpr hbefore,
    List.count_eq_zero.mpr hafter] at hcount
  rw [← lowerWithin_eq_lower_iff]
  refine eq_of_forall₂_of_count_le (hcharacters.mpr ?_) (by omega)
  intro left right _
  simpa using hforms left right

/-- A text that is found in front of a letter and behind one keeps its sigmas in every text. -/
theorem keepsSigmas_of_occursIn_letter {cs : List Char}
    (hbehind : occursIn (lower cs) (lower (cs ++ ['a'])) = true)
    (hfront : occursIn (lower cs) (lower (['a'] ++ cs)) = true) (before after : List Char) :
    KeepsSigmas before cs after := by
  have hletter : ∀ c ∈ ['a'], IsSettled c := List.forall_mem_singleton.mpr (by decide)
  apply keepsSigmas_of_letter
  · apply keepsSigmas_of_occursIn '\u03C2'
    · intro left right
      exact lowerSigma_append_behind left.reverse right ['a']
    · simp [lowerWithin]
    · rw [lowerFrom_of_isSettled hletter]
      decide
    · exact hbehind
  · apply keepsSigmas_of_occursIn '\u03C3'
    · intro left right
      simpa using lowerSigma_append_front left.reverse right ['a']
    · have hfirst : lowerWithin [] (cs ++ []) ['a'] = ['a'] := by
        simp [lowerWithin, lowerAt, (hletter 'a' List.mem_cons_self).2]
      rw [hfirst]
      decide
    · simp [lowerFrom]
    · simpa using hfront

end Text

/-! ## Subjects that are mentioned -/

namespace Subject

theorem isMentioned_iff (subject : Subject) (cs : List Char) :
    subject.isMentioned cs = true ↔ ∃ keyword ∈ subject.keywords, keyword ≠ "" ∧
      Text.occursIn (Text.lower keyword.toList) cs = true := by
  simp [isMentioned]

theorem isMentioned_nil (subject : Subject) : subject.isMentioned [] = false := by
  rw [Bool.eq_false_iff, ne_eq, isMentioned_iff]
  rintro ⟨keyword, -, hsome, hoccurs⟩
  have hnone : Text.lower keyword.toList = [] := List.isEmpty_iff.mp hoccurs
  exact Text.lower_ne_nil (by simpa using hsome) hnone

end Subject

namespace Registry

variable {registry : Registry} {subject : Subject} {keyword : String}

/-- A text without characters needs no care of its own: nothing is found in it. -/
theorem mentioned_eq_filter (registry : Registry) (text : String) :
    registry.mentioned text =
      registry.subjects.filter (·.isMentioned (Text.lower text.toList)) := by
  simp only [mentioned]
  split
  · rename_i hnone
    rw [List.isEmpty_iff.mp hnone, eq_comm, List.filter_eq_nil_iff]
    simp [Subject.isMentioned_nil]
  · rfl

theorem mem_mentioned_iff {text : String} :
    subject ∈ registry.mentioned text ↔ subject ∈ registry.subjects ∧
      ∃ keyword ∈ subject.keywords, keyword ≠ "" ∧
        Text.occursIn (Text.lower keyword.toList) (Text.lower text.toList) = true := by
  rw [mentioned_eq_filter, List.mem_filter, Subject.isMentioned_iff]

/-- A text mentions the same subjects in lower case. -/
theorem mentioned_lowered (registry : Registry) (text : String) :
    registry.mentioned (Text.lowered text) = registry.mentioned text := by
  simp [mentioned_eq_filter, Text.lowered]

theorem mem_mentioned_of_keepsSigmas (hsubject : subject ∈ registry.subjects)
    (hkeyword : keyword ∈ subject.keywords) (hsome : keyword ≠ "") {before after : String}
    (hkeeps : Text.KeepsSigmas before.toList keyword.toList after.toList) :
    subject ∈ registry.mentioned (before ++ keyword ++ after) := by
  refine mem_mentioned_iff.mpr ⟨hsubject, keyword, hkeyword, hsome, ?_⟩
  rw [String.toList_append, String.toList_append, Text.lower_append_append,
    Text.lowerWithin_eq_lower_iff.mpr hkeeps, Text.occursIn_iff]
  exact ⟨_, _, rfl⟩

/-- The only keyword of a subject that is mentioned wherever it stands keeps its sigmas. -/
theorem keepsSigmas_of_forall_mem_mentioned (honly : subject.keywords = [keyword])
    (hall : ∀ before after : String, subject ∈ registry.mentioned (before ++ keyword ++ after))
    (before after : List Char) : Text.KeepsSigmas before keyword.toList after := by
  have hoccurs : ∀ front behind : String, Text.occursIn (Text.lower keyword.toList)
      (Text.lower (front.toList ++ keyword.toList ++ behind.toList)) = true := by
    intro front behind
    obtain ⟨-, other, hother, -, hoccurs⟩ := mem_mentioned_iff.mp (hall front behind)
    rw [honly, List.mem_singleton] at hother
    rwa [hother, String.toList_append, String.toList_append] at hoccurs
  have hbehind := hoccurs "" "a"
  have hfront := hoccurs "a" ""
  exact Text.keepsSigmas_of_occursIn_letter (by simpa using hbehind) (by simpa using hfront) _ _

/-- A text that contains a keyword mentions its subject, if the sigmas of the keyword keep their
form in the text.  This is always so for a keyword without a capital sigma.  A subject with one
keyword is mentioned by every text that contains the keyword exactly if its sigmas keep their form
in every text. -/
theorem mem_mentioned_append_and_iff (hsubject : subject ∈ registry.subjects)
    (hkeyword : keyword ∈ subject.keywords) (hsome : keyword ≠ "") :
    (∀ before after : String,
      Text.KeepsSigmas before.toList keyword.toList after.toList →
        subject ∈ registry.mentioned (before ++ keyword ++ after)) ∧
    ('\u03A3' ∉ keyword.toList →
      ∀ before after : String, subject ∈ registry.mentioned (before ++ keyword ++ after)) ∧
    (subject.keywords = [keyword] →
      ((∀ before after : String, subject ∈ registry.mentioned (before ++ keyword ++ after)) ↔
        ∀ before after : String,
          Text.KeepsSigmas before.toList keyword.toList after.toList)) := by
  have hfound : ∀ before after : String,
      Text.KeepsSigmas before.toList keyword.toList after.toList →
        subject ∈ registry.mentioned (before ++ keyword ++ after) := by
    intro before after hkeeps
    exact mem_mentioned_of_keepsSigmas hsubject hkeyword hsome hkeeps
  refine ⟨hfound, ?_, ?_⟩
  · intro hnone before after
    exact hfound before after (Text.keepsSigmas_of_not_mem hnone _ _)
  · intro honly
    constructor
    · intro hall before after
      exact keepsSigmas_of_forall_mem_mentioned honly hall before.toList after.toList
    · intro hkeeps before after
      exact hfound before after (hkeeps before after)

/-- A road that is called by a Greek word in capitals. -/
def road : Subject where
  name := "road"
  keywords := ["ΟΔΟΣ"]

/-- The sigma at the end of the word for the road keeps its form in front of a mark and a blank. -/
theorem mem_mentioned_append_and_iff_road :
    Text.KeepsSigmas "Η ".toList "ΟΔΟΣ".toList "! ".toList ∧
      road ∈ (Registry.mk [road]).mentioned ("Η " ++ "ΟΔΟΣ" ++ "! ") := by
  have hkeeps : Text.KeepsSigmas "Η ".toList "ΟΔΟΣ".toList "! ".toList := by
    decide +kernel
  have hsubject : road ∈ (Registry.mk [road]).subjects := List.mem_cons_self
  have hmentioned := mem_mentioned_append_and_iff hsubject List.mem_cons_self (by decide)
  exact ⟨hkeeps, hmentioned.1 _ _ hkeeps⟩

/-- The word for the road is not found in the longer word for a road sign. -/
theorem exists_keyword_not_mentioned :
    ∃ (registry : Registry) (subject : Subject) (keyword before after : String),
      subject ∈ registry.subjects ∧ keyword ∈ subject.keywords ∧ keyword ≠ "" ∧
        subject ∉ registry.mentioned (before ++ keyword ++ after) :=
  ⟨⟨[road]⟩, road, "ΟΔΟΣ", "", "ΗΜΟ", List.mem_cons_self,
    List.mem_cons_self, by decide, by decide +kernel⟩

end Registry

end TextAdventure
