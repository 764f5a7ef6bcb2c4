import Mathlib.Data.List.Infix
import Mathlib.Data.List.Induction
import Mathlib.Data.List.Nodup
import Mathlib.Data.List.TakeWhile
import Mathlib.Data.Prod.Lex
import Mathlib.Order.WellFounded
import TextAdventure.Registry

/-!
# The listing of verbs

The help listing names every verb that a subject declares, be it secret or not, and names it once.
The order is that of the declarations.  They are read subject by subject, and in a subject the
built-in actions come before the words of its own actions, so each declaration has a place, and
places are compared like entries of a dictionary.  A verb is listed before another one if the first
of its places comes before the first place of the other.
-/

namespace TextAdventure

/-! ## Repeated words -/

section RepeatedWords

variable {words front : List String} {early : String → Prop} {word other : String}

/-- One more word is put behind the words that have been kept, unless it has been read before. -/
theorem eraseDups_concat (words : List String) (word : String) :
    (words ++ [word]).eraseDups =
      if word ∈ words then words.eraseDups else words.eraseDups ++ [word] := by
  rw [List.eraseDups_append, List.removeAll]
  split
  · rename_i hread
    simp [hread]
  · rename_i hunread
    simp [hunread, List.eraseDups_cons]

theorem nodup_eraseDups (words : List String) : words.eraseDups.Nodup := by
  -- Words are kept one by one from the front, so the induction takes the last one away.
  induction words using List.reverseRecOn with
  | nil => exact List.nodup_nil
  | append_singleton words word ih =>
      rw [eraseDups_concat]
      split
      · exact ih
      · rename_i hunread
        have hunlisted : word ∉ words.eraseDups := by rwa [List.mem_eraseDups]
        rw [← List.concat_eq_append]
        exact ih.concat hunlisted

/-- What has been kept of the words in front stays as it is, whatever follows. -/
theorem eraseDups_prefix (hfront : front <+: words) : front.eraseDups <+: words.eraseDups := by
  obtain ⟨behind, rfl⟩ := hfront
  rw [List.eraseDups_append]
  exact List.prefix_append _ _

/-- The words are read from the front until the word is reached, and all that is read is early. -/
def ReachedIn (words : List String) (early : String → Prop) (word : String) : Prop :=
  ∃ front, front <+: words ∧ word ∈ front ∧ ∀ other ∈ front, early other

namespace ReachedIn

theorem mono {late : String → Prop} (hreached : ReachedIn words early word)
    (hlate : ∀ other, early other → late other) : ReachedIn words late word := by
  obtain ⟨front, hfront, hword, hearly⟩ := hreached
  exact ⟨front, hfront, hword, fun other hother => hlate other (hearly other hother)⟩

theorem append_right (hreached : ReachedIn words early word) (behind : List String) :
    ReachedIn (words ++ behind) early word := by
  obtain ⟨front, hfront, hword, hearly⟩ := hreached
  exact ⟨front, hfront.trans (List.prefix_append words behind), hword, hearly⟩

theorem append_left {ahead : List String} (hreached : ReachedIn words early word)
    (hahead : ∀ other ∈ ahead, early other) : ReachedIn (ahead ++ words) early word := by
  obtain ⟨front, hfront, hword, hearly⟩ := hreached
  refine ⟨ahead ++ front, (List.prefix_append_right_inj ahead).mpr hfront,
    List.mem_append_right ahead hword, ?_⟩
  intro other hother
  rcases List.mem_append.mp hother with hother | hother
  · exact hahead other hother
  · exact hearly other hother

/-- The words of one part are reached while the words of the parts before it are early. -/
theorem flatMap {α : Type} {parts : List α} {part : α} {index : ℕ} {wordsOf : α → List String}
    (hpart : parts[index]? = some part) (hreached : ReachedIn (wordsOf part) early word)
    (hahead : ∀ earlier < index, ∀ passed, parts[earlier]? = some passed →
      ∀ other ∈ wordsOf passed, early other) :
    ReachedIn (parts.flatMap wordsOf) early word := by
  obtain ⟨hindex, rfl⟩ := List.getElem?_eq_some_iff.mp hpart
  rw [← List.take_append_drop index parts, List.drop_eq_getElem_cons hindex, List.flatMap_append,
    List.flatMap_cons]
  refine (hreached.append_right _).append_left ?_
  intro other hother
  obtain ⟨passed, hpassed, hother⟩ := List.mem_flatMap.mp hother
  obtain ⟨earlier, hearlier, rfl⟩ := List.mem_take_iff_getElem.mp hpassed
  exact hahead earlier (by omega) _ (List.getElem?_eq_getElem (by omega)) other hother

theorem of_getElem? {index : ℕ} (hword : words[index]? = some word) :
    ReachedIn words (fun other => ∃ earlier ≤ index, words[earlier]? = some other) word := by
  obtain ⟨hindex, rfl⟩ := List.getElem?_eq_some_iff.mp hword
  refine ⟨words.take (index + 1), List.take_prefix _ _, ?_, ?_⟩
  · exact List.mem_take_iff_getElem.mpr ⟨index, by omega, rfl⟩
  · intro other hother
    obtain ⟨earlier, hearlier, rfl⟩ := List.mem_take_iff_getElem.mp hother
    exact ⟨earlier, by omega, List.getElem?_eq_getElem (by omega)⟩

/-- A word that is reached while the other one has not been read is kept in front of it. -/
theorem idxOf_eraseDups_lt (hreached : ReachedIn words early word) (hlate : ¬early other) :
    words.eraseDups.idxOf word < words.eraseDups.idxOf other := by
  obtain ⟨front, hfront, hword, hearly⟩ := hreached
  obtain ⟨behind, hbehind⟩ := eraseDups_prefix hfront
  have hlisted : word ∈ front.eraseDups := List.mem_eraseDups.mpr hword
  have hunlisted : other ∉ front.eraseDups := fun hother =>
    hlate (hearly other (List.mem_eraseDups.mp hother))
  rw [← hbehind, List.idxOf_append_of_mem hlisted, List.idxOf_append_of_notMem hunlisted]
  exact Nat.lt_add_right _ (List.idxOf_lt_length_of_mem hlisted)

end ReachedIn

end RepeatedWords

/-! ## The declarations of a subject -/

namespace Subject

/-- The subject offers the verb: it has the built-in action of that name, or it can be used with
something, or one of its own actions lists the verb. -/
inductive Offers (subject : Subject) : String → Prop
  | go (hgo : subject.go.isSome) : Offers subject "go"
  | look (hlook : subject.look.isSome) : Offers subject "look"
  | take (htake : subject.take.isSome) : Offers subject "take"
  | remember (hremember : subject.remember.isSome) : Offers subject "remember"
  | use (huses : subject.uses ≠ []) : Offers subject "use"
  | own {word : String} {custom : CustomAction} (hcustom : custom ∈ subject.customActions)
      (hword : word ∈ custom.verbs) : Offers subject word

/-- Where a subject declares a verb: at a built-in action, or at a word of an action of its own,
which are counted from zero. -/
inductive Slot where
  | go
  | look
  | take
  | remember
  | use
  | own (action verb : ℕ)
  deriving Repr

namespace Slot

/-- Slots are compared by the built-in action, then by the subject's own action and by the word. -/
def rank : Slot → ℕ ×ₗ ℕ ×ₗ ℕ
  | go => toLex (0, toLex (0, 0))
  | look => toLex (1, toLex (0, 0))
  | take => toLex (2, toLex (0, 0))
  | remember => toLex (3, toLex (0, 0))
  | use => toLex (4, toLex (0, 0))
  | own action verb => toLex (5, toLex (action, verb))

theorem rank_injective : Function.Injective rank := by
  intro slot other hrank
  cases slot <;> cases other <;> simp_all [rank]

instance : LinearOrder Slot := LinearOrder.lift' rank rank_injective

instance : WellFoundedLT Slot := ⟨InvImage.wf rank wellFounded_lt⟩

/-- The slots of the built-in actions. -/
def builtins : List Slot := [go, look, take, remember, use]

theorem mem_builtins_or_eq_own (slot : Slot) :
    slot ∈ builtins ∨ ∃ action verb, slot = own action verb := by
  cases slot with
  | go | look | take | remember | use => exact Or.inl (by decide)
  | own action verb => exact Or.inr ⟨action, verb, rfl⟩

theorem own_le_own_iff {action verb otherAction otherVerb : ℕ} :
    own action verb ≤ own otherAction otherVerb ↔
      action < otherAction ∨ action = otherAction ∧ verb ≤ otherVerb := by
  change rank (own action verb) ≤ rank (own otherAction otherVerb) ↔ _
  simp [rank, Prod.Lex.toLex_le_toLex]

theorem le_own_of_mem_builtins {slot : Slot} (hslot : slot ∈ builtins) (action verb : ℕ) :
    slot ≤ own action verb := by
  change rank slot ≤ rank (own action verb)
  simp only [builtins, List.mem_cons, List.not_mem_nil, or_false] at hslot
  rcases hslot with rfl | rfl | rfl | rfl | rfl
  all_goals simp [rank, Prod.Lex.toLex_le_toLex]

end Slot

/-- The verb that is declared at a slot. -/
def verbAt? (subject : Subject) : Slot → Option String
  | .go => if subject.go.isSome then some "go" else none
  | .look => if subject.look.isSome then some "look" else none
  | .take => if subject.take.isSome then some "take" else none
  | .remember => if subject.remember.isSome then some "remember" else none
  | .use => if subject.uses ≠ [] then some "use" else none
  | .own action verb => subject.customActions[action]?.bind (·.verbs[verb]?)

variable {subject : Subject} {slot : Slot} {word : String}

theorem Offers.exists_verbAt? (hoffers : subject.Offers word) :
    ∃ slot, subject.verbAt? slot = some word := by
  cases hoffers with
  | go hgo => exact ⟨.go, if_pos hgo⟩
  | look hlook => exact ⟨.look, if_pos hlook⟩
  | take htake => exact ⟨.take, if_pos htake⟩
  | remember hremember => exact ⟨.remember, if_pos hremember⟩
  | use huses => exact ⟨.use, if_pos huses⟩
  | own hcustom hword =>
      obtain ⟨action, haction⟩ := List.mem_iff_getElem?.mp hcustom
      obtain ⟨verb, hverb⟩ := List.mem_iff_getElem?.mp hword
      exact ⟨.own action verb, by simp [verbAt?, haction, hverb]⟩

theorem offers_of_verbAt? (hslot : subject.verbAt? slot = some word) :
    subject.Offers word := by
  cases slot with
  | own action verb =>
      obtain ⟨custom, haction, hverb⟩ := Option.bind_eq_some_iff.mp hslot
      exact .own (List.mem_of_getElem? haction) (List.mem_of_getElem? hverb)
  | go | look | take | remember | use =>
      rw [verbAt?, Option.ite_none_right_eq_some, Option.some_inj] at hslot
      obtain ⟨hdeclared, rfl⟩ := hslot
      constructor
      exact hdeclared

/-- The built-in verbs are read off the slots of the built-in actions. -/
theorem builtinVerbs_eq (subject : Subject) :
    subject.builtinVerbs = Slot.builtins.filterMap subject.verbAt? := by
  simp [builtinVerbs, Slot.builtins, List.filterMap_cons, verbAt?]

theorem mem_builtinVerbs_iff :
    word ∈ subject.builtinVerbs ↔ ∃ slot ∈ Slot.builtins, subject.verbAt? slot = some word := by
  rw [builtinVerbs_eq, List.mem_filterMap]

theorem mem_declaredVerbs_iff : word ∈ subject.declaredVerbs ↔ subject.Offers word := by
  rw [declaredVerbs, List.mem_append, mem_builtinVerbs_iff, List.mem_flatMap]
  constructor
  · rintro (⟨slot, -, hslot⟩ | ⟨custom, hcustom, hword⟩)
    · exact offers_of_verbAt? hslot
    · exact .own hcustom hword
  · intro hoffers
    obtain ⟨slot, hslot⟩ := hoffers.exists_verbAt?
    rcases slot.mem_builtins_or_eq_own with hbuiltin | ⟨action, verb, rfl⟩
    · exact Or.inl ⟨slot, hbuiltin, hslot⟩
    · obtain ⟨custom, hcustom, hword⟩ := Option.bind_eq_some_iff.mp hslot
      exact Or.inr ⟨custom, List.mem_of_getElem? hcustom, List.mem_of_getElem? hword⟩

/-! ### Reading a subject -/

/-- The subject offers the verb at the slot or before it. -/
def OffersBy (subject : Subject) (slot : Slot) (word : String) : Prop :=
  ∃ earlier ≤ slot, subject.verbAt? earlier = some word

theorem reachedIn_builtinVerbs (hbuiltin : slot ∈ Slot.builtins)
    (hslot : subject.verbAt? slot = some word) :
    ReachedIn subject.builtinVerbs (subject.OffersBy slot) word := by
  have hreads : ∀ slot ∈ Slot.builtins, slot ∈ Slot.builtins.takeWhile (· ≤ slot) := by decide
  refine ⟨(Slot.builtins.takeWhile (· ≤ slot)).filterMap subject.verbAt?, ?_, ?_, ?_⟩
  · rw [builtinVerbs_eq]
    exact (List.takeWhile_prefix _).filterMap _
  · exact List.mem_filterMap.mpr ⟨slot, hreads slot hbuiltin, hslot⟩
  · intro other hother
    obtain ⟨earlier, hearlier, hverb⟩ := List.mem_filterMap.mp hother
    exact ⟨earlier, by simpa using List.mem_takeWhile_imp hearlier, hverb⟩

theorem reachedIn_customVerbs {action verb : ℕ}
    (hslot : subject.verbAt? (.own action verb) = some word) :
    ReachedIn (subject.customActions.flatMap (·.verbs)) (subject.OffersBy (.own action verb))
      word := by
  obtain ⟨custom, hcustom, hword⟩ := Option.bind_eq_some_iff.mp hslot
  refine ReachedIn.flatMap hcustom ((ReachedIn.of_getElem? hword).mono ?_) ?_
  · rintro other ⟨earlier, hearlier, hother⟩
    refine ⟨.own action earlier, Slot.own_le_own_iff.mpr (Or.inr ⟨rfl, hearlier⟩), ?_⟩
    simp [verbAt?, hcustom, hother]
  · intro earlier hearlier passed hpassed other hother
    obtain ⟨index, hindex⟩ := List.mem_iff_getElem?.mp hother
    refine ⟨.own earlier index, Slot.own_le_own_iff.mpr (Or.inl hearlier), ?_⟩
    simp [verbAt?, hpassed, hindex]

/-- A verb is reached while all verbs that have been read are declared no later. -/
theorem reachedIn_declaredVerbs (hslot : subject.verbAt? slot = some word) :
    ReachedIn subject.declaredVerbs (subject.OffersBy slot) word := by
  rcases slot.mem_builtins_or_eq_own with hbuiltin | ⟨action, verb, rfl⟩
  · exact (reachedIn_builtinVerbs hbuiltin hslot).append_right _
  · refine (reachedIn_customVerbs hslot).append_left ?_
    intro other hother
    obtain ⟨earlier, hearlier, hother⟩ := mem_builtinVerbs_iff.mp hother
    exact ⟨earlier, Slot.le_own_of_mem_builtins hearlier action verb, hother⟩

end Subject

/-! ## The declarations at hand -/

/-- Where a verb is declared: the subject, counted from zero, and the slot in it. -/
structure Place where
  subject : ℕ
  slot : Subject.Slot
  deriving Repr

namespace Place

/-- Places are compared by the subject, and by the slot in the same subject. -/
def key (place : Place) : ℕ ×ₗ Subject.Slot :=
  toLex (place.subject, place.slot)

theorem key_injective : Function.Injective key := by
  intro place other hkey
  cases place; cases other
  simpa [key] using hkey

instance : LinearOrder Place := LinearOrder.lift' key key_injective

instance : WellFoundedLT Place := ⟨InvImage.wf key wellFounded_lt⟩

theorem le_iff {place other : Place} :
    place ≤ other ↔
      place.subject < other.subject ∨ place.subject = other.subject ∧ place.slot ≤ other.slot :=
  Prod.Lex.toLex_le_toLex

end Place

namespace Registry

variable {registry : Registry} {place : Place} {word : String}

/-- The verb that is declared at a place. -/
def verbAt? (registry : Registry) (place : Place) : Option String :=
  registry.subjects[place.subject]?.bind (·.verbAt? place.slot)

/-- The place is the first one at which the verb is declared. -/
structure FirstAt (registry : Registry) (place : Place) (word : String) : Prop where
  declared : registry.verbAt? place = some word
  least : ∀ other, registry.verbAt? other = some word → place ≤ other

theorem exists_verbAt?_iff :
    (∃ place, registry.verbAt? place = some word) ↔
      ∃ subject ∈ registry.subjects, subject.Offers word := by
  constructor
  · rintro ⟨place, hplace⟩
    obtain ⟨subject, hsubject, hslot⟩ := Option.bind_eq_some_iff.mp hplace
    exact ⟨subject, List.mem_of_getElem? hsubject, Subject.offers_of_verbAt? hslot⟩
  · rintro ⟨subject, hsubject, hoffers⟩
    obtain ⟨index, hindex⟩ := List.mem_iff_getElem?.mp hsubject
    obtain ⟨slot, hslot⟩ := hoffers.exists_verbAt?
    exact ⟨⟨index, slot⟩, by simp [verbAt?, hindex, hslot]⟩

theorem mem_availableVerbs_iff :
    word ∈ registry.availableVerbs ↔
      ∃ subject ∈ registry.subjects, subject.Offers word := by
  rw [availableVerbs, List.mem_eraseDups, List.mem_flatMap]
  simp only [Subject.mem_declaredVerbs_iff]

theorem exists_firstAt (hword : word ∈ registry.availableVerbs) :
    ∃ place, registry.FirstAt place word := by
  have hplaces : {place | registry.verbAt? place = some word}.Nonempty :=
    exists_verbAt?_iff.mpr (mem_availableVerbs_iff.mp hword)
  obtain ⟨place, hplace, hleast⟩ :=
    (wellFounded_lt : WellFounded ((· < ·) : Place → Place → Prop)).has_min _ hplaces
  exact ⟨place, hplace, fun other hother => not_lt.mp (hleast other hother)⟩

/-- A verb is reached while all verbs that have been read are declared no later. -/
theorem reachedIn_declaredVerbs (hplace : registry.verbAt? place = some word) :
    ReachedIn (registry.subjects.flatMap (·.declaredVerbs))
      (fun other => ∃ earlier ≤ place, registry.verbAt? earlier = some other) word := by
  obtain ⟨subject, hsubject, hslot⟩ := Option.bind_eq_some_iff.mp hplace
  refine ReachedIn.flatMap hsubject ((Subject.reachedIn_declaredVerbs hslot).mono ?_) ?_
  · rintro other ⟨earlier, hearlier, hother⟩
    refine ⟨⟨place.subject, earlier⟩, Place.le_iff.mpr (Or.inr ⟨rfl, hearlier⟩), ?_⟩
    simp [verbAt?, hsubject, hother]
  · intro earlier hearlier passed hpassed other hother
    obtain ⟨slot, hother⟩ := (Subject.mem_declaredVerbs_iff.mp hother).exists_verbAt?
    refine ⟨⟨earlier, slot⟩, Place.le_iff.mpr (Or.inl hearlier), ?_⟩
    simp [verbAt?, hpassed, hother]

variable {otherPlace : Place} {other : String}

theorem FirstAt.idxOf_lt (hword : registry.FirstAt place word)
    (hother : registry.FirstAt otherPlace other) (hbefore : place < otherPlace) :
    registry.availableVerbs.idxOf word < registry.availableVerbs.idxOf other := by
  apply (reachedIn_declaredVerbs hword.declared).idxOf_eraseDups_lt
  -- When the first place of the word is reached, the other word has not been read anywhere.
  rintro ⟨earlier, hearlier, hdeclared⟩
  have hlate : place < earlier := hbefore.trans_le (hother.least earlier hdeclared)
  exact absurd hearlier hlate.not_ge

theorem FirstAt.idxOf_lt_iff (hword : registry.FirstAt place word)
    (hother : registry.FirstAt otherPlace other) :
    registry.availableVerbs.idxOf word < registry.availableVerbs.idxOf other ↔
      place < otherPlace := by
  constructor
  · intro hlisted
    rcases lt_trichotomy place otherPlace with hbefore | rfl | hbehind
    · exact hbefore
    · have hsame : word = other := Option.some.inj (hword.declared.symm.trans hother.declared)
      rw [hsame] at hlisted
      exact absurd hlisted (lt_irrefl _)
    · exact absurd (hother.idxOf_lt hword hbehind) hlisted.not_gt
  · exact hword.idxOf_lt hother

/-- The listing names no verb twice.  It names a verb exactly if a subject declares it, and then the
verb is declared first at some place.  The verb that is declared first at the earlier place is the
one that is listed earlier. -/
theorem nodup_availableVerbs_and_mem_iff_and_idxOf_lt_iff (registry : Registry) :
    registry.availableVerbs.Nodup ∧
      (∀ word, word ∈ registry.availableVerbs ↔
        ∃ subject ∈ registry.subjects, subject.Offers word) ∧
      (∀ word ∈ registry.availableVerbs, ∃ place, registry.FirstAt place word) ∧
      ∀ {place otherPlace word other},
        registry.FirstAt place word → registry.FirstAt otherPlace other →
          (registry.availableVerbs.idxOf word < registry.availableVerbs.idxOf other ↔
            place < otherPlace) := by
  refine ⟨nodup_eraseDups _, fun word => mem_availableVerbs_iff, fun word => exists_firstAt, ?_⟩
  intro place otherPlace word other hword hother
  exact hword.idxOf_lt_iff hother

/-- A rose that has a word of its own for taking it. -/
def pottedRose : Subject where
  name := "rose"
  look := some "Red."
  customActions := [{ verbs := ["smell", "take"] }]

/-- A cheese that is not shown, and declares taking as a built-in action. -/
def oldCheese : Subject where
  name := "cheese"
  secret := true
  look := some "Old."
  take := some { enabled := true }
  remember := some {}
  customActions := [{ verbs := ["smell", "eat"] }]

/-- The rose and the cheese are at hand. -/
def pantry : Registry := ⟨[pottedRose, oldCheese]⟩

theorem firstAt_take_pantry : pantry.FirstAt ⟨0, .own 0 1⟩ "take" := by
  refine ⟨rfl, ?_⟩
  rintro ⟨_ | subject, slot⟩ hother
  · have hrose : pottedRose.verbAt? slot = some "take" := hother
    refine Place.le_iff.mpr (Or.inr ⟨rfl, ?_⟩)
    rcases slot.mem_builtins_or_eq_own with hbuiltin | ⟨action, verb, rfl⟩
    · exact absurd (Subject.mem_builtinVerbs_iff.mpr ⟨slot, hbuiltin, hrose⟩) (by decide)
    · have hsmell : ¬(action = 0 ∧ verb = 0) := by
        rintro ⟨rfl, rfl⟩
        exact absurd hrose (by decide)
      exact Subject.Slot.own_le_own_iff.mpr (by omega)
  · exact Place.le_iff.mpr (Or.inl subject.succ_pos)

theorem firstAt_remember_pantry : pantry.FirstAt ⟨1, .remember⟩ "remember" := by
  refine ⟨rfl, ?_⟩
  rintro ⟨_ | _ | subject, slot⟩ hother
  · have hrose : pottedRose.verbAt? slot = some "remember" := hother
    have hdeclared : "remember" ∈ pottedRose.declaredVerbs :=
      Subject.mem_declaredVerbs_iff.mpr (Subject.offers_of_verbAt? hrose)
    exact absurd hdeclared (by decide)
  · refine Place.le_iff.mpr (Or.inr ⟨rfl, ?_⟩)
    cases slot with
    | go | look | take => exact absurd hother (by decide)
    | remember | use => decide
    | own action verb => exact Subject.Slot.le_own_of_mem_builtins (by decide) action verb
  · exact Place.le_iff.mpr (Or.inl (Nat.succ_lt_succ subject.succ_pos))

/-- Taking is listed in front of remembering, since it is a word of the rose's own. -/
theorem nodup_availableVerbs_and_mem_iff_and_idxOf_lt_iff_pantry :
    pantry.availableVerbs = ["look", "smell", "take", "remember", "eat"] ∧
      pantry.FirstAt ⟨0, .own 0 1⟩ "take" ∧ pantry.FirstAt ⟨1, .remember⟩ "remember" ∧
      pantry.availableVerbs.idxOf "take" < pantry.availableVerbs.idxOf "remember" := by
  have hearlier : (⟨0, .own 0 1⟩ : Place) < ⟨1, .remember⟩ := by decide
  have horder := nodup_availableVerbs_and_mem_iff_and_idxOf_lt_iff pantry
  exact ⟨by decide, firstAt_take_pantry, firstAt_remember_pantry,
    (horder.2.2.2 firstAt_take_pantry firstAt_remember_pantry).mpr hearlier⟩

end Registry

end TextAdventure
