import Mathlib.Data.List.Induction
import TextAdventure.CommandLine

/-!
# The grammar of a call

A call is a sequence of items: options that stand alone, options with their file, and at most one
story.  The words of a call are read from left to right, and an option takes the next word for its
file whatever that word is, so what a word stands for depends on all words in front of it.  A call
is accepted exactly if its words are those of such a sequence, and then it asks for what the items
ask for, in whatever order they stand; only files for the same option must keep theirs.  A call that
is not accepted is refused for the first item that breaks the grammar.
-/

namespace TextAdventure

/-! ## Items -/

/-- The words that stand for an option without a file. -/
def Switch.spellings : Switch → List String
  | .help => ["-h", "--help"]
  | .version => ["-V", "--version"]
  | .verboseErrors => ["--verbose-errors"]
  | .noHelpCommand => ["--no-help-command"]

/-- The word that stands for an option with a file. -/
def FileOption.spelling : FileOption → String
  | .script => "--script"
  | .load => "--load"

/-- A word that begins like an option. -/
def IsDashed (word : String) : Prop :=
  word.toList.head? = some '-'

instance : DecidablePred IsDashed := fun _ => inferInstanceAs (Decidable (_ = _))

/-- A part of a call. -/
inductive CallItem where
  | switch (option : Switch) (word : String) (hspelled : word ∈ option.spellings)
  | file (option : FileOption) (path : String)
  | story (path : String) (hplain : ¬IsDashed path)
  deriving DecidableEq

namespace CallItem

/-- How an item is written. -/
def words : CallItem → List String
  | switch _ word _ => [word]
  | file option path => [option.spelling, path]
  | story path _ => [path]

/-- The option that an item sets, if it stands alone. -/
def switch? : CallItem → Option Switch
  | switch option _ _ => some option
  | _ => none

/-- The option for which an item gives a file. -/
def fileOption? : CallItem → Option FileOption
  | file option _ => some option
  | _ => none

/-- The file that an item gives for an option. -/
def file? (option : FileOption) : CallItem → Option String
  | file other path => if other = option then some path else none
  | _ => none

/-- The story that an item gives. -/
def story? : CallItem → Option String
  | story path _ => some path
  | _ => none

/-- At most one of the items is a story. -/
def IsCall (items : List CallItem) : Prop :=
  (items.filterMap story?).length ≤ 1

instance (items : List CallItem) : Decidable (IsCall items) :=
  inferInstanceAs (Decidable (_ ≤ _))

/-- The word begins like an option, and stands for none. -/
structure IsUnknown (word : String) : Prop where
  dashed : IsDashed word
  not_switch : ∀ option : Switch, word ∉ option.spellings
  not_file : ∀ option : FileOption, word ≠ option.spelling

/-- Behind the items these words go on with something that is no further item of a call. -/
inductive Breaks (items : List CallItem) : List String → UsageError → Prop where
  | missingFile (option : FileOption) :
      Breaks items [option.spelling] (.missingFile option.spelling)
  | unknownOption {word : String} {rest : List String} (hunknown : IsUnknown word) :
      Breaks items (word :: rest) (.unknownOption word)
  | unexpectedArgument {word : String} {rest : List String} (hplain : ¬IsDashed word)
      (hagain : ∃ item ∈ items, item.story?.isSome) :
      Breaks items (word :: rest) (.unexpectedArgument word)

end CallItem

namespace Arguments

/-- An option that stands alone is set. -/
def isSet (arguments : Arguments) : Switch → Bool
  | .help => arguments.showHelp
  | .version => arguments.showVersion
  | .verboseErrors => arguments.verboseErrors
  | .noHelpCommand => arguments.noHelpCommand

/-- The file that is given for an option. -/
def file? (arguments : Arguments) : FileOption → Option String
  | .script => arguments.script
  | .load => arguments.load

/-- What is asked for is what the items ask for: the options that they set, the last file that they
give for an option, and the story that they give. -/
structure AskedBy (arguments : Arguments) (items : List CallItem) : Prop where
  isSet_iff : ∀ option, arguments.isSet option = true ↔
    ∃ item ∈ items, item.switch? = some option
  file_eq : ∀ option, arguments.file? option =
    (items.filterMap (CallItem.file? option)).getLast?
  story_iff : ∀ path, arguments.story = some path ↔ ∃ item ∈ items, item.story? = some path

variable {arguments other : Arguments} {items : List CallItem}

theorem eq_of_fields (hset : ∀ option, arguments.isSet option = other.isSet option)
    (hfile : ∀ option, arguments.file? option = other.file? option)
    (hstory : arguments.story = other.story) : arguments = other := by
  rw [Arguments.mk.injEq]
  exact ⟨hstory, hfile .script, hfile .load, hset .verboseErrors, hset .noHelpCommand,
    hset .help, hset .version⟩

/-- The items decide what is asked for. -/
theorem AskedBy.unique (harguments : arguments.AskedBy items) (hother : other.AskedBy items) :
    arguments = other := by
  apply eq_of_fields
  · intro option
    rw [Bool.eq_iff_iff, harguments.isSet_iff, hother.isSet_iff]
  · intro option
    rw [harguments.file_eq, hother.file_eq]
  · apply Option.ext
    intro path
    rw [harguments.story_iff, hother.story_iff]

/-! ## What items ask for -/

/-- What is asked for with one more item. -/
def withItem (arguments : Arguments) : CallItem → Arguments
  | .switch option _ _ => arguments.withSwitch option
  | .file option path => arguments.withFile path option
  | .story path _ => { arguments with story := some path }

/-- What items ask for, one after another. -/
def ofItems (items : List CallItem) : Arguments :=
  items.foldl withItem {}

theorem ofItems_append (items : List CallItem) (item : CallItem) :
    ofItems (items ++ [item]) = (ofItems items).withItem item := by
  simp [ofItems]

theorem isSet_withItem (arguments : Arguments) (item : CallItem) (option : Switch) :
    (arguments.withItem item).isSet option = true ↔
      arguments.isSet option = true ∨ item.switch? = some option := by
  cases item with
  | switch other word hspelled =>
      cases other <;> cases option <;> simp [withItem, withSwitch, isSet, CallItem.switch?]
  | file other path =>
      cases other <;> cases option <;> simp [withItem, withFile, isSet, CallItem.switch?]
  | story path hplain =>
      cases option <;> simp [withItem, isSet, CallItem.switch?]

theorem file?_withItem (arguments : Arguments) (item : CallItem) (option : FileOption) :
    (arguments.withItem item).file? option = (item.file? option).or (arguments.file? option) := by
  cases item with
  | switch other word hspelled =>
      cases other <;> cases option <;> rfl
  | file other path =>
      cases other <;> cases option <;> rfl
  | story path hplain =>
      cases option <;> rfl

theorem story_withItem (arguments : Arguments) (item : CallItem) :
    (arguments.withItem item).story = item.story?.or arguments.story := by
  cases item with
  | switch other word hspelled =>
      cases other <;> rfl
  | file other path =>
      cases other <;> rfl
  | story path hplain => rfl

theorem getLast?_filterMap_append {α β : Type} (f : α → Option β) (l : List α) (a : α) :
    ((l ++ [a]).filterMap f).getLast? = (f a).or (l.filterMap f).getLast? := by
  rw [List.filterMap_append, List.getLast?_append]
  cases hf : f a with
  | none => simp [hf]
  | some b => simp [hf]

theorem isSet_ofItems (items : List CallItem) (option : Switch) :
    (ofItems items).isSet option = true ↔ ∃ item ∈ items, item.switch? = some option := by
  induction items using List.reverseRecOn with
  | nil => cases option <;> simp [ofItems, isSet]
  | append_singleton items item ih =>
      rw [ofItems_append, isSet_withItem, ih]
      simp [or_and_right, exists_or]

theorem file?_ofItems (items : List CallItem) (option : FileOption) :
    (ofItems items).file? option = (items.filterMap (CallItem.file? option)).getLast? := by
  induction items using List.reverseRecOn with
  | nil => cases option <;> rfl
  | append_singleton items item ih =>
      rw [ofItems_append, file?_withItem, ih, getLast?_filterMap_append]

theorem story_ofItems (items : List CallItem) :
    (ofItems items).story = (items.filterMap CallItem.story?).getLast? := by
  induction items using List.reverseRecOn with
  | nil => rfl
  | append_singleton items item ih =>
      rw [ofItems_append, story_withItem, ih, getLast?_filterMap_append]

theorem isSome_story_ofItems (items : List CallItem) :
    (ofItems items).story.isSome ↔ ∃ item ∈ items, item.story?.isSome := by
  rw [story_ofItems, List.getLast?_isSome, ne_eq, List.filterMap_eq_nil_iff]
  simp [Option.isSome_iff_ne_none]

theorem askedBy_ofItems (hcall : CallItem.IsCall items) : (ofItems items).AskedBy items where
  isSet_iff := isSet_ofItems items
  file_eq := file?_ofItems items
  story_iff path := by
    rw [story_ofItems, ← List.mem_filterMap]
    rcases hstories : items.filterMap CallItem.story? with _ | ⟨only, others⟩
    · simp
    · rw [CallItem.IsCall, hstories] at hcall
      obtain rfl : others = [] := by simpa using hcall
      simp [eq_comm]

/-! ## Reading items -/

theorem lookup_switches_iff {word : String} {option : Switch} :
    switches.lookup word = some option ↔ word ∈ option.spellings := by
  constructor
  · intro hlookup
    obtain ⟨front, behind, hsplit, -⟩ := List.lookup_eq_some_iff.mp hlookup
    have hall : ∀ entry ∈ switches, entry.1 ∈ entry.2.spellings := by decide
    exact hall (word, option) (by rw [hsplit]; simp)
  · have hall : ∀ option : Switch, ∀ word ∈ option.spellings,
        switches.lookup word = some option := by
      intro option
      cases option <;> decide
    exact hall option word

theorem lookup_fileOptions_iff {word : String} {option : FileOption} :
    fileOptions.lookup word = some option ↔ word = option.spelling := by
  constructor
  · intro hlookup
    obtain ⟨front, behind, hsplit, -⟩ := List.lookup_eq_some_iff.mp hlookup
    have hall : ∀ entry ∈ fileOptions, entry.1 = entry.2.spelling := by decide
    exact hall (word, option) (by rw [hsplit]; simp)
  · rintro rfl
    cases option <;> rfl

theorem lookup_switches_eq_none {word : String}
    (hword : ∀ option : Switch, word ∉ option.spellings) : switches.lookup word = none := by
  rw [Option.eq_none_iff_forall_ne_some]
  intro option hlookup
  exact hword option (lookup_switches_iff.mp hlookup)

theorem lookup_fileOptions_eq_none {word : String}
    (hword : ∀ option : FileOption, word ≠ option.spelling) :
    fileOptions.lookup word = none := by
  rw [Option.eq_none_iff_forall_ne_some]
  intro option hlookup
  exact hword option (lookup_fileOptions_iff.mp hlookup)

theorem isDashed_of_mem_spellings {word : String} {option : Switch}
    (hword : word ∈ option.spellings) : IsDashed word := by
  have hall : ∀ option : Switch, ∀ word ∈ option.spellings, IsDashed word := by
    intro option
    cases option <;> decide
  exact hall option word hword

theorem isDashed_spelling (option : FileOption) : IsDashed option.spelling := by
  cases option <;> decide

theorem spelling_not_mem_spellings (option : FileOption) (other : Switch) :
    option.spelling ∉ other.spellings := by
  cases option <;> cases other <;> decide

theorem lookup_of_plain {word : String} (hplain : ¬IsDashed word) :
    switches.lookup word = none ∧ fileOptions.lookup word = none := by
  constructor
  · exact lookup_switches_eq_none fun _ hword => hplain (isDashed_of_mem_spellings hword)
  · apply lookup_fileOptions_eq_none
    rintro option rfl
    exact hplain (isDashed_spelling option)

theorem lookup_of_spelling (option : FileOption) :
    switches.lookup option.spelling = none ∧
      fileOptions.lookup option.spelling = some option :=
  ⟨lookup_switches_eq_none (spelling_not_mem_spellings option), lookup_fileOptions_iff.mpr rfl⟩

/-- Reading takes an item off the words, unless it is a second story. -/
theorem readFrom_words_append (arguments : Arguments) {item : CallItem}
    (hfree : item.story?.isSome → arguments.story = none) (rest : List String) :
    readFrom arguments (item.words ++ rest) = readFrom (arguments.withItem item) rest := by
  cases item with
  | switch option word hspelled =>
      have hlookup := lookup_switches_iff.mpr hspelled
      rw [CallItem.words, List.singleton_append, readFrom.eq_def]
      simp only [hlookup, withItem]
  | file option path =>
      obtain ⟨hswitch, hlookup⟩ := lookup_of_spelling option
      rw [CallItem.words, List.cons_append, List.singleton_append, readFrom.eq_def]
      simp only [hswitch, hlookup, withItem]
  | story path hplain =>
      obtain ⟨hswitch, hlookup⟩ := lookup_of_plain hplain
      rw [CallItem.words, List.singleton_append, readFrom.eq_def]
      simp only [hswitch, hlookup, if_neg (show ¬path.toList.head? = some '-' from hplain),
        hfree rfl, Option.isSome_none, Bool.false_eq_true, if_false, withItem]

end Arguments

namespace CallItem

variable {items others : List CallItem} {item other : CallItem} {rest left : List String}
variable {error : UsageError}

theorem IsCall.front (hcall : IsCall (items ++ others)) : IsCall items :=
  Nat.le_trans ((List.sublist_append_left items others).filterMap _).length_le hcall

/-- An item that goes on with a call is no second story. -/
theorem IsCall.story_eq_none (hcall : IsCall (items ++ [item])) (hstory : item.story?.isSome) :
    (Arguments.ofItems items).story = none := by
  obtain ⟨path, hpath⟩ := Option.isSome_iff_exists.mp hstory
  rw [IsCall, List.filterMap_append, List.length_append] at hcall
  have hnone : items.filterMap story? = [] := by
    rw [← List.length_eq_zero_iff]
    simp only [List.filterMap_cons, hpath, List.filterMap_nil, List.length_singleton] at hcall
    omega
  rw [Arguments.story_ofItems, hnone, List.getLast?_nil]

theorem IsCall.append_of_story_eq_none (hcall : IsCall items) (hstory : item.story? = none) :
    IsCall (items ++ [item]) := by
  simpa [IsCall, hstory] using hcall

/-- Behind items without a story any item goes on with a call. -/
theorem isCall_append_of_not_exists (hnone : ¬∃ item ∈ items, item.story?.isSome)
    (item : CallItem) : IsCall (items ++ [item]) := by
  have hstories : items.filterMap story? = [] := by
    rw [List.filterMap_eq_nil_iff]
    simpa using hnone
  rw [IsCall, List.filterMap_append, hstories, List.nil_append]
  exact List.length_filterMap_le story? [item]

theorem words_ne_nil (item : CallItem) : item.words ≠ [] := by
  cases item <;> simp [words]

/-- The words of a call are read item by item. -/
theorem IsCall.read_append (hcall : IsCall items) (rest : List String) :
    Arguments.read (items.flatMap words ++ rest) =
      Arguments.readFrom (Arguments.ofItems items) rest := by
  induction items using List.reverseRecOn generalizing rest with
  | nil => rfl
  | append_singleton items item ih =>
      rw [List.flatMap_append, List.append_assoc, List.flatMap_singleton, ih hcall.front,
        Arguments.readFrom_words_append _ hcall.story_eq_none, Arguments.ofItems_append]

theorem IsCall.read_eq_ok (hcall : IsCall items) :
    Arguments.read (items.flatMap words) = .ok (Arguments.ofItems items) := by
  have hread := hcall.read_append []
  rwa [List.append_nil, Arguments.readFrom] at hread

/-- Words that break the grammar are refused. -/
theorem Breaks.readFrom_eq (hbreaks : Breaks items rest error) :
    Arguments.readFrom (Arguments.ofItems items) rest = .error error := by
  cases hbreaks with
  | missingFile option =>
      obtain ⟨hswitch, hlookup⟩ := Arguments.lookup_of_spelling option
      rw [Arguments.readFrom.eq_def]
      simp only [hswitch, hlookup]
  | unknownOption hunknown =>
      have hswitch := Arguments.lookup_switches_eq_none hunknown.not_switch
      have hlookup := Arguments.lookup_fileOptions_eq_none hunknown.not_file
      rw [Arguments.readFrom.eq_def]
      simp only [hswitch, hlookup]
      exact if_pos hunknown.dashed
  | @unexpectedArgument word rest hplain hagain =>
      obtain ⟨hswitch, hlookup⟩ := Arguments.lookup_of_plain hplain
      have hstory := (Arguments.isSome_story_ofItems items).mpr hagain
      rw [Arguments.readFrom.eq_def]
      simp only [hswitch, hlookup, if_neg (show ¬word.toList.head? = some '-' from hplain), hstory,
        if_true]

/-- Behind the items of a call, words begin with a further item or break the grammar. -/
theorem IsCall.exists_item_or_breaks (hcall : IsCall items) (first : String)
    (behind : List String) :
    (∃ item rest, first :: behind = words item ++ rest ∧ IsCall (items ++ [item])) ∨
      ∃ error, Breaks items (first :: behind) error := by
  by_cases hdashed : IsDashed first
  · by_cases hswitch : ∃ option : Switch, first ∈ option.spellings
    · obtain ⟨option, hspelled⟩ := hswitch
      exact Or.inl ⟨.switch option first hspelled, behind, rfl, hcall.append_of_story_eq_none rfl⟩
    · by_cases hfile : ∃ option : FileOption, first = option.spelling
      · obtain ⟨option, rfl⟩ := hfile
        cases behind with
        | nil => exact Or.inr ⟨_, .missingFile option⟩
        | cons path rest =>
            exact Or.inl ⟨.file option path, rest, rfl, hcall.append_of_story_eq_none rfl⟩
      · have hunknown : IsUnknown first :=
          ⟨hdashed, not_exists.mp hswitch, not_exists.mp hfile⟩
        exact Or.inr ⟨_, .unknownOption hunknown⟩
  · by_cases hagain : ∃ item ∈ items, item.story?.isSome
    · exact Or.inr ⟨_, .unexpectedArgument hdashed hagain⟩
    · exact Or.inl ⟨.story first hdashed, behind, rfl, isCall_append_of_not_exists hagain _⟩

/-- Behind the items of a call, words are further items up to where the grammar is broken. -/
theorem IsCall.exists_append (hcall : IsCall items) (ahead : List String) :
    ∃ more rest, ahead = more.flatMap words ++ rest ∧ IsCall (items ++ more) ∧
      (rest = [] ∨ ∃ error, Breaks (items ++ more) rest error) := by
  induction hlength : ahead.length using Nat.strongRecOn generalizing items ahead with
  | _ n ih =>
      cases ahead with
      | nil => exact ⟨[], [], rfl, by simpa using hcall, Or.inl rfl⟩
      | cons first behind =>
          rcases hcall.exists_item_or_breaks first behind with
            ⟨item, left, hsplit, hlonger⟩ | ⟨error, hbreaks⟩
          · have hshorter : left.length < n := by
              rw [← hlength, hsplit, List.length_append]
              exact Nat.lt_add_of_pos_left (List.length_pos_iff.mpr item.words_ne_nil)
            obtain ⟨more, rest, hleft, hwhole, hend⟩ := ih _ hshorter hlonger left rfl
            rw [List.append_assoc, List.singleton_append] at hwhole hend
            refine ⟨item :: more, rest, ?_, hwhole, hend⟩
            rw [hsplit, hleft, List.flatMap_cons, List.append_assoc]
          · exact ⟨[], first :: behind, rfl, by simpa using hcall,
              Or.inr ⟨error, by simpa using hbreaks⟩⟩

/-- All words are items up to where the grammar is broken, if it is. -/
theorem exists_items (ahead : List String) :
    ∃ items rest, ahead = items.flatMap words ++ rest ∧ IsCall items ∧
      (rest = [] ∨ ∃ error, Breaks items rest error) := by
  have hnone : IsCall [] := by decide
  simpa using hnone.exists_append ahead

/-! ## Words and items -/

/-- The first word of an item tells which option it is, if it is one. -/
theorem exists_words_eq_cons (item : CallItem) :
    ∃ first behind, item.words = first :: behind ∧
      Arguments.switches.lookup first = item.switch? ∧
      Arguments.fileOptions.lookup first = item.fileOption? := by
  cases item with
  | switch option word hspelled =>
      refine ⟨word, [], rfl, Arguments.lookup_switches_iff.mpr hspelled, ?_⟩
      apply Arguments.lookup_fileOptions_eq_none
      rintro other rfl
      exact Arguments.spelling_not_mem_spellings other option hspelled
  | file option path => exact ⟨option.spelling, [path], rfl, Arguments.lookup_of_spelling option⟩
  | story path hplain => exact ⟨path, [], rfl, Arguments.lookup_of_plain hplain⟩

theorem option_eq_of_words_append (hwords : item.words ++ rest = other.words ++ left) :
    item.switch? = other.switch? ∧ item.fileOption? = other.fileOption? := by
  obtain ⟨first, behind, hitem, hswitch, hfile⟩ := item.exists_words_eq_cons
  obtain ⟨first', behind', hother, hswitch', hfile'⟩ := other.exists_words_eq_cons
  rw [hitem, hother, List.cons_append, List.cons_append] at hwords
  obtain ⟨rfl, -⟩ := List.cons.inj hwords
  exact ⟨hswitch.symm.trans hswitch', hfile.symm.trans hfile'⟩

/-- Words begin with one item at most. -/
theorem eq_of_words_append (hwords : item.words ++ rest = other.words ++ left) :
    item = other ∧ rest = left := by
  obtain ⟨hswitch, hfile⟩ := option_eq_of_words_append hwords
  cases item with
  | switch option word hspelled =>
      cases other with
      | switch option' word' hspelled' =>
          obtain rfl := Option.some.inj hswitch
          simpa [words] using hwords
      | file | story => cases hswitch
  | file option path =>
      cases other with
      | file option' path' =>
          obtain rfl := Option.some.inj hfile
          simpa [words] using hwords
      | switch | story => cases hfile
  | story path hplain =>
      cases other with
      | story path' hplain' => simpa [words] using hwords
      | switch => cases hswitch
      | file => cases hfile

/-- Words are those of one sequence of items at most. -/
theorem eq_of_flatMap_words (hwords : items.flatMap words = others.flatMap words) :
    items = others := by
  have hnonempty : ∀ (item : CallItem) items, (item :: items).flatMap words ≠ [] := by
    intro item items
    rw [List.flatMap_cons]
    exact List.append_ne_nil_of_left_ne_nil item.words_ne_nil _
  induction items generalizing others with
  | nil =>
      cases others with
      | nil => rfl
      | cons other others => exact absurd hwords.symm (hnonempty other others)
  | cons item items ih =>
      cases others with
      | nil => exact absurd hwords (hnonempty item items)
      | cons other others =>
          rw [List.flatMap_cons, List.flatMap_cons] at hwords
          obtain ⟨rfl, hrest⟩ := eq_of_words_append hwords
          rw [ih hrest]

theorem IsCall.perm (hcall : IsCall items) (hperm : others.Perm items) : IsCall others := by
  rw [IsCall, (hperm.filterMap story?).length_eq]
  exact hcall

/-- Items in another order ask for the same, if files for the same option keep their order. -/
theorem askedBy_of_perm {arguments : Arguments} (harguments : arguments.AskedBy items)
    (hperm : others.Perm items)
    (hfiles : ∀ option, others.filterMap (file? option) = items.filterMap (file? option)) :
    arguments.AskedBy others where
  isSet_iff option := by simp only [harguments.isSet_iff, hperm.mem_iff]
  file_eq option := by rw [harguments.file_eq, hfiles]
  story_iff path := by simp only [harguments.story_iff, hperm.mem_iff]

end CallItem

namespace Arguments

open CallItem

variable {items others : List CallItem} {arguments : Arguments}

theorem read_eq_ok_iff {words : List String} :
    read words = .ok arguments ↔
      ∃ items, words = items.flatMap CallItem.words ∧ IsCall items ∧ arguments.AskedBy items := by
  constructor
  · intro hread
    obtain ⟨items, rest, rfl, hcall, hend⟩ := exists_items words
    rcases hend with rfl | ⟨error, hbreaks⟩
    · rw [List.append_nil, hcall.read_eq_ok] at hread
      exact ⟨items, List.append_nil _, hcall, Except.ok.inj hread ▸ askedBy_ofItems hcall⟩
    · rw [hcall.read_append, hbreaks.readFrom_eq] at hread
      cases hread
  · rintro ⟨items, rfl, hcall, harguments⟩
    rw [hcall.read_eq_ok, harguments.unique (askedBy_ofItems hcall)]

/-- A call is refused for what first breaks the grammar. -/
theorem read_eq_error_iff {words : List String} {error : UsageError} :
    read words = .error error ↔
      ∃ items rest, words = items.flatMap CallItem.words ++ rest ∧ IsCall items ∧
        Breaks items rest error := by
  constructor
  · intro hread
    obtain ⟨items, rest, rfl, hcall, hend⟩ := exists_items words
    rcases hend with rfl | ⟨found, hbreaks⟩
    · rw [List.append_nil, hcall.read_eq_ok] at hread
      cases hread
    · rw [hcall.read_append, hbreaks.readFrom_eq, Except.error.injEq] at hread
      exact ⟨items, rest, rfl, hcall, hread ▸ hbreaks⟩
  · rintro ⟨items, rest, rfl, hcall, hbreaks⟩
    rw [hcall.read_append, hbreaks.readFrom_eq]

/-- The items of a call that is accepted ask for what the call asks for. -/
theorem isCall_and_askedBy_of_read (hread : read (items.flatMap CallItem.words) = .ok arguments) :
    IsCall items ∧ arguments.AskedBy items := by
  obtain ⟨others, hwords, hcall, harguments⟩ := read_eq_ok_iff.mp hread
  rw [eq_of_flatMap_words hwords]
  exact ⟨hcall, harguments⟩

/-- A call is accepted exactly if its words are those of items with at most one story.  The words
determine the items, and the call asks for what they ask for.  The items make the same call in
another order, if files for the same option keep their order.  A call that is not accepted is
refused for what first breaks the grammar. -/
theorem read_eq_ok_iff_and_read_eq_error_iff :
    (∀ words, (∃ arguments, read words = .ok arguments) ↔
      ∃ items, words = items.flatMap CallItem.words ∧ IsCall items) ∧
    (∀ items others : List CallItem,
      items.flatMap CallItem.words = others.flatMap CallItem.words → items = others) ∧
    (∀ (items : List CallItem) arguments,
      read (items.flatMap CallItem.words) = .ok arguments → arguments.AskedBy items) ∧
    (∀ (items others : List CallItem) arguments, others.Perm items →
      (∀ option, others.filterMap (CallItem.file? option) =
        items.filterMap (CallItem.file? option)) →
      read (items.flatMap CallItem.words) = .ok arguments →
      read (others.flatMap CallItem.words) = .ok arguments) ∧
    ∀ words error, read words = .error error ↔
      ∃ items rest, words = items.flatMap CallItem.words ++ rest ∧ IsCall items ∧
        Breaks items rest error := by
  refine ⟨?_, fun _ _ => eq_of_flatMap_words,
    fun _ _ hread => (isCall_and_askedBy_of_read hread).2, ?_, fun _ _ => read_eq_error_iff⟩
  · intro words
    constructor
    · rintro ⟨arguments, hread⟩
      obtain ⟨items, hwords, hcall, -⟩ := read_eq_ok_iff.mp hread
      exact ⟨items, hwords, hcall⟩
    · rintro ⟨items, rfl, hcall⟩
      exact ⟨ofItems items, hcall.read_eq_ok⟩
  · intro items others arguments hperm hfiles hread
    obtain ⟨hcall, harguments⟩ := isCall_and_askedBy_of_read hread
    exact read_eq_ok_iff.mpr
      ⟨others, rfl, hcall.perm hperm, askedBy_of_perm harguments hperm hfiles⟩

/-- The first file to load is named like an option, and help is asked for. -/
def cellarItems : List CallItem :=
  [.switch .help "-h" (by decide), .file .load "--script", .story "cellar.toml" (by decide),
    .file .script "walk.txt", .file .load "saved"]

/-- The same items with the story in front. -/
def cellarReordered : List CallItem :=
  [.story "cellar.toml" (by decide), .file .script "walk.txt", .file .load "--script",
    .file .load "saved", .switch .help "-h" (by decide)]

/-- What the items ask for. -/
def cellarArguments : Arguments :=
  { story := some "cellar.toml", script := some "walk.txt", load := some "saved"
    showHelp := true }

theorem read_eq_ok_iff_and_read_eq_error_iff_cellar :
    cellarItems.flatMap CallItem.words =
        ["-h", "--load", "--script", "cellar.toml", "--script", "walk.txt", "--load", "saved"] ∧
      read (cellarItems.flatMap CallItem.words) = .ok cellarArguments ∧
      cellarArguments.AskedBy cellarItems ∧ cellarReordered.Perm cellarItems ∧
      (∀ option, cellarReordered.filterMap (CallItem.file? option) =
        cellarItems.filterMap (CallItem.file? option)) ∧
      read (cellarReordered.flatMap CallItem.words) = .ok cellarArguments ∧
      read (cellarItems.flatMap CallItem.words ++ ["--load"]) = .error (.missingFile "--load") := by
  obtain ⟨-, -, hasked, hreorder, herror⟩ := read_eq_ok_iff_and_read_eq_error_iff
  have hread : read (cellarItems.flatMap CallItem.words) = .ok cellarArguments := by decide
  have hperm : cellarReordered.Perm cellarItems := by decide
  have hfiles : ∀ option, cellarReordered.filterMap (CallItem.file? option) =
      cellarItems.filterMap (CallItem.file? option) := by
    intro option
    cases option <;> decide
  exact ⟨by decide, hread, hasked _ _ hread, hperm, hfiles, hreorder _ _ _ hperm hfiles hread,
    (herror _ _).mpr ⟨cellarItems, _, rfl, by decide, .missingFile .load⟩⟩

end Arguments

end TextAdventure
