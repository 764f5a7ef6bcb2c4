import TextAdventure.Text.CaseTables

/-!
# Lower case

The full lower-case mapping of Unicode.  All characters but one are mapped by themselves; a capital
sigma becomes a final sigma at the end of a word, which is seen from the letters around it.
-/

namespace TextAdventure.Text

/-- The lower-case form of a code point that has one of a single character, else the code point. -/
def lowerCode (code : Nat) : Nat :=
  match caseRuns.find? (·.covers code) with
  | some run => run.lower code
  | none => code

/-- The lower-case form of a character on its own: a capital I with a dot keeps its dot. -/
def lowerChar (c : Char) : List Char :=
  if c = '\u0130' then ['i', '\u0307'] else [Char.ofNat (lowerCode c.toNat)]

/-- A cased letter. -/
def isCased (c : Char) : Bool :=
  CodeRange.holds casedRanges c

/-- A character that does not end a word, and is not a letter of it either. -/
def isCaseIgnorable (c : Char) : Bool :=
  CodeRange.holds caseIgnorableRanges c

/-- The first character that is not case-ignorable is a cased letter. -/
def meetsCased (cs : List Char) : Bool :=
  match cs.dropWhile isCaseIgnorable with
  | [] => false
  | c :: _ => isCased c

/-- A sigma is final when a cased letter comes before it and none after it.  The text before is
given from its end. -/
def lowerSigma (before after : List Char) : Char :=
  if meetsCased before && ! meetsCased after then '\u03C2' else '\u03C3'

/-- Lower-cases a text that continues `before`, which is given from its end. -/
def lowerFrom (before : List Char) : List Char → List Char
  | [] => []
  | c :: rest =>
    (if c = '\u03A3' then [lowerSigma before rest] else lowerChar c) ++ lowerFrom (c :: before) rest

/-- The lower-case form of a text. -/
def lower (cs : List Char) : List Char :=
  lowerFrom [] cs

/-- The lower-case form of a string. -/
def lowered (s : String) : String :=
  String.ofList (lower s.toList)

@[simp] theorem lower_nil : lower [] = [] := rfl

end TextAdventure.Text
