import TextAdventure.Text.ClusterTable
import TextAdventure.Text.MarkTable

/-!
# Clusters

A letter with its accents, a syllable written in parts, a flag or a picture joined from several is
one character to a reader: an extended grapheme cluster of the Unicode standard.  Whether a
character continues a cluster is seen from the cluster so far.  A text is the sequence of its
clusters, and none of them is empty.
-/

namespace TextAdventure.Text

/-- The part that a character takes in a cluster. -/
inductive ClusterPart where
  /-- A carriage return, which only a line feed continues. -/
  | carriageReturn
  /-- A line feed. -/
  | lineFeed
  /-- A character that stands alone. -/
  | control
  /-- A mark on the character before it. -/
  | mark
  /-- The sign that joins two pictures into one. -/
  | joiner
  /-- A mark beside the character before it. -/
  | spacingMark
  /-- A sign that is written together with the character behind it. -/
  | leadIn
  /-- One of the two letters of a flag. -/
  | flagLetter
  /-- The consonant that begins a Hangul syllable. -/
  | leading
  /-- The vowel of a Hangul syllable. -/
  | vowel
  /-- The consonant that ends a Hangul syllable. -/
  | trailing
  /-- A Hangul syllable that ends in a vowel. -/
  | openSyllable
  /-- A Hangul syllable that ends in a consonant. -/
  | closedSyllable
  /-- A picture. -/
  | picture
  /-- A consonant of a script that writes conjuncts. -/
  | consonant
  /-- Any other character. -/
  | plain
  deriving DecidableEq, Repr

namespace ClusterPart

/-- The parts that only ranges of their own can tell: the marks include the two sound marks of half
width and the five tones of skin. -/
def ranges : List (ClusterPart × List CodeRange) :=
  [(control, controlRanges), (mark, ⟨0xFF9E, 0xFF9F⟩ :: ⟨0x1F3FB, 0x1F3FF⟩ :: markRanges),
   (spacingMark, spacingMarkRanges), (leadIn, leadInRanges),
   (flagLetter, [⟨0x1F1E6, 0x1F1FF⟩]), (leading, [⟨0x1100, 0x115F⟩, ⟨0xA960, 0xA97C⟩]),
   (vowel, [⟨0x1160, 0x11A7⟩, ⟨0xD7B0, 0xD7C6⟩, ⟨0x16D63, 0x16D63⟩, ⟨0x16D67, 0x16D6A⟩]),
   (trailing, [⟨0x11A8, 0x11FF⟩, ⟨0xD7CB, 0xD7FB⟩]), (picture, pictureRanges),
   (consonant, conjunctConsonantRanges)]

/-- The part that a character takes.  Hangul syllables are listed by their last consonant, and the
first of every 28 has none. -/
def ofChar (c : Char) : ClusterPart :=
  if c = '\r' then carriageReturn
  else if c = '\n' then lineFeed
  else if c = '\u200D' then joiner
  else if 0xAC00 ≤ c.toNat && c.toNat ≤ 0xD7A3 then
    if (c.toNat - 0xAC00) % 28 = 0 then openSyllable else closedSyllable
  else ((ranges.find? fun entry => CodeRange.holds entry.2 c).map (·.1)).getD plain

end ClusterPart

/-- A picture stands at the end of a text, perhaps with marks.  The text is given from its end. -/
def endsInPicture (before : List Char) : Bool :=
  match before.dropWhile (ClusterPart.ofChar · = .mark) with
  | [] => false
  | c :: _ => ClusterPart.ofChar c = .picture

/-- The last of the flag letters at the end of a text has no partner.  The text is given from its
end. -/
def endsInHalfFlag (before : List Char) : Bool :=
  (before.takeWhile (ClusterPart.ofChar · = .flagLetter)).length % 2 = 1

/-- A character that can stand between two consonants of a conjunct. -/
def isConjunctMark (c : Char) : Bool :=
  (ClusterPart.ofChar c = .mark || c = '\u200D') && c != '\u200C'

/-- A consonant stands at the end of a text, and behind it a sign that ties the next consonant to
it, perhaps among other marks.  The text is given from its end. -/
def endsInLinkedConsonant (before : List Char) : Bool :=
  (before.takeWhile isConjunctMark).any (CodeRange.holds conjunctLinkerRanges) &&
    match before.dropWhile isConjunctMark with
    | [] => false
    | c :: _ => ClusterPart.ofChar c = .consonant

/-- The character continues the cluster, which is given from its end. -/
def continues (cluster : List Char) (c : Char) : Bool :=
  match cluster with
  | [] => false
  | last :: before =>
    match ClusterPart.ofChar last, ClusterPart.ofChar c with
    | .carriageReturn, .lineFeed => true
    | .carriageReturn, _ | .lineFeed, _ | .control, _ => false
    | _, .carriageReturn | _, .lineFeed | _, .control => false
    | _, .mark | _, .joiner | _, .spacingMark | .leadIn, _ => true
    | .leading, .leading | .leading, .vowel | .leading, .openSyllable
    | .leading, .closedSyllable => true
    | .vowel, .vowel | .vowel, .trailing | .openSyllable, .vowel | .openSyllable, .trailing => true
    | .trailing, .trailing | .closedSyllable, .trailing => true
    | .joiner, .picture => endsInPicture before
    | .flagLetter, .flagLetter => endsInHalfFlag (last :: before)
    | _, .consonant => endsInLinkedConsonant (last :: before)
    | _, _ => false

/-- The clusters of a text behind a cluster that has begun, which is given from its end. -/
def clustersFrom (cluster : List Char) : List Char → List (List Char)
  | [] => [cluster.reverse]
  | c :: rest =>
    if continues cluster c then clustersFrom (c :: cluster) rest
    else cluster.reverse :: clustersFrom [c] rest

/-- The clusters of a text. -/
def clusters : List Char → List (List Char)
  | [] => []
  | c :: rest => clustersFrom [c] rest

theorem flatten_clustersFrom (cluster cs : List Char) :
    (clustersFrom cluster cs).flatten = cluster.reverse ++ cs := by
  induction cs generalizing cluster with
  | nil => simp [clustersFrom]
  | cons c rest ih =>
      unfold clustersFrom
      split
      · rw [ih]
        simp
      · rw [List.flatten_cons, ih]
        simp

/-- A text is the sequence of its clusters. -/
theorem flatten_clusters (cs : List Char) : (clusters cs).flatten = cs := by
  cases cs with
  | nil => rfl
  | cons c rest => exact flatten_clustersFrom [c] rest

theorem ne_nil_of_mem_clustersFrom {cluster : List Char} (hcluster : cluster ≠ [])
    (cs : List Char) : ∀ part ∈ clustersFrom cluster cs, part ≠ [] := by
  induction cs generalizing cluster with
  | nil => simpa [clustersFrom] using hcluster
  | cons c rest ih =>
      unfold clustersFrom
      split
      · exact ih (List.cons_ne_nil c cluster)
      · intro part hpart
        rcases List.mem_cons.mp hpart with rfl | hpart
        · simpa using hcluster
        · exact ih (List.cons_ne_nil c []) part hpart

/-- No cluster is empty. -/
theorem ne_nil_of_mem_clusters {part cs : List Char} (hpart : part ∈ clusters cs) :
    part ≠ [] := by
  cases cs with
  | nil => simp [clusters] at hpart
  | cons c rest => exact ne_nil_of_mem_clustersFrom (List.cons_ne_nil c []) rest part hpart

end TextAdventure.Text
