import TextAdventure.Text.Blank
import TextAdventure.Text.Lines

/-!
# Lines that are joined into a text

Lines without line feeds are found again in the text that joins them, up to blank space at their
ends: a carriage return is dropped in front of a line feed, and what follows the last line feed is
no line if it is empty.  So the commands in the lines stay the same.
-/

namespace TextAdventure.Text

/-- The commands in lines: what is left of each when it is stripped, if anything is. -/
def commands (lines : List String) : List String :=
  (lines.map trimmed).filter (· ≠ "")

theorem commands_cons_of_blank {line : String} (hblank : trimmed line = "")
    (rest : List String) : commands (line :: rest) = commands rest := by
  simp [commands, hblank]

theorem commands_cons_of_not_blank {line : String} (hkept : trimmed line ≠ "")
    (rest : List String) : commands (line :: rest) = trimmed line :: commands rest := by
  simp [commands, hkept]

theorem commands_append (first second : List String) :
    commands (first ++ second) = commands first ++ commands second := by
  simp [commands]

/-- A carriage return is blank, so it is stripped anyway. -/
theorem trim_stripReturn (line : List Char) : trim (stripReturn line) = trim line := by
  unfold stripReturn
  split
  · rename_i hlast
    obtain ⟨front, rfl⟩ := List.getLast?_eq_some_iff.mp hlast
    rw [List.dropLast_concat, trim_append_blank (by decide)]
  · rfl

theorem splitAt_eq_splitOn (mark : Char) (cs : List Char) :
    splitAt mark cs = cs.splitOn mark := by
  induction cs with
  | nil => rfl
  | cons c rest ih =>
      rw [splitAt, ih, List.splitOn_cons_eq_if_modifyHead]
      by_cases hc : c = mark
      · simp [hc]
      · cases hpieces : rest.splitOn mark with
        | nil => exact absurd hpieces (List.splitOn_ne_nil mark rest)
        | cons piece pieces => simp [hc]

/-- Lines and the pieces between line feeds differ in nothing that a command keeps. -/
theorem commands_lines (s : String) :
    commands (lines s) = commands ((s.toList.splitOn '\n').map String.ofList) := by
  have hpieces := List.dropLast_concat_getLast (List.splitOn_ne_nil '\n' s.toList)
  rw [lines, splitAt_eq_splitOn, ← hpieces]
  generalize (s.toList.splitOn '\n').dropLast = front
  generalize (s.toList.splitOn '\n').getLast _ = last
  have hfront : commands ((front.map stripReturn).map String.ofList) =
      commands (front.map String.ofList) := by
    simp [commands, Function.comp_def, trimmed, trim_stripReturn]
  have hlast : commands ((if last.isEmpty then [] else [last]).map String.ofList) =
      commands [String.ofList last] := by
    cases last with
    | nil => rfl
    | cons c rest => rfl
  simp only [List.dropLast_concat, List.getLastD_concat, List.map_append, commands_append, hfront,
    hlast, List.map_cons, List.map_nil]

theorem commands_lines_intercalate {lines : List String}
    (hlines : ∀ line ∈ lines, '\n' ∉ line.toList) :
    commands (Text.lines ("\n".intercalate lines)) = commands lines := by
  cases lines with
  | nil => rfl
  | cons line rest =>
      have hsplit : ("\n".intercalate (line :: rest)).toList.splitOn '\n' =
          (line :: rest).map String.toList := by
        rw [String.toList_intercalate]
        apply List.splitOn_intercalate
        · simpa using hlines
        · simp
      rw [commands_lines, hsplit, List.map_map]
      simp [Function.comp_def]

end TextAdventure.Text
