import TextAdventure.Text.Cluster
import TextAdventure.Text.Utf8

/-!
# Backspaces

A line that was typed with backspaces is read as it looks in the end.  A backspace erases the
cluster in front of it, or nothing at the beginning of the line; a line without backspaces stays as
it is.
-/

namespace TextAdventure.Text

/-- The backspace. -/
def backspace : Char := '\x08'

/-- Drops characters from the front until so many bytes are gone. -/
def dropBytes : Nat → List Char → List Char
  | _, [] => []
  | size, c :: rest => if size = 0 then c :: rest else dropBytes (size - c.utf8Size) rest

/-- A line while it is typed. -/
structure Typing where
  /-- The characters that stand in the line, the last one first. -/
  shown : List Char := []
  /-- The numbers of bytes that backspaces will erase, the next one first. -/
  sizes : List Nat := []
  deriving DecidableEq, Repr

namespace Typing

/-- Types one cluster.  The number of its bytes is kept in a single byte, so of a cluster of 256
bytes and more a backspace erases only the rest of the division by 256. -/
def step (typing : Typing) (cluster : List Char) : Typing :=
  if cluster = [backspace] then
    match typing.sizes with
    | [] => typing
    | size :: sizes => { shown := dropBytes size typing.shown, sizes }
  else
    { shown := cluster.reverse ++ typing.shown
      sizes := byteCount cluster % 256 :: typing.sizes }

theorem shown_foldl_step {parts : List (List Char)} (typing : Typing)
    (hfree : [backspace] ∉ parts) :
    (parts.foldl step typing).shown = parts.flatten.reverse ++ typing.shown := by
  induction parts generalizing typing with
  | nil => simp
  | cons part rest ih =>
      obtain ⟨hpart, hrest⟩ := not_or.mp (mt List.mem_cons.mpr hfree)
      rw [List.foldl_cons, ih _ hrest, step, if_neg (Ne.symm hpart)]
      simp

end Typing

/-- What is left of a line that was typed with backspaces. -/
def typed (line : String) : String :=
  String.ofList ((clusters line.toList).foldl Typing.step {}).shown.reverse

/-- A line without backspaces stays as it is. -/
theorem typed_of_not_mem {line : String} (hfree : backspace ∉ line.toList) : typed line = line := by
  have habsent : [backspace] ∉ clusters line.toList := by
    intro hmem
    apply hfree
    rw [← flatten_clusters line.toList]
    exact List.mem_flatten.mpr ⟨[backspace], hmem, List.mem_singleton_self backspace⟩
  rw [typed, Typing.shown_foldl_step _ habsent, flatten_clusters]
  simp

end TextAdventure.Text
