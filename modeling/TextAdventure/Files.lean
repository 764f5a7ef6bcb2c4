import TextAdventure.Fault
import TextAdventure.Text.Lines
import TextAdventure.Text.Utf8

/-!
# Files

The game reads and writes whole files and asks nothing else of a file system.  A disk is a file
system of its own: a tree of directories, with one below the top where relative paths begin.  What
was written to a path of a disk is read there.
-/

namespace TextAdventure

/-- Why a file cannot be read. -/
inductive ReadRefusal where
  /-- The path leads nowhere. -/
  | noFile
  /-- The path leads to something that has no content. -/
  | noContent
  deriving DecidableEq, Repr

/-- Why a file cannot be written. -/
inductive WriteRefusal where
  /-- There is no such file, and none can be made. -/
  | notCreated
  /-- The content is not taken. -/
  | notWritten
  /-- The content was taken and does not reach the file. -/
  | notFlushed
  deriving DecidableEq, Repr

/-- What was being done with the file of a save when it could not be written. -/
def WriteRefusal.act : WriteRefusal → FileAct
  | notCreated => .createSave
  | notWritten => .writeSave
  | notFlushed => .flushSave

/-- What the game needs of a file system. -/
class Files (m : Type → Type) where
  /-- The content of the file at a path. -/
  readFile : String → m (Except ReadRefusal (List UInt8))
  /-- Gives the file at a path this content. -/
  writeFile : String → List UInt8 → m (Except WriteRefusal Unit)

namespace Files

variable {m : Type → Type} [Monad m] [Files m]

/-- The text in the file at a path, if there is a file and it holds text. -/
def readText (path : String) : m (Option String) := do
  match ← readFile path with
  | .ok bytes => return Text.ofBytes? bytes
  | .error _ => return none

/-- What reading the file at a path comes to. -/
def reading {σ : Type} [Files (StateM σ)] (path : String) (files : σ) :
    Except ReadRefusal (List UInt8) :=
  ((readFile path : StateM σ _).run files).1

/-- What was written to a path is read there. -/
def ReadsBack (σ : Type) [Files (StateM σ)] (path : String) : Prop :=
  ∀ (content : List UInt8) (files left : σ),
    (writeFile path content : StateM σ _).run files = (.ok (), left) →
      reading path left = .ok content

end Files

/-- What stands at a place of a disk. -/
inductive Node where
  /-- A file with its content. -/
  | file (content : List UInt8)
  | directory
  deriving DecidableEq, Repr

/-- A tree of directories.  A place in it is the list of the names on the way to it from the top. -/
structure Disk where
  /-- What stands at the places below the top. -/
  nodes : List (List String × Node)
  deriving DecidableEq

namespace Disk

/-- The disk without files. -/
def empty : Disk := ⟨[]⟩

/-- The place where relative paths begin.  Its name is empty, so no path leads back to it by
name. -/
def home : List String := [""]

/-- The top and the place where relative paths begin are always there. -/
def isFixed (place : List String) : Bool :=
  place = [] || place = home

/-- What stands at a place; where something always stands, it is a directory. -/
def node? (disk : Disk) (place : List String) : Option Node :=
  if isFixed place then some .directory else disk.nodes.lookup place

/-- Puts something at a place, instead of what stands there. -/
def put (disk : Disk) (place : List String) (node : Node) : Disk :=
  ⟨(place, node) :: disk.nodes.filter (·.1 != place)⟩

/-- What was put at a place stands there. -/
theorem node?_put (disk : Disk) {place : List String} (node : Node)
    (hplace : isFixed place = false) : (disk.put place node).node? place = some node := by
  simp [node?, put, hplace]

theorem lookup_filter_ne {place other : List String} (hother : other ≠ place)
    (nodes : List (List String × Node)) :
    (nodes.filter (·.1 != place)).lookup other = nodes.lookup other := by
  induction nodes with
  | nil => rfl
  | cons entry rest ih =>
      obtain ⟨key, node⟩ := entry
      by_cases hkey : key = place
      · have habsent : (other == place) = false := by simpa using hother
        simpa [hkey, List.lookup_cons, habsent] using ih
      · have hkept : ((key, node) :: rest).filter (·.1 != place) =
            (key, node) :: rest.filter (·.1 != place) := by simp [hkey]
        rw [hkept, List.lookup_cons, List.lookup_cons, ih]

/-- What is put at a place changes no other place. -/
theorem node?_put_of_ne (disk : Disk) {place other : List String} (node : Node)
    (hother : other ≠ place) : (disk.put place node).node? other = disk.node? other := by
  have habsent : (other == place) = false := by simpa using hother
  simp only [node?, put, List.lookup_cons, habsent, lookup_filter_ne hother]

/-- The place to which one part of a path leads from a place.  Above the top there is only the
top. -/
def step (place : List String) (part : String) : List String :=
  if part = "" || part = "." then place
  else if part = ".." then place.dropLast
  else place ++ [part]

/-- The place to which the parts of a path lead from a place.  Every step starts from a directory;
only the last may lead to a place where nothing stands. -/
def follow (disk : Disk) (place : List String) : List String → Option (List String)
  | [] => some place
  | part :: rest =>
    if disk.node? place = some .directory then disk.follow (step place part) rest else none

/-- The parts of a path, which stand between its strokes. -/
def partsOf (path : String) : List String :=
  (Text.splitAt '/' path.toList).map String.ofList

/-- The place where a path begins: the top if it begins with a stroke. -/
def source (path : String) : List String :=
  if path.toList.head? = some '/' then [] else home

/-- A path that a file system takes: it is not empty, holds no null character and is not too long,
nor is a part of it. -/
def isPath (path : String) : Bool :=
  path != "" && ! FileAct.holdsNull path && path.utf8ByteSize < 4096 &&
    (partsOf path).all (·.utf8ByteSize ≤ 255)

/-- The place to which a path leads. -/
def place? (disk : Disk) (path : String) : Option (List String) :=
  if isPath path then disk.follow (source path) (partsOf path) else none

/-- The content of the file at a path. -/
def read (disk : Disk) (path : String) : Except ReadRefusal (List UInt8) :=
  match (disk.place? path).bind disk.node? with
  | some (.file content) => .ok content
  | some .directory => .error .noContent
  | none => .error .noFile

/-- Gives the file at a path this content, unless the path leads to a directory or nowhere. -/
def write (disk : Disk) (path : String) (content : List UInt8) : Except WriteRefusal Unit × Disk :=
  match disk.place? path with
  | none => (.error .notCreated, disk)
  | some place =>
    if disk.node? place = some .directory then (.error .notCreated, disk)
    else (.ok (), disk.put place (.file content))

theorem isFixed_of_free {disk : Disk} {place : List String}
    (hfree : disk.node? place ≠ some .directory) : isFixed place = false := by
  cases hfixed : isFixed place with
  | false => rfl
  | true => exact absurd (by simp [node?, hfixed]) hfree

theorem node?_put_file_eq_directory_iff (disk : Disk) {place : List String} (content : List UInt8)
    (hfree : disk.node? place ≠ some .directory) (other : List String) :
    (disk.put place (.file content)).node? other = some .directory ↔
      disk.node? other = some .directory := by
  by_cases hother : other = place
  · subst hother
    simp [node?_put disk _ (isFixed_of_free hfree), hfree]
  · rw [node?_put_of_ne disk _ hother]

/-- A file that is put where no directory stands changes no way. -/
theorem follow_put_file (disk : Disk) {place : List String} (content : List UInt8)
    (hfree : disk.node? place ≠ some .directory) (parts begun : List String) :
    (disk.put place (.file content)).follow begun parts = disk.follow begun parts := by
  induction parts generalizing begun with
  | nil => rfl
  | cons part rest ih =>
      simp only [follow, node?_put_file_eq_directory_iff disk content hfree, ih]

/-- What was written to a path is read there. -/
theorem read_write (disk : Disk) (path : String) (content : List UInt8)
    (hwritten : (disk.write path content).1 = .ok ()) :
    (disk.write path content).2.read path = .ok content := by
  unfold write at hwritten ⊢
  cases hplace : disk.place? path with
  | none => simp [hplace] at hwritten
  | some place =>
      by_cases hfree : disk.node? place = some .directory
      · simp [hplace, hfree] at hwritten
      · have hstays : (disk.put place (.file content)).place? path = some place := by
          rw [← hplace]
          simp only [place?, follow_put_file disk content hfree]
        simp [hfree, read, hstays, node?_put disk _ (isFixed_of_free hfree)]

/-- Makes a directory where nothing stands. -/
def settle (disk : Disk) (place : List String) : Disk :=
  if (disk.node? place).isNone then disk.put place .directory else disk

/-- Makes the directories on the way that the parts of a path lead from a place. -/
def makeWay (disk : Disk) (place : List String) : List String → Disk
  | [] => disk
  | part :: rest => (disk.settle (step place part)).makeWay (step place part) rest

/-- Makes the directories on the way of a path, and one at its end. -/
def makeDirectory (disk : Disk) (path : String) : Disk :=
  disk.makeWay (source path) (partsOf path)

end Disk

instance : Files (StateM Disk) where
  readFile path := do return (← get).read path
  writeFile path content := modifyGet (·.write path content)

theorem Disk.readsBack (path : String) : Files.ReadsBack Disk path := by
  intro content disk left hwrite
  obtain ⟨hwritten, rfl⟩ := Prod.mk.inj hwrite
  exact disk.read_write path content hwritten

end TextAdventure
