import Teamwork.Command.Path
import Teamwork.Except

/-!
# A tree of files

What a command finds and leaves behind: texts in folders. The commands themselves only ever say
which names they look at and what they want to save; this tree answers them, so that whole runs are
functions from one tree to another. All names are relative to one folder. What lies outside of it is
taken to be empty.

A system may refuse for reasons of its own. So there are files that cannot be read as texts and
folders that nobody is let into, and a tree knows the places where nothing can be written. The
reason is in each case a text that may be any.

## Main definitions

* `Obstacle` — why a file cannot be used.
* `Found` — what is found under a name.
* `Entry`, `Files` — what a folder can hold, and the tree, with `Files.empty`.
* `Files.follow` — where a name leads.
* `Files.look`, `Files.makeFolders`, `Files.save` — what can be done with the tree.
* `Files.KeepsFolders` — all folders of a tree are in another.

## Main results

* `Files.KeepsFolders.follow_eq` — names lead where they led.
* `Files.save_eq_ok` — where a text is saved.
-/

namespace Teamwork

/-- Why a file cannot be used as intended. -/
inductive Obstacle where
  /-- A folder on the way is missing. -/
  | missing
  /-- There is a file where a new folder should be. -/
  | fileExists
  /-- There is a file where a folder should be. -/
  | notFolder
  /-- There is a folder where a file should be. -/
  | isFolder
  /-- The name, or a part of it, is too long. -/
  | tooLong
  /-- Anything else that the system has against it, in its words. -/
  | refused (reason : String)
  deriving DecidableEq, Repr

/-- The text of an obstacle, with the number that operating systems give it. -/
def Obstacle.message : Obstacle → String
  | missing => "No such file or directory (os error 2)"
  | fileExists => "File exists (os error 17)"
  | notFolder => "Not a directory (os error 20)"
  | isFolder => "Is a directory (os error 21)"
  | tooLong => "File name too long (os error 36)"
  | refused reason => reason

/-- What is found under a name. -/
inductive Found where
  /-- A file with this text. -/
  | text (s : String)
  /-- Nothing. -/
  | missing
  /-- Something that cannot be read as a text. -/
  | unreadable (obstacle : Obstacle)
  deriving DecidableEq, Repr

/-- What a folder can hold under a name. -/
inductive Entry where
  /-- A file with this text. -/
  | text (s : String)
  /-- A file that cannot be read as a text, for the given reason. -/
  | unreadable (reason : String)
  /-- Another folder. -/
  | folder
  /-- A folder that nobody is let into, for the given reason. -/
  | closed (reason : String)
  deriving DecidableEq, Repr

namespace Entry

/-- Whether there is a folder, open or not. -/
def isFolder : Entry → Bool
  | folder | closed _ => true
  | text _ | unreadable _ => false

/-- What is found when the entry is read. -/
def found : Entry → Found
  | text s => .text s
  | folder => .unreadable .isFolder
  | unreadable reason | closed reason => .unreadable (.refused reason)

end Entry

/-- Names that lead to a file or a folder, the nearest first. -/
abbrev Place := List String

/-- A tree of files. -/
structure Files where
  /-- What is at each place; of several entries for one place the first counts. -/
  entries : List (Place × Entry)
  /-- Places where nothing can be written, with the reason of the system. There may be a file at
  such a place or not. -/
  barred : List (Place × String) := []

namespace Files

/-- The tree without files. -/
def empty : Files :=
  { entries := [] }

/-- Where a name starts from. -/
def start (path : String) : Place :=
  if Path.isAbsolute path then ["/"] else []

/-- The folder that a place is in. -/
def up : Place → Place
  | [] => [".."]
  | ".." :: place => ".." :: ".." :: place
  | "/" :: _ => ["/"]
  | _ :: place => place

/-- Whether a place is one that names start from, or lies above one. -/
def isTop (place : Place) : Bool :=
  place = ["/"] || place.all (· = "..")

/-- What is at a place. -/
def at? (files : Files) (place : Place) : Option Entry :=
  if isTop place then some .folder else files.entries.lookup place

/-- The tree with something else at a place. -/
def put (files : Files) (place : Place) (entry : Entry) : Files :=
  { files with entries := (place, entry) :: files.entries }

/-- The most bytes that a part of a name can have. -/
def longestPart : Nat := 255

/-- The most bytes that a name can have. -/
def longestName : Nat := 4095

/-- The place of a file or a folder in a folder. -/
def child (place : Place) (name : String) : Except Obstacle Place :=
  if longestPart < name.utf8ByteSize then .error .tooLong else .ok (name :: place)

/-! ### What stands in the way -/

/-- What the system has against a change at a place. -/
def refusal? (files : Files) (place : Place) : Option Obstacle :=
  (files.barred.lookup place).map .refused

/-- What stands in the way of a name that goes on behind a place. -/
def wayBarrier? (files : Files) (place : Place) : Option Obstacle :=
  match files.at? place with
  | some .folder => none
  | some (.closed reason) => some (.refused reason)
  | some (.text _) | some (.unreadable _) => some .notFolder
  | none => some .missing

/-- What stands in the way of a new folder at a place. -/
def folderBarrier? (files : Files) (place : Place) : Option Obstacle :=
  if (files.at? place).isSome then some .fileExists else files.refusal? place

/-- What stands in the way of a text at a place. -/
def textBarrier? (files : Files) (place : Place) : Option Obstacle :=
  if (files.at? place).any Entry.isFolder then some .isFolder else files.refusal? place

/-- A result that is out of reach if something stands in the way. -/
def past {α : Type} (barrier : Option Obstacle) (a : α) : Except Obstacle α :=
  match barrier with
  | some obstacle => .error obstacle
  | none => .ok a

theorem past_eq_ok_iff {α : Type} {barrier : Option Obstacle} {a b : α} :
    past barrier a = .ok b ↔ barrier = none ∧ a = b := by
  cases barrier <;> simp [past]

theorem wayBarrier?_eq_none_iff {files : Files} {place : Place} :
    files.wayBarrier? place = none ↔ files.at? place = some .folder := by
  rw [wayBarrier?]
  split <;> simp_all

theorem folderBarrier?_eq_none_iff {files : Files} {place : Place} :
    files.folderBarrier? place = none ↔ files.at? place = none ∧ files.refusal? place = none := by
  rw [folderBarrier?]
  cases files.at? place <;> simp

theorem at?_ne_folder_of_textBarrier? {files : Files} {place : Place}
    (h : files.textBarrier? place = none) : files.at? place ≠ some .folder := by
  intro hat
  simp [textBarrier?, hat, Entry.isFolder] at h

/-! ### What can be done -/

/-- The place that one part of a name leads to from a folder, if that is a folder again. -/
def enter (files : Files) (place : Place) (name : String) : Except Obstacle Place :=
  if name = ".." then .ok (up place)
  else do
    let place ← child place name
    past (files.wayBarrier? place) place

/-- The folder at the end of the way of a name. -/
def follow (files : Files) (path : String) : Except Obstacle Place :=
  if path = "" then .error .missing
  else if longestName < path.utf8ByteSize then .error .tooLong
  else (Path.way path).foldlM files.enter (start path)

/-- What a name leads to. Without a last part it leads to a folder. -/
def find? (files : Files) (path : String) : Option Entry :=
  match files.follow path, Path.target? path with
  | .error _, _ => none
  | .ok _, none => some .folder
  | .ok folder, some name => files.at? (name :: folder)

/-- Whether a name is that of a folder. -/
def isFolder (files : Files) (path : String) : Bool :=
  (files.find? path).any Entry.isFolder

/-- What is found under a name. A name with a slash at its end is none of a file. -/
def look (files : Files) (path : String) : Found :=
  match files.find? path with
  | none => .missing
  | some entry => if Path.endsInSlash path && !entry.isFolder then .missing else entry.found

/-- The tree with one more folder, in a folder that is there. -/
def makeFolder (files : Files) (path : String) : Except Obstacle Files := do
  let folder ← files.follow path
  match Path.target? path with
  | none => throw .fileExists
  | some name =>
    let place ← child folder name
    past (files.folderBarrier? place) (files.put place .folder)

/-- The tree with a folder under a name, which may be there already. -/
def makeOrFindFolder (files : Files) (path : String) : Except Obstacle Files :=
  match files.makeFolder path, files.isFolder path with
  | .error .fileExists, true => .ok files
  | made, _ => made

/-- The tree with folders under several names, each in the folder after it. Only those are made that
are missing, the last one first. If one cannot be made, those made before it stay. -/
def makeLine (files : Files) : List String → Option Obstacle × Files
  | [] => (none, files)
  | path :: outer =>
    match files.makeOrFindFolder path with
    | .ok files => (none, files)
    | .error .missing =>
      match files.makeLine outer with
      | (some obstacle, files) => (some obstacle, files)
      | (none, files) =>
        match files.makeOrFindFolder path with
        | .ok files => (none, files)
        | .error obstacle => (some obstacle, files)
    | .error obstacle => (some obstacle, files)

/-- The tree with a folder under a name and all folders on the way to it, as far as they could be
made. -/
def makeFolders (files : Files) (path : String) : Option Obstacle × Files :=
  files.makeLine (Path.lineage path)

/-- The tree with a text under a name, in place of the text that was there. A slash at the end of
the name is refused before anything else is known of what is there. -/
def save (files : Files) (path text : String) : Except Obstacle Files := do
  let folder ← files.follow path
  match Path.target? path, Path.endsInSlash path with
  | some name, false =>
    let place ← child folder name
    past (files.textBarrier? place) (files.put place (.text text))
  | _, _ => throw .isFolder

/-! ### Folders are kept -/

theorem at?_put (files : Files) {place : Place} (entry : Entry) (h : isTop place = false)
    (other : Place) :
    (files.put place entry).at? other = if other = place then some entry else files.at? other := by
  by_cases hp : other = place
  · simp [at?, put, hp, h]
  · have : (other == place) = false := by simpa using hp
    simp [at?, put, hp, List.lookup_cons, this]

theorem isTop_of_at?_ne {files : Files} {place : Place} (h : files.at? place ≠ some .folder) :
    isTop place = false := by
  cases ht : isTop place with
  | false => rfl
  | true => simp [at?, ht] at h

theorem eq_of_child {here there : Place} {name : String} (h : child here name = .ok there) :
    there = name :: here := by
  rw [child] at h
  split at h
  · cases h
  · exact (Except.ok.inj h).symm

/-- All folders of one tree are in the other. -/
def KeepsFolders (files files' : Files) : Prop :=
  ∀ place, files.at? place = some .folder → files'.at? place = some .folder

theorem keepsFolders_put {files : Files} {place : Place} (h : files.at? place ≠ some .folder)
    (entry : Entry) : files.KeepsFolders (files.put place entry) := by
  intro other hat
  have hne : other ≠ place := by
    rintro rfl
    exact h hat
  rw [at?_put files entry (isTop_of_at?_ne h), if_neg hne, hat]

namespace KeepsFolders

variable {files files' : Files} (hkeeps : files.KeepsFolders files')

include hkeeps

theorem enter_eq {here there : Place} {name : String} (h : files.enter here name = .ok there) :
    files'.enter here name = .ok there := by
  rw [enter] at h ⊢
  split
  · next hup => rwa [if_pos hup] at h
  · next hup =>
    rw [if_neg hup] at h
    obtain ⟨place, hchild, h⟩ := bind_eq_ok_iff.1 h
    obtain ⟨hopen, rfl⟩ := past_eq_ok_iff.1 h
    have hopen' := wayBarrier?_eq_none_iff.2 (hkeeps place (wayBarrier?_eq_none_iff.1 hopen))
    exact bind_eq_ok_iff.2 ⟨place, hchild, past_eq_ok_iff.2 ⟨hopen', rfl⟩⟩

theorem foldlM_enter_eq {names : List String} {here there : Place}
    (h : names.foldlM files.enter here = .ok there) :
    names.foldlM files'.enter here = .ok there := by
  induction names generalizing here with
  | nil => exact h
  | cons name names ih =>
    rw [List.foldlM_cons, bind_eq_ok_iff] at h ⊢
    obtain ⟨place, henter, hrest⟩ := h
    exact ⟨place, enter_eq hkeeps henter, ih hrest⟩

/-- A name leads to the same folder as long as the folders on the way are kept. -/
theorem follow_eq {path : String} {folder : Place} (h : files.follow path = .ok folder) :
    files'.follow path = .ok folder := by
  rw [follow] at h ⊢
  split at h
  · cases h
  · split at h
    · cases h
    · next hne hlong =>
      rw [if_neg hne, if_neg hlong]
      exact foldlM_enter_eq hkeeps h

end KeepsFolders

/-- A text is saved in the folder that the way of its name leads to, unless something stands in its
way there. -/
theorem save_eq_ok {files saved : Files} {path text : String}
    (h : files.save path text = .ok saved) :
    ∃ folder name, files.follow path = .ok folder ∧ Path.target? path = some name ∧
      Path.endsInSlash path = false ∧ files.textBarrier? (name :: folder) = none ∧
      saved = files.put (name :: folder) (.text text) := by
  obtain ⟨folder, hfollow, h⟩ := bind_eq_ok_iff.1 h
  split at h
  · next name htarget hslash =>
    obtain ⟨place, hchild, h⟩ := bind_eq_ok_iff.1 h
    obtain rfl := eq_of_child hchild
    obtain ⟨hfree, rfl⟩ := past_eq_ok_iff.1 h
    exact ⟨folder, name, hfollow, htarget, hslash, hfree, rfl⟩
  · cases h

end Files

end Teamwork
