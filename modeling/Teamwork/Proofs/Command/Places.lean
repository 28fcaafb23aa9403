import Teamwork.Command.Run
import Teamwork.Proofs.Snapshot.Entering

/-!
# Where names lead

One file has many names: a dot may be added to a name, or a way into a folder and out again. They
all lead to one place in the tree of files, and it is the place that a text stays at. So what
happens to a file over many runs, each with a name of its own for it, is said of places.

What the program does to a tree is harmless to all places but one. Folders are only made where
nothing is, and a text is saved where no folder is. A name that leads to a place therefore goes on
leading there.

## Main definitions

* `Files.placeOf?` — the place that a name of a file leads to.
* `Files.Keeps` — everything in a tree is in another.

## Main results

* `Files.look_eq_text_iff` — a text is found at the place of its name.
* `Files.KeepsFolders.placeOf?_eq` — places of names do not change.
* `Files.keeps_makeFolders` — making folders.
* `Response.carryOut_save` — carrying out a response that saves.
-/

namespace Teamwork

namespace Files

/-! ### Places of names -/

/-- The place that a name of a file leads to. A name with a slash at its end is none of a file. -/
def placeOf? (files : Files) (path : String) : Option Place :=
  match files.follow path, Path.target? path, Path.endsInSlash path with
  | .ok folder, some name, false => some (name :: folder)
  | _, _, _ => none

theorem placeOf?_eq_some_iff {files : Files} {path : String} {place : Place} :
    files.placeOf? path = some place ↔ ∃ folder name, files.follow path = .ok folder ∧
      Path.target? path = some name ∧ Path.endsInSlash path = false ∧ name :: folder = place := by
  rw [placeOf?]
  cases files.follow path <;> cases Path.target? path <;> cases Path.endsInSlash path <;> simp

/-- A text is found under a name if it is at the place of the name. -/
theorem look_eq_text_iff {files : Files} {path s : String} :
    files.look path = .text s ↔
      ∃ place, files.placeOf? path = some place ∧ files.at? place = some (.text s) := by
  simp only [placeOf?_eq_some_iff, look, find?]
  cases files.follow path with
  | error obstacle => simp
  | ok folder =>
    cases Path.target? path with
    | none => simp [Entry.isFolder, Entry.found]
    | some name =>
      cases hslash : Path.endsInSlash path <;> cases hat : files.at? (name :: folder) with
      | none => simp [hat]
      | some entry => cases entry <;> simp [hat, Entry.isFolder, Entry.found]

theorem KeepsFolders.placeOf?_eq {files files' : Files} (h : files.KeepsFolders files')
    {path : String} {place : Place} (hplace : files.placeOf? path = some place) :
    files'.placeOf? path = some place := by
  rw [placeOf?_eq_some_iff] at hplace ⊢
  obtain ⟨folder, name, hfollow, hrest⟩ := hplace
  exact ⟨folder, name, h.follow_eq hfollow, hrest⟩

/-! ### Making folders -/

/-- Whatever is at a place in one tree is there in the other. -/
def Keeps (files files' : Files) : Prop :=
  ∀ place entry, files.at? place = some entry → files'.at? place = some entry

theorem Keeps.refl (files : Files) : files.Keeps files :=
  fun _ _ hat => hat

theorem Keeps.trans {files files' files'' : Files} (h : files.Keeps files')
    (h' : files'.Keeps files'') : files.Keeps files'' :=
  fun place entry hat => h' place entry (h place entry hat)

theorem Keeps.keepsFolders {files files' : Files} (h : files.Keeps files') :
    files.KeepsFolders files' :=
  fun place hat => h place .folder hat

theorem keeps_put {files : Files} {place : Place} (h : files.at? place = none) (entry : Entry) :
    files.Keeps (files.put place entry) := by
  have hfree : files.at? place ≠ some .folder := by
    rw [h]
    exact (nofun)
  intro other entry' hat
  have hne : other ≠ place := by
    rintro rfl
    rw [h] at hat
    cases hat
  rw [at?_put files entry (isTop_of_at?_ne hfree), if_neg hne, hat]

theorem keeps_makeFolder {files files' : Files} {path : String}
    (h : files.makeFolder path = .ok files') : files.Keeps files' := by
  simp only [makeFolder, bind_eq_ok_iff] at h
  obtain ⟨folder, -, h⟩ := h
  cases htarget : Path.target? path with
  | none =>
    rw [htarget] at h
    cases h
  | some name =>
    simp only [htarget, bind_eq_ok_iff] at h
    obtain ⟨place, -, h⟩ := h
    obtain ⟨hfree, rfl⟩ := past_eq_ok_iff.1 h
    exact keeps_put (folderBarrier?_eq_none_iff.1 hfree).1 .folder

theorem keeps_makeOrFindFolder {files files' : Files} {path : String}
    (h : files.makeOrFindFolder path = .ok files') : files.Keeps files' := by
  rw [makeOrFindFolder] at h
  split at h
  · obtain rfl := Except.ok.inj h
    exact .refl files
  · exact keeps_makeFolder h

/-- Making folders one in the other leaves everything where it is, however far it comes. -/
theorem keeps_makeLine (files : Files) (paths : List String) :
    files.Keeps (files.makeLine paths).2 := by
  induction paths generalizing files with
  | nil => exact .refl files
  | cons path outer ih =>
    rw [makeLine]
    split
    · next hmade => exact keeps_makeOrFindFolder hmade
    · have houter := ih files
      split
      · next hline =>
        rw [hline] at houter
        exact houter
      · next hline =>
        rw [hline] at houter
        split
        · next hmade => exact houter.trans (keeps_makeOrFindFolder hmade)
        · exact houter
    · exact .refl files

theorem keeps_makeFolders (files : Files) (path : String) :
    files.Keeps (files.makeFolders path).2 :=
  keeps_makeLine files (Path.lineage path)

end Files

/-! ### Responses -/

/-- Saving succeeds, and then the new text is at the place of the file and all folders are kept, or
it fails, and then everything is. -/
theorem NewFile.write_cases (file : NewFile) (output : String) (files : Files) :
    (∃ files' place, file.write output files = (.success output, files') ∧
      files.placeOf? file.path = some place ∧ files'.at? place = some (.text file.content) ∧
      files.KeepsFolders files') ∨
    ∃ obstacle, file.write output files =
      (.ofFailure (.notSaved file.path obstacle), files) := by
  rw [NewFile.write]
  cases hsave : files.save file.path file.content with
  | error obstacle => exact .inr ⟨_, rfl⟩
  | ok files' =>
    obtain ⟨folder, name, hfollow, htarget, hslash, hfree, rfl⟩ := Files.save_eq_ok hsave
    have hat := Files.at?_ne_folder_of_textBarrier? hfree
    refine .inl ⟨_, name :: folder, rfl, ?_, ?_, Files.keepsFolders_put hat _⟩
    · exact Files.placeOf?_eq_some_iff.2 ⟨folder, name, hfollow, htarget, hslash, rfl⟩
    · rw [Files.at?_put files _ (Files.isTop_of_at?_ne hat), if_pos rfl]

/-- A response that saves a file either puts its text at the place of its name, or fails and leaves
all texts as they are. -/
theorem Response.carryOut_save (file : NewFile) {files : Files} {place : Place}
    (hplace : files.placeOf? file.path = some place) (output : String) :
    (∃ files', (Response.save file output).carryOut files = (.success output, files') ∧
      files'.at? place = some (.text file.content) ∧ files.KeepsFolders files') ∨
    ∃ failure files', (Response.save file output).carryOut files = (.ofFailure failure, files') ∧
      files.Keeps files' := by
  have hwrite : ∀ {made : Files}, files.Keeps made →
      (∃ files', file.write output made = (.success output, files') ∧
        files'.at? place = some (.text file.content) ∧ files.KeepsFolders files') ∨
      ∃ failure files', file.write output made = (.ofFailure failure, files') ∧
        files.Keeps files' := by
    intro made hmade
    rcases file.write_cases output made with
      ⟨files', place', heq, hplace', hat, hfolders⟩ | ⟨_, heq⟩
    · obtain rfl : place = place' :=
        Option.some.inj ((hmade.keepsFolders.placeOf?_eq hplace).symm.trans hplace')
      exact .inl ⟨files', heq, hat, fun other h => hfolders other (hmade.keepsFolders other h)⟩
    · exact .inr ⟨_, _, heq, hmade⟩
  rw [carryOut]
  cases hfolder : file.folder with
  | none => exact hwrite (.refl files)
  | some folder =>
    have hkeeps := files.keeps_makeFolders folder
    dsimp only
    split
    · next obstacle made hmade =>
      rw [hmade] at hkeeps
      exact .inr ⟨_, _, rfl, hkeeps⟩
    · next made hmade =>
      rw [hmade] at hkeeps
      exact hwrite hkeeps

end Teamwork
