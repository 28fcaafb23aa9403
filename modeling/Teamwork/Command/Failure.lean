import Teamwork.Settings
import Teamwork.Snapshot.Loading
import Teamwork.Text.Case

/-!
# Failures

Why a request that was understood is not fulfilled. Each failure has a message and an exit code.
Failures of settings, of the content of the data file and of ids have codes of their own. Those of
files do not: their code follows from words in the message, in which the name of the file counts
too.

## Main definitions

* `Failure` — the failures, with `Failure.message` and `Failure.code`.

## Main results

* `Failure.code_dataMissing` — the code of a data file that is missing, whatever its name.
-/

namespace Teamwork

/-- Why a request is not fulfilled. -/
inductive Failure where
  /-- There is no settings file under the name that was given. -/
  | settingsMissing (path : String)
  /-- The settings file cannot be read. -/
  | settingsUnreadable (path reason : String)
  /-- The settings are refused. -/
  | settingsRefused (path : String) (error : SettingsError)
  /-- There is no data file. -/
  | dataMissing (path : String)
  /-- The data file cannot be read. -/
  | dataUnreadable (path reason : String)
  /-- The text of the data file does not load. -/
  | dataMalformed (path source : String) (error : Snapshot.LoadError)
  /-- An employee that was asked about is not registered. -/
  | unknownEmployee (id : String)
  /-- An interaction is refused. -/
  | notRecorded (issueKey : String) (error : GraphError)
  /-- A folder cannot be made. -/
  | folderNotMade (path reason : String)
  /-- A file cannot be written. -/
  | notSaved (path reason : String)
  deriving DecidableEq, Repr

/-- Whether a text occurs in another. -/
def occursIn (part : List Char) : List Char → Bool
  | [] => part = []
  | c :: cs => part.isPrefixOf (c :: cs) || occursIn part cs

namespace Failure

/-- The text of a failure, from the general to the particular. -/
def message : Failure → String
  | settingsMissing path => "Cannot load config: " ++ path ++ ": Config file not found: " ++ path
  | settingsUnreadable path reason =>
    "Cannot load config: " ++ path ++ ": IO error: " ++ reason ++ ": " ++ reason
  | settingsRefused path error => "Cannot load config: " ++ path ++ ": " ++ error.message
  | dataMissing path =>
    "Data file not found: " ++ path ++ ". Run `collab demo --out " ++ path ++ "` first."
  | dataUnreadable path reason => "Cannot read " ++ path ++ ": " ++ reason
  | dataMalformed path source error =>
    "Cannot load " ++ path ++ ": " ++ error.message source.toList
  | unknownEmployee id => (GraphError.unknownEmployee id).message
  | notRecorded issueKey error => "Cannot record " ++ issueKey ++ ": " ++ error.message
  | folderNotMade path reason => "Cannot create directory " ++ path ++ ": " ++ reason
  | notSaved path reason => "Cannot write " ++ path ++ ": " ++ reason

/-- The exit code that follows from words in a message, in any case. -/
def codeOfWords (message : String) : Nat :=
  let cs := (Text.lower message).toList
  if occursIn "data file not found".toList cs then 3
  else if occursIn "config".toList cs then 2
  else 1

/-- The exit code of a refusal by the graph. -/
def codeOfGraphError : GraphError → Nat
  | .unknownEmployee _ | .unknownIdentity _ => 5
  | .duplicateEmployee _ | .duplicateIdentity _ => 1

/-- The exit code of a failure. -/
def code (failure : Failure) : Nat :=
  match failure with
  | settingsMissing _ | settingsUnreadable .. | settingsRefused .. => 2
  | dataMalformed .. => 4
  | unknownEmployee id => codeOfGraphError (.unknownEmployee id)
  | notRecorded _ error => codeOfGraphError error
  | dataMissing _ | dataUnreadable .. | folderNotMade .. | notSaved .. =>
    codeOfWords failure.message

theorem occursIn_append {part cs : List Char} (h : part <+: cs) (rest : List Char) :
    occursIn part (cs ++ rest) = true := by
  have hp := List.isPrefixOf_iff_prefix.2 (h.trans (List.prefix_append cs rest))
  cases hc : cs ++ rest with
  | nil => simpa [occursIn, hc] using hp
  | cons c r => rw [occursIn, ← hc, hp, Bool.true_or]

theorem codeOfWords_eq_three {message : String}
    (h : occursIn "data file not found".toList (Text.lower message).toList = true) :
    codeOfWords message = 3 :=
  if_pos h

theorem message_dataMissing (path : String) : (dataMissing path).message =
    "Data file not found: " ++ path ++ ". Run `collab demo --out " ++ path ++ "` first." :=
  rfl

theorem lower_dataMissing (path : String) : ∃ rest,
    (Text.lower (dataMissing path).message).toList = "data file not found: ".toList ++ rest := by
  have key : "Data file not found: ".toList.map Char.toLower = "data file not found: ".toList := by
    decide
  rw [message_dataMissing, Text.lower, String.toList_ofList, String.append_assoc,
    String.append_assoc, String.append_assoc, String.toList_append, List.map_append, key]
  exact ⟨_, rfl⟩

/-- A data file that is missing has its code whatever its name is. -/
theorem code_dataMissing (path : String) : (dataMissing path).code = 3 := by
  obtain ⟨rest, h⟩ := lower_dataMissing path
  have hp : "data file not found".toList <+: "data file not found: ".toList := by decide
  have hc : (dataMissing path).code = codeOfWords (dataMissing path).message := rfl
  rw [hc]
  apply codeOfWords_eq_three
  rw [h]
  exact occursIn_append hp rest

end Failure

end Teamwork
