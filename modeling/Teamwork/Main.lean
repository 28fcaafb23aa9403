import Std.Time.DateTime.Timestamp
import Teamwork.Command.Run

/-!
# The program

Reads the clock, the environment and the files that a request looks at, and carries out the
response. What the response is, is decided elsewhere, without looking at any of these.

## Main definitions

* `main` — the program.
-/

namespace Teamwork

/-- Why the operating system refuses, in its words and with its number. -/
def reasonOf : IO.Error → String
  | .noFileOrDirectory _ code details
  | .alreadyExists _ code details
  | .inappropriateType _ code details
  | .invalidArgument _ code details
  | .permissionDenied _ code details => s!"{details} (os error {code})"
  | error => toString error

/-- What is found under a name. -/
def lookUp (name : String) : IO Found := do
  try
    return .text (← IO.FS.readFile name)
  catch
    | .noFileOrDirectory .. => return .missing
    | error =>
      try
        discard (IO.FS.realPath name)
        return .unreadable (.refused (reasonOf error))
      catch _ =>
        return .missing

/-- The time. -/
def currentTime : IO (Option Time.Timestamp) := do
  let now ← Std.Time.Timestamp.now
  return Time.Timestamp.ofNanos? now.toNanosecondsSinceUnixEpoch.val

/-- Make a folder, in a folder that is there, unless there is one already. -/
def makeOrFindFolder (name : String) : IO Unit := do
  try
    IO.FS.createDir name
  catch error =>
    unless error matches .alreadyExists .. do throw error
    unless ← (← IO.FS.realPath name).isDir do throw error

/-- Make those of several folders that are missing, each in the folder after it. -/
def makeLine : List String → IO Unit
  | [] => return
  | name :: outer => do
    try
      makeOrFindFolder name
    catch
      | .noFileOrDirectory .. => do
        makeLine outer
        makeOrFindFolder name
      | error => throw error

/-- Write a file into a folder, which is made if there is none. -/
def NewFile.save (file : NewFile) : IO (Option Failure) := do
  if let some folder := file.folder then
    try
      makeLine (Path.lineage folder)
    catch error =>
      return some (.folderNotMade folder (reasonOf error))
  try
    IO.FS.writeFile file.path file.content
    return none
  catch error =>
    return some (.notSaved file.path (reasonOf error))

/-- The report on a response that was carried out. -/
def Response.perform : Response → IO Report
  | say output => return .success output
  | fail failure => return .ofFailure failure
  | crash => return .crash
  | save file output => do
    match ← file.save with
    | some failure => return .ofFailure failure
    | none => return .success output

/-- The report on a request. -/
def Request.perform (request : Request) : IO Report := do
  let some now ← currentTime | return .crash
  let found ← request.names.mapM fun name => return (name, ← lookUp name)
  (request.respond now fun name => (found.lookup name).getD .missing).perform

/-- The report on a command line. -/
def perform (words : List String) : IO Report := do
  let env := { data := ← IO.getEnv "COLLAB_DATA", settings := ← IO.getEnv "COLLAB_CONFIG" }
  match Request.ofArguments env words with
  | .ok request => request.perform
  | .error stop =>
    if stop = .usage then IO.eprint Report.usage
    return .ofStop stop

end Teamwork

/-- The program. -/
def main (words : List String) : IO UInt32 := do
  let report ← Teamwork.perform words
  IO.print report.output
  if let some error := report.error then IO.eprintln error
  return UInt32.ofNat report.code
