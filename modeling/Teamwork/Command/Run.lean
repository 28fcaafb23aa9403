import Teamwork.Command.Response

/-!
# Runs

A whole run of the program: from the words of the command line to what is printed, the exit code and
the files that are left behind.

## Main definitions

* `Report` — what a run shows.
* `Response.carryOut` — a response carried out on a tree of files.
* `Files.run` — a run on a tree of files.
-/

namespace Teamwork

/-- What a run shows. -/
structure Report where
  /-- The exit code. -/
  code : Nat
  /-- What is printed. -/
  output : String
  /-- The message of the failure, if there was one. -/
  error : Option String
  deriving DecidableEq, Repr

namespace Report

/-- What a run shows that succeeded. -/
def success (output : String) : Report :=
  ⟨0, output, none⟩

/-- What a run shows that gave up. -/
def ofFailure (failure : Failure) : Report :=
  ⟨failure.code, "", some ("Error: " ++ failure.message)⟩

/-- What a run shows that broke down. -/
def crash : Report :=
  ⟨101, "", none⟩

/-- A reminder of what may be given. -/
def usage : String :=
  "Usage: collab [OPTIONS] <COMMAND>\n\nCommands:\n" ++
    String.join (Request.grammars.map fun (name, _) => "  " ++ name ++ "\n")

/-- What a run shows that was not asked for anything. -/
def ofStop : Arguments.Stop → Report
  | .usage => ⟨2, "", none⟩
  | .help => success usage
  | .version => success "collab 0.2.0\n"

end Report

/-- The report on a file that was written into a folder that is there, and the tree after it. -/
def NewFile.write (file : NewFile) (output : String) (files : Files) : Report × Files :=
  match files.save file.path file.content with
  | .error obstacle => (.ofFailure (.notSaved file.path obstacle.message), files)
  | .ok files => (.success output, files)

/-- The report on a response that was carried out, and the tree of files after it. -/
def Response.carryOut (files : Files) : Response → Report × Files
  | say output => (.success output, files)
  | fail failure => (.ofFailure failure, files)
  | crash => (.crash, files)
  | save file output =>
    match file.folder with
    | none => file.write output files
    | some folder =>
      match files.makeFolders folder with
      | (some obstacle, files) => (.ofFailure (.folderNotMade folder obstacle.message), files)
      | (none, files) => file.write output files

/-- The report on a run on a tree of files, and the tree after it. -/
def Files.run (files : Files) (env : Request.Environment) (now : Time.Timestamp)
    (words : List String) : Report × Files :=
  match Request.ofArguments env words with
  | .error stop => (.ofStop stop, files)
  | .ok request => (request.respond now files.look).carryOut files

end Teamwork
