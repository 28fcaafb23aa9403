import Teamwork.Command.Arguments
import Teamwork.Drawing.Format
import Teamwork.Interaction
import Teamwork.Text.Digits
import Teamwork.Time.Reading

/-!
# Requests

What can be asked of the program on its command line. One command writes a sample to a new file; all
others work on a data file, and some of those look at settings. Two environment variables stand in
for switches that are not given.

## Main definitions

* `Request`, `Task` — what can be asked.
* `Request.grammars` — the switches and operands of every command.
* `Request.ofArguments` — the request that a command line makes.
-/

namespace Teamwork

open Arguments

/-- Which interactions count. -/
inductive Window where
  /-- All. -/
  | all
  /-- Those of so many last days. -/
  | lastDays (days : UInt32)
  /-- Those of as many last days as the settings say. -/
  | recent
  deriving DecidableEq, Repr

/-- The form of an answer. -/
inductive Shape where
  /-- Lines to be read by people. -/
  | text
  /-- JSON. -/
  | json
  deriving DecidableEq, Repr

/-- What can be asked about the graph in a data file. -/
inductive Task where
  /-- The neighbors of an employee. -/
  | neighbors (employee : String) (window : Window) (shape : Shape)
  /-- The closest collaborators of an employee, as many as given or as the settings say. -/
  | top (employee : String) (limit : Option Nat) (shape : Shape)
  /-- The shortest chain between two employees. -/
  | chain (source goal : String)
  /-- A drawing, in the given format or in that of the settings, to a file or to the output. -/
  | draw (format : Option Format) (days : Option UInt32) (kinds : List Kind) (out : Option String)
  /-- The figures of the graph. -/
  | summary (shape : Shape)
  /-- Record an interaction, now if no time is given, between employees or chat identities. -/
  | record (issueKey source goal : String) (kind : Kind) (time : Option Time.Timestamp)
      (byIdentity : Bool)
  deriving DecidableEq, Repr

/-- Whether the settings matter. -/
def Task.usesSettings : Task → Bool
  | neighbors .. | top .. | draw .. => true
  | chain .. | summary .. | record .. => false

/-- What can be asked. -/
inductive Request where
  /-- Write a sample graph to a file. -/
  | sample (out : String)
  /-- A task on the graph in a data file, with settings from a file of the given name, or else from
  one beside the data. -/
  | onData (data : String) (settings : Option String) (task : Task)
  deriving DecidableEq, Repr

namespace Request

/-! ### Values of switches -/

/-- A number in digits. -/
def number? (cs : List Char) : Option Nat :=
  match Text.takeNumber cs.length cs with
  | some (n, []) => some n
  | _ => none

/-- A number of days: a whole number, which may have a sign, from 0 to 2^32 - 1. -/
def readDays? (s : String) : Option UInt32 := do
  let n ← match s.toList with
    | '+' :: cs => number? cs
    | '-' :: cs => (number? cs).filter (· = 0)
    | cs => number? cs
  if n < UInt32.size then some (UInt32.ofNat n) else none

/-- A limit: a whole number, which may have a plus sign, from 0 to 2^64 - 1. -/
def readLimit? (s : String) : Option Nat := do
  let n ← match s.toList with
    | '+' :: cs => number? cs
    | cs => number? cs
  if n < UInt64.size then some n else none

/-- The form of an answer by its name. -/
def readShape? : String → Option Shape
  | "text" => some .text
  | "json" => some .json
  | _ => none

/-! ### What may be given -/

/-- A switch whose value some reading accepts. -/
def reads {α : Type} (name : String) (read? : String → Option α) (repeats : Bool := false) :
    Switch where
  name
  role := .value fun s => (read? s).isSome
  repeats

/-- A switch whose value is any text. -/
def anyText (name : String) : Switch where
  name
  role := .value fun _ => true

/-- A switch whose value is the name of a file. -/
def fileName (name : String) : Switch where
  name
  role := .value (· ≠ "")

/-- A switch without a value. -/
def flag (name : String) : Switch where
  name
  role := .flag

/-- The switches that may be given before and after the command. -/
def everywhere : List Switch :=
  [{ name := "verbose", role := .flag, letter := 'v', repeats := true },
    { name := "quiet", role := .flag, letter := 'q' },
    fileName "config",
    { name := "help", role := .stop .help, letter := 'h' }]

/-- What may be given before the command. -/
def beforeCommand : Grammar where
  switches := everywhere ++ [{ name := "version", role := .stop .version, letter := 'V' }]
  operands := 0

/-- What may be given after each command. -/
def grammars : List (String × Grammar) :=
  [("demo", [fileName "out"], 0),
    ("neighbors", [fileName "data", reads "since-days" readDays?, flag "recent",
      reads "format" readShape?], 1),
    ("top", [fileName "data", reads "limit" readLimit?, reads "format" readShape?], 1),
    ("path", [fileName "data"], 2),
    ("export", [fileName "data", reads "format" Format.read?, reads "since-days" readDays?,
      reads "kind" Kind.read? true, fileName "out"], 0),
    ("stats", [fileName "data", reads "format" readShape?], 0),
    ("record", [fileName "data", anyText "issue", anyText "from", anyText "to",
      reads "kind" Kind.read?, reads "at" Time.Timestamp.read?, flag "by-identity"], 0)].map
    fun (name, switches, operands) => (name, ⟨everywhere ++ switches, operands⟩)

/-! ### From what was given to a request -/

/-- The value of a switch, as what it stands for, if it was given. -/
def valueOf? {α : Type} (given : Given) (name : String) (read? : String → Option α) : Option α :=
  (given.value? name).bind read?

/-- The form of the answer that was asked for. -/
def shapeOf (given : Given) : Shape :=
  (valueOf? given "format" readShape?).getD .text

/-- Which interactions were asked for. There are two ways to say that, and only one may be taken. -/
def windowOf? (given : Given) : Option Window :=
  match valueOf? given "since-days" readDays?, given.has "recent" with
  | some _, true => none
  | some days, false => some (.lastDays days)
  | none, true => some .recent
  | none, false => some .all

/-- The task that a command with its switches and operands gives. -/
def taskOf? (command : String) (given : Given) : Option Task :=
  match command, given.operands with
  | "neighbors", [employee] => return .neighbors employee (← windowOf? given) (shapeOf given)
  | "top", [employee] => return .top employee (valueOf? given "limit" readLimit?) (shapeOf given)
  | "path", [source, goal] => return .chain source goal
  | "export", [] =>
    return .draw (valueOf? given "format" Format.read?) (valueOf? given "since-days" readDays?)
      ((given.values "kind").filterMap Kind.read?) (given.value? "out")
  | "stats", [] => return .summary (shapeOf given)
  | "record", [] =>
    return .record (← given.value? "issue") (← given.value? "from") (← given.value? "to")
      (← valueOf? given "kind" Kind.read?) (valueOf? given "at" Time.Timestamp.read?)
      (given.has "by-identity")
  | _, _ => none

/-- A name of a file from a switch or, if it was not given, from an environment variable, which must
not be empty then. -/
def fileOrStandIn (given : Given) (name : String) (standIn : Option String) :
    Except Stop (Option String) :=
  match given.value? name, standIn with
  | some value, _ => .ok (some value)
  | none, some "" => .error .usage
  | none, standIn => .ok standIn

/-- The environment variables that stand in for switches. -/
structure Environment where
  /-- The name of the data file. -/
  data : Option String
  /-- The name of the settings file. -/
  settings : Option String
  deriving DecidableEq, Repr

/-- The request that a command with its switches and operands makes, after the switches before the
command. Settings named after the command count more than those named before it, and both more than
the environment. -/
def ofGiven (env : Environment) (command : String) (before after : Given) :
    Except Stop Request := do
  let outer ← fileOrStandIn before "config" env.settings
  let inner ← fileOrStandIn after "config" env.settings
  let settings := if after.has "config" then inner else outer
  if command = "demo" then
    return .sample ((after.value? "out").getD "collab.json")
  let data ← fileOrStandIn after "data" env.data
  match taskOf? command after with
  | some task => return .onData (data.getD "collab.json") settings task
  | none => throw .usage

/-- The request that a command line makes. -/
def ofArguments (env : Environment) (words : List String) : Except Stop Request := do
  match ← scan beforeCommand .empty words with
  | (_, []) => throw .usage
  | (before, command :: words) =>
    if command = "help" then
      throw (if words = [] ∨ words.map (fun w => (grammars.lookup w).isSome || w = "help") = [true]
        then .help else .usage)
    match grammars.lookup command with
    | none => throw .usage
    | some g =>
      match ← scan g .empty words with
      | (after, []) => ofGiven env command before after
      | (_, _ :: _) => throw .usage

end Request

end Teamwork
