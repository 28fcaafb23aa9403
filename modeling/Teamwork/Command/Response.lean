import Teamwork.Command.Failure
import Teamwork.Command.Files
import Teamwork.Command.Listing
import Teamwork.Command.Path
import Teamwork.Command.Request
import Teamwork.Sample
import Teamwork.Snapshot.Writing

/-!
# Responses

What the program does about a request, as a function of the time and of what it finds in files. A
response says what to print and what to save, and is carried out elsewhere; so everything the
program decides can be reasoned about without files and clocks.

## Main definitions

* `Response` — what to do.
* `Request.names` — the files that a request looks at.
* `Request.respond` — the response to a request.
-/

namespace Teamwork

/-- A file to be written. -/
structure NewFile where
  /-- The name of the file. -/
  path : String
  /-- A folder to be made first, if there is none. -/
  folder : Option String
  /-- The text of the file. -/
  content : String
  deriving DecidableEq, Repr

/-- What the program does about a request. -/
inductive Response where
  /-- Print something. -/
  | say (output : String)
  /-- Write a file, and then print something. -/
  | save (file : NewFile) (output : String)
  /-- Give up. -/
  | fail (failure : Failure)
  /-- Break down, because a date is out of range. -/
  | crash
  deriving DecidableEq, Repr

/-! ### Files that are read -/

/-- The settings in a file. -/
def settingsFrom (path : String) : Found → Except Failure Settings
  | .missing => .error (.settingsMissing path)
  | .unreadable obstacle => .error (.settingsUnreadable path obstacle.message)
  | .text s => (Settings.read s).mapError (.settingsRefused path)

/-- The name of the settings file that belongs to a data file. -/
def settingsBeside (data : String) : String :=
  Path.beside data "collab.toml"

/-- The settings for a data file. A settings file that is asked for by name must be there; the one
beside the data need not. -/
def settingsFor (look : String → Found) (data : String) : Option String → Except Failure Settings
  | some path => settingsFrom path (look path)
  | none =>
    match look (settingsBeside data) with
    | .missing => .ok .standard
    | found => settingsFrom (settingsBeside data) found

/-- The graph in a data file. -/
def graphFrom (path : String) : Found → Except Failure Graph
  | .missing => .error (.dataMissing path)
  | .unreadable obstacle => .error (.dataUnreadable path obstacle.message)
  | .text s => ((Snapshot.load s).mapError (.dataMalformed path s)).map (·.graph)

/-! ### Tasks -/

/-- The snapshot of a graph as a file, in a folder that is made if there is none. -/
def snapshotFile (g : Graph) (path : String) : NewFile where
  path
  folder := (Path.folder? path).filter (· ≠ "")
  content := Snapshot.write g

/-- The interactions of so many last days. -/
def lastDays? (now : Time.Timestamp) (days : UInt32) : Option Selection :=
  (Time.Span.ofDays? days.toNat).bind (Selection.withinLast? · now)

/-- The interactions of so many last days, or of some kinds, or both; nothing where all count. The
result is missing when the days lead out of range. -/
def selectionFor? (now : Time.Timestamp) (days : Option UInt32) (kinds : List Kind) :
    Option (Option Selection) :=
  match days with
  | none => some (if kinds = [] then none else some (.kinds kinds))
  | some n => (lastDays? now n).map fun s => some (if kinds = [] then s else .both s (.kinds kinds))

/-- How many last days count. -/
def Window.days (settings : Settings) : Window → Option UInt32
  | all => none
  | lastDays n => some n
  | recent => some settings.recentDays

namespace Task

/-- The response to the question for neighbors. -/
def respondNeighbors (now : Time.Timestamp) (g : Graph) (employee : String) (days : Option UInt32)
    (shape : Shape) : Response :=
  match selectionFor? now days [] with
  | none => .crash
  | some selection =>
    let row := (g.selectedTies selection).row employee
    match shape with
    | .text => .say (Listing.neighbors g employee days row)
    | .json => .say (Listing.neighborsJson g row)

/-- The response to the question for the closest collaborators. -/
def respondTop (g : Graph) (employee : String) (limit : Nat) (shape : Shape) : Response :=
  let ranked := g.top employee limit
  match shape with
  | .text => .say (Listing.top g employee limit ranked)
  | .json => .say (Listing.topJson g ranked)

/-- The response to the wish for a drawing. A file gets the ending of the format if it has none. -/
def respondDraw (now : Time.Timestamp) (drawing : Drawing.Settings) (g : Graph) (format : Format)
    (days : Option UInt32) (kinds : List Kind) (out : Option String) : Response :=
  match selectionFor? now days kinds with
  | none => .crash
  | some selection =>
    let content := format.draw drawing g.employees (g.selectedTies selection)
    match out with
    | none => .say content
    | some path =>
      let path := if Path.hasExtension path then path else Path.addExtension path format.extension
      .save ⟨path, none, content⟩ ("Wrote " ++ format.name ++ " export to " ++ path ++ "\n")

/-- The response to the wish to record an interaction. The data file is written only if the log has
grown. -/
def respondRecord (data : String) (g : Graph) (i : Interaction) (byIdentity : Bool) : Response :=
  match if byIdentity then g.recordByIdentity i else g.record i with
  | .error e => .fail (.notRecorded i.issueKey e)
  | .ok (.recorded, g) =>
    .save (snapshotFile g data) ("Recorded " ++ i.kind.name ++ " " ++ i.issueKey ++ " between " ++
      i.employeeA ++ " and " ++ i.employeeB ++ "\n")
  | .ok (.ignoredSelf, _) =>
    .say ("Ignored " ++ i.issueKey ++ ": both participants are the same employee\n")

/-- The response to a question about employees, or a failure if one of them is not registered. -/
def aboutEmployees (g : Graph) (ids : List String) (response : Response) : Response :=
  match ids.find? (· ∉ g.employees) with
  | some id => .fail (.unknownEmployee id)
  | none => response

/-- The response to a task on the graph in a data file. -/
def respond (now : Time.Timestamp) (settings : Settings) (data : String) (g : Graph) :
    Task → Response
  | neighbors employee window shape =>
    aboutEmployees g [employee]
      (respondNeighbors now g employee (window.days settings) shape)
  | top employee limit shape =>
    aboutEmployees g [employee] (respondTop g employee (limit.getD settings.topLimit) shape)
  | chain source goal =>
    aboutEmployees g [source, goal]
      (.say (Listing.chain g source goal (g.chain source goal)))
  | draw format days kinds out =>
    respondDraw now settings.drawing g (format.getD settings.drawing.format) days kinds out
  | summary .text => .say (Listing.summary data g.summary)
  | summary .json => .say (Listing.summaryJson g.summary)
  | record issueKey source goal kind time byIdentity =>
    respondRecord data g
      { issueKey, employeeA := source, employeeB := goal, kind, timestamp := time.getD now }
      byIdentity

end Task

/-! ### Requests -/

namespace Request

/-- The files that a request looks at. -/
def names : Request → List String
  | sample _ => []
  | onData data settings task =>
    if task.usesSettings then [settings.getD (settingsBeside data), data] else [data]

/-- The response to the wish for a sample. -/
def respondSample (now : Time.Timestamp) (out : String) : Response :=
  match Sample.graph? now with
  | none => .crash
  | some g =>
    .save (snapshotFile g out) ("Wrote sample graph to " ++ out ++ " (" ++
      toString g.summary.employees ++ " employees, " ++ toString g.summary.identities ++
      " chat identities, " ++ toString g.summary.interactions ++ " interactions)\n")

/-- The response to a request. -/
def respond (now : Time.Timestamp) (look : String → Found) : Request → Response
  | sample out => respondSample now out
  | onData data settings task =>
    match if task.usesSettings then settingsFor look data settings else .ok .standard with
    | .error failure => .fail failure
    | .ok settings =>
      match graphFrom data (look data) with
      | .error failure => .fail failure
      | .ok g => task.respond now settings data g

end Request

end Teamwork
