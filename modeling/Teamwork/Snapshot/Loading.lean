import Teamwork.Graph
import Teamwork.Snapshot.Names
import Teamwork.Snapshot.Syntax
import Teamwork.Text.Quoted
import Teamwork.Time.Reading

/-!
# Loading a graph from a snapshot

A snapshot loads if its text is an object with the three arrays it needs. Its records are then
entered one by one, all employees before the chat identities and those before the interactions,
whatever order the text has them in. A record that cannot be read, lacks a field, holds a value that
makes no sense or is refused by the graph is left out, and so is an interaction of an employee with
themselves. The ties are never read from a snapshot; they are replayed from the log that was loaded.

## Main definitions

* `Snapshot.Issue` — why a record was left out, with `Issue.reason`.
* `Snapshot.Intake` — what became of the elements of one array.
* `Snapshot.enterAll` — the elements entered one after the other, and the account of them.
* `Snapshot.LoadError` — why a snapshot does not load, with `LoadError.message`.
* `Snapshot.load` — the graph of a snapshot, with an account of every record.
-/

namespace Teamwork.Snapshot

/-- Why a record was left out. -/
inductive Issue where
  /-- It could not be read. -/
  | syntactic (fault : Fault)
  /-- A field is missing. -/
  | missingField (name : String)
  /-- The value of a field makes no sense. -/
  | invalidField (name value : String)
  /-- The graph refused it. -/
  | refused (error : GraphError)
  /-- It is an interaction of an employee with themselves. -/
  | selfInteraction
  deriving DecidableEq, Repr

/-- Why a record of `source` was left out, in words. An interaction of an employee with themselves
is left out without a word. -/
def Issue.reason (source : List Char) : Issue → Option String
  | syntactic fault => some (fault.message source)
  | missingField name => some ("missing field `" ++ name ++ "`")
  | invalidField name value => some ("invalid `" ++ name ++ "` value " ++ Text.quoted value)
  | refused error => some error.message
  | selfInteraction => none

/-! ### Records -/

/-- A field that a record must have. -/
def required (fields : Fields) (name : String) : Except Issue String :=
  match fields[name]? with
  | some value => .ok value
  | none => .error (.missingField name)

/-- A field that is empty if a record does not have it. -/
def optional (fields : Fields) (name : String) : String :=
  fields[name]?.getD ""

/-- The employee that a record describes. An empty id counts as missing. -/
def employeeOf (fields : Fields) : Except Issue Employee := do
  let id ← required fields Names.id
  if id = "" then .error (.missingField Names.id)
  else
    return {
      id
      name := optional fields Names.name
      email := optional fields Names.email
      department := optional fields Names.department }

/-- The external id of a chat identity, under its present name or its old one. -/
def externalIdOf (fields : Fields) : Except Issue String :=
  match fields[Names.externalId]?, fields[Names.oldExternalId]? with
  | some value, _ => .ok value
  | none, some value => .ok value
  | none, none => .error (.missingField Names.externalId)

/-- The chat identity that a record describes. -/
def identityOf (fields : Fields) : Except Issue Identity := do
  let externalId ← externalIdOf fields
  let employeeId ← required fields Names.employeeId
  return { externalId, handle := optional fields Names.handle, employeeId }

/-- The meaning of a field, if its value has one. -/
def meaning {α : Type} (read? : String → Option α) (name value : String) : Except Issue α :=
  match read? value with
  | some a => .ok a
  | none => .error (.invalidField name value)

/-- The interaction that a record describes. All fields have to be there before the meaning of any
is asked for. -/
def interactionOf (fields : Fields) : Except Issue Interaction := do
  let issueKey ← required fields Names.issueKey
  let employeeA ← required fields Names.employeeA
  let employeeB ← required fields Names.employeeB
  let kindText ← required fields Names.kind
  let timeText ← required fields Names.timestamp
  let kind ← meaning Kind.read? Names.kind kindText
  let timestamp ← meaning Time.Timestamp.read? Names.timestamp timeText
  return { issueKey, employeeA, employeeB, kind, timestamp }

/-! ### Entering records -/

/-- Enter the employee that a record describes. -/
def enterEmployee (g : Graph) (fields : Fields) : Except Issue Graph := do
  (g.addEmployee (← employeeOf fields)).mapError .refused

/-- Enter the chat identity that a record describes. -/
def enterIdentity (g : Graph) (fields : Fields) : Except Issue Graph := do
  (g.addIdentity (← identityOf fields)).mapError .refused

/-- Enter the interaction that a record describes into the log. -/
def enterInteraction (g : Graph) (fields : Fields) : Except Issue Graph := do
  match ← (g.append (← interactionOf fields)).mapError .refused with
  | (.recorded, g) => return g
  | (.ignoredSelf, _) => .error .selfInteraction

/-- Enter one element of an array. -/
def enterSlot (enter : Graph → Fields → Except Issue Graph) (g : Graph) (slot : Slot) :
    Except Issue Graph :=
  match slot with
  | .ok fields => enter g fields
  | .error fault => .error (.syntactic fault)

/-- What became of the elements of one array. -/
structure Intake where
  /-- How many elements were entered. -/
  loaded : Nat
  /-- The index of every element that was left out, ascending, and why. -/
  skipped : List (Nat × Issue)
  deriving DecidableEq, Repr

/-- Enter the elements of an array one after the other, and keep an account of them. An element that
is entered is counted, on from `loaded`; one that is left out is listed with its index, counted on
from `index`. -/
def enterAll (enter : Graph → Fields → Except Issue Graph) :
    (index loaded : Nat) → Graph → List Slot → Graph × Intake
  | _, loaded, g, [] => (g, ⟨loaded, []⟩)
  | index, loaded, g, slot :: slots =>
    match enterSlot enter g slot with
    | .ok g => enterAll enter (index + 1) (loaded + 1) g slots
    | .error issue =>
      let (g, intake) := enterAll enter (index + 1) loaded g slots
      (g, { intake with skipped := (index, issue) :: intake.skipped })

/-! ### Whole snapshots -/

/-- A graph with an account of the records it was loaded from. -/
structure Loaded where
  /-- The graph. -/
  graph : Graph
  /-- The intake of employees. -/
  employees : Intake
  /-- The intake of chat identities. -/
  identities : Intake
  /-- The intake of interactions. -/
  interactions : Intake
  deriving DecidableEq

/-- How many records were left out. -/
def Loaded.totalSkipped (loaded : Loaded) : Nat :=
  loaded.employees.skipped.length + loaded.identities.skipped.length +
    loaded.interactions.skipped.length

/-- Why a snapshot does not load. -/
inductive LoadError where
  /-- Its text is wrong outside of records. -/
  | syntactic (fault : Fault)
  /-- It lacks an array. -/
  | missingArray (name : String)
  deriving DecidableEq, Repr

/-- Why the snapshot `source` does not load, in words. -/
def LoadError.message (source : List Char) : LoadError → String
  | syntactic fault => "Malformed document: " ++ fault.message source
  | missingArray name => "Malformed document: missing top-level array `" ++ name ++ "`"

/-- Enter the records of three arrays into the empty graph and replay the log. -/
def enterArrays (employees identities interactions : List Slot) : Loaded :=
  let (g, employees) := enterAll enterEmployee 0 0 Graph.empty employees
  let (g, identities) := enterAll enterIdentity 0 0 g identities
  let (g, interactions) := enterAll enterInteraction 0 0 g interactions
  { graph := g.rebuild, employees, identities, interactions }

/-- The array with one of several names, the first that is there. It is missed under the first. -/
def arrayOf (arrays : Arrays) (name : String) (others : List String) :
    Except LoadError (List Slot) :=
  match (name :: others).findSome? (arrays[·]?) with
  | some slots => .ok slots
  | none => .error (.missingArray name)

/-- The graph of a snapshot given as characters. -/
def loadChars (cs : List Char) : Except LoadError Loaded := do
  let arrays ← (readArrays cs).mapError .syntactic
  let employees ← arrayOf arrays Names.employees []
  let identities ← arrayOf arrays Names.identities [Names.oldIdentities]
  let interactions ← arrayOf arrays Names.interactions []
  return enterArrays employees identities interactions

/-- The graph of a snapshot, with an account of its records. -/
def load (text : String) : Except LoadError Loaded :=
  loadChars text.toList

end Teamwork.Snapshot
