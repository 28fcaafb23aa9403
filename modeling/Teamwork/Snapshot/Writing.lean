import Teamwork.Graph
import Teamwork.Snapshot.Names
import Teamwork.Snapshot.Quote
import Teamwork.Time.Writing

/-!
# Writing a graph as a snapshot

The written form is JSON with one record a line: employees and chat identities in ascending order of
their ids, interactions in the order they were recorded. It depends on nothing but the registries
and the log, so equal graphs have equal snapshots.

## Main definitions

* `Snapshot.employeeFields`, `Snapshot.identityFields`, `Snapshot.interactionFields` — the fields of
  each kind of record, in order.
* `Snapshot.writeRecord`, `Snapshot.writeArray` — a record, and an array of records.
* `Snapshot.write` — the snapshot of a graph.
-/

namespace Teamwork.Snapshot

/-- The fields of an employee's record. -/
def employeeFields (e : Employee) : List (String × String) :=
  [(Names.id, e.id), (Names.name, e.name), (Names.email, e.email),
    (Names.department, e.department)]

/-- The fields of a chat identity's record. -/
def identityFields (i : Identity) : List (String × String) :=
  [(Names.externalId, i.externalId), (Names.handle, i.handle), (Names.employeeId, i.employeeId)]

/-- The fields of an interaction's record. -/
def interactionFields (i : Interaction) : List (String × String) :=
  [(Names.issueKey, i.issueKey), (Names.employeeA, i.employeeA), (Names.employeeB, i.employeeB),
    (Names.kind, i.kind.name), (Names.timestamp, i.timestamp.write)]

/-- A record with the given fields, without blanks. -/
def writeRecord (fields : List (String × String)) : List Char :=
  '\x7b' :: [','].intercalate
    (fields.map fun (name, value) => writeString name ++ ':' :: writeString value) ++ ['\x7d']

/-- An array under its name, with one record a line; an empty one on a single line. -/
def writeArray (name : String) (records : List (List Char)) : List Char :=
  ' ' :: ' ' :: writeString name ++ [':', ' ', '['] ++
    (if records = [] then []
    else '\n' :: [',', '\n'].intercalate (records.map fun r => "    ".toList ++ r) ++
      ['\n', ' ', ' ']) ++
    [']']

/-- The characters of the snapshot of a graph. -/
def writeChars (g : Graph) : List Char :=
  '\x7b' :: '\n' :: [',', '\n'].intercalate
    [writeArray Names.employees (g.employees.values.map fun e => writeRecord (employeeFields e)),
      writeArray Names.identities (g.identities.values.map fun i => writeRecord (identityFields i)),
      writeArray Names.interactions
        (g.log.toList.map fun i => writeRecord (interactionFields i))] ++
    ['\n', '\x7d', '\n']

/-- The snapshot of a graph. -/
def write (g : Graph) : String :=
  String.ofList (writeChars g)

end Teamwork.Snapshot
