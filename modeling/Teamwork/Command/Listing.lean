import Teamwork.Data.Json
import Teamwork.Graph

/-!
# Listings

What the program shows about a graph: as lines for people, with names in a column of their own, or
as JSON.

## Main definitions

* `Listing.neighbors`, `Listing.neighborsJson` — the neighbors of an employee.
* `Listing.top`, `Listing.topJson` — the closest collaborators of an employee.
* `Listing.chain` — a chain of collaborators.
* `Listing.summary`, `Listing.summaryJson` — the figures of a graph.
-/

namespace Teamwork.Listing

open Data

/-- A text in a column, on the left of it. -/
def leftAligned (width : Nat) (s : String) : String :=
  String.ofList (s.toList.rightpad width ' ')

/-- A number in a column, on the right of it. -/
def rightAligned (width n : Nat) : String :=
  String.ofList ((Nat.toDigits 10 n).leftpad width ' ')

/-- Lines, each with its end. -/
def ofLines (lines : List String) : String :=
  String.join (lines.map (· ++ "\n"))

/-- The text of a value, with the end of its last line. -/
def ofValue (v : Value) : String :=
  Json.write v ++ "\n"

/-- An employee by name and id. -/
def label (g : Graph) (id : String) : String :=
  g.nameOf id ++ " (" ++ id ++ ")"

/-- An employee and a weight. -/
def weighted (g : Graph) (id : String) (weight : UInt32) : String :=
  leftAligned 32 (label g id) ++ " weight=" ++ toString weight.toNat

/-- Lines, or a remark that there are none. -/
def orNone (lines : List String) : List String :=
  if lines = [] then ["  (none)"] else lines

/-- The neighbors of an employee in lines, under a heading that names the last days that count, if
not all do. -/
def neighbors (g : Graph) (employee : String) (days : Option UInt32) (row : Row) : String :=
  let window := match days with
    | some n => " (last " ++ toString n.toNat ++ " days)"
    | none => ""
  ofLines (("Neighbors of " ++ label g employee ++ window ++ ":") ::
    orNone (row.toList.map fun (id, weight) => "  " ++ weighted g id weight))

/-- The neighbors of an employee in JSON. -/
def neighborsJson (g : Graph) (row : Row) : String :=
  ofValue <| .list <| row.toList.map fun (id, weight) =>
    .table [("id", .text id), ("name", .text (g.nameOf id)), ("weight", .nat weight.toNat)]

/-- The closest collaborators of an employee in lines, with their ranks. -/
def top (g : Graph) (employee : String) (limit : Nat) (ranked : List (String × UInt32)) : String :=
  ofLines (("Top " ++ toString limit ++ " collaborators of " ++ label g employee ++ ":") ::
    orNone (ranked.zipIdx.map fun ((id, weight), index) =>
      "  " ++ rightAligned 2 (index + 1) ++ ". " ++ weighted g id weight))

/-- The closest collaborators of an employee in JSON, with their ranks. -/
def topJson (g : Graph) (ranked : List (String × UInt32)) : String :=
  ofValue <| .list <| ranked.zipIdx.map fun ((id, weight), index) =>
    .table [("rank", .nat (index + 1)), ("id", .text id), ("name", .text (g.nameOf id)),
      ("weight", .nat weight.toNat)]

/-- The shortest chain between two employees, or a remark that there is none. -/
def chain (g : Graph) (source goal : String) (ids : List String) : String :=
  let hops := ids.length - 1
  if ids = [] then
    ofLines ["No collaboration path from " ++ label g source ++ " to " ++ label g goal]
  else
    ofLines [" -> ".intercalate (ids.map g.nameOf),
      "  " ++ toString hops ++ if hops = 1 then " hop" else " hops"]

/-- The figures of a graph in lines, under the name of its file. -/
def summary (path : String) (s : Graph.Summary) : String :=
  ofLines (["Collaboration graph " ++ path, ""] ++
    [("Employees:", s.employees), ("Chat identities:", s.identities),
      ("Interactions:", s.interactions), ("Edges:", s.edges), ("Total weight:", s.totalWeight),
      ("Isolated:", s.isolated), ("Components:", s.components)].map
      fun (name, n) => "  " ++ leftAligned 17 name ++ rightAligned 6 n)

/-- The figures of a graph in JSON. -/
def summaryJson (s : Graph.Summary) : String :=
  ofValue <| .table [("employees", .nat s.employees), ("chat_identities", .nat s.identities),
    ("interactions", .nat s.interactions), ("edges", .nat s.edges),
    ("total_weight", .nat s.totalWeight), ("isolated", .nat s.isolated),
    ("components", .nat s.components)]

end Teamwork.Listing
