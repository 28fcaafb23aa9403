import Teamwork.Selection
import Teamwork.Ties.Chain
import Teamwork.Ties.Network
import Teamwork.Ties.Ranking

/-!
# The collaboration graph

A graph registers employees and their chat identities, keeps a log of interactions in the order
they were recorded, and maintains the ties that the log makes. Entries are only ever added. Every
change is checked first: an id is registered once, a chat identity belongs to a registered
employee, and an interaction joins two registered employees. A change that fails the check leaves
no trace.

Two tables are redundant on purpose. `owners` answers who is behind a chat identity without its
record, and `ties` answers every question about neighbors without the log; `Graph.verify` compares
the second with a fresh replay.

## Main definitions

* `Graph` — the graph, with `Graph.empty`.
* `GraphError` — why a change was refused.
* `Graph.addEmployee`, `Graph.addIdentity`, `Graph.record`, `Graph.recordByIdentity` — the changes.
* `Graph.replay`, `Graph.rebuild`, `Graph.verify` — the ties, from the log.
* `Graph.top`, `Graph.chain`, `Graph.nameOf`, `Graph.resolve` — queries.
* `Graph.summary` — the figures of a graph.
-/

namespace Teamwork

/-- Employees, their chat identities, and how they have worked together. -/
structure Graph where
  /-- The registered employees. -/
  employees : Staff
  /-- The registered chat identities, under their external ids. -/
  identities : Keyed Identity
  /-- The id of the employee behind each chat identity. -/
  owners : Keyed String
  /-- All recorded interactions, the oldest first. -/
  log : Array Interaction
  /-- The ties that the log makes, with a row for every employee. -/
  ties : Ties
  deriving DecidableEq

/-- Why a change was refused. -/
inductive GraphError where
  /-- An employee with this id is registered already. -/
  | duplicateEmployee (id : String)
  /-- A chat identity with this external id is registered already. -/
  | duplicateIdentity (externalId : String)
  /-- No employee with this id is registered. -/
  | unknownEmployee (id : String)
  /-- No chat identity with this external id is registered. -/
  | unknownIdentity (externalId : String)
  deriving DecidableEq, Repr

/-- The text of a refusal. -/
def GraphError.message : GraphError → String
  | duplicateEmployee id => "Duplicate employee: " ++ id
  | duplicateIdentity externalId => "Duplicate chat identity: " ++ externalId
  | unknownEmployee id => "Unknown employee: " ++ id
  | unknownIdentity externalId => "Unknown chat identity: " ++ externalId

/-- What became of an interaction that was not refused. -/
inductive Outcome where
  /-- It is in the log now. -/
  | recorded
  /-- Both participants are one employee, so there is nothing to log. -/
  | ignoredSelf
  deriving DecidableEq, Repr

namespace Graph

/-- The graph without employees. -/
def empty : Graph where
  employees := ∅
  identities := ∅
  owners := ∅
  log := #[]
  ties := ∅

instance : Inhabited Graph := ⟨empty⟩

/-! ### Changes -/

/-- Register an employee, with an empty row of ties. -/
def addEmployee (g : Graph) (e : Employee) : Except GraphError Graph :=
  if e.id ∈ g.employees then
    .error (.duplicateEmployee e.id)
  else
    .ok { g with
      employees := g.employees.insert e.id e
      ties := g.ties.insertIfNew e.id ∅ }

/-- Register a chat identity of a registered employee. -/
def addIdentity (g : Graph) (i : Identity) : Except GraphError Graph :=
  if i.employeeId ∉ g.employees then
    .error (.unknownEmployee i.employeeId)
  else if i.externalId ∈ g.identities then
    .error (.duplicateIdentity i.externalId)
  else
    .ok { g with
      identities := g.identities.insert i.externalId i
      owners := g.owners.insert i.externalId i.employeeId }

/-- Log an interaction without touching the ties, which are then behind the log. -/
def append (g : Graph) (i : Interaction) : Except GraphError (Outcome × Graph) :=
  if i.employeeA ∉ g.employees then .error (.unknownEmployee i.employeeA)
  else if i.employeeB ∉ g.employees then .error (.unknownEmployee i.employeeB)
  else if i.employeeA = i.employeeB then .ok (.ignoredSelf, g)
  else .ok (.recorded, { g with log := g.log.push i })

/-- Record an interaction between two registered employees: in the log and, with one more on both
rows, in the ties. An interaction of an employee with themselves is dropped without a complaint. -/
def record (g : Graph) (i : Interaction) : Except GraphError (Outcome × Graph) :=
  (g.append i).map fun
    | (.recorded, g) => (.recorded, { g with ties := g.ties.join i.employeeA i.employeeB })
    | (.ignoredSelf, g) => (.ignoredSelf, g)

/-- The id of the employee behind a chat identity. -/
def resolve (g : Graph) (externalId : String) : Option String :=
  g.owners[externalId]?

/-- Record an interaction whose participants are named by their chat identities. -/
def recordByIdentity (g : Graph) (i : Interaction) : Except GraphError (Outcome × Graph) :=
  match g.resolve i.employeeA, g.resolve i.employeeB with
  | some a, some b => g.record { i with employeeA := a, employeeB := b }
  | none, _ => .error (.unknownIdentity i.employeeA)
  | some _, none => .error (.unknownIdentity i.employeeB)

/-! ### Ties from the log -/

/-- The ties made by the accepted interactions of the log, with a row for every employee. -/
def replay (g : Graph) (accepts : Interaction → Bool) : Ties :=
  Ties.replay g.employees.keys g.log.toList accepts

/-- The graph with its ties replayed from the whole log. -/
def rebuild (g : Graph) : Graph :=
  { g with ties := g.replay fun _ => true }

/-- Whether the ties are those of a replay of the whole log. -/
def verify (g : Graph) : Bool :=
  g.ties = g.replay fun _ => true

/-- The ties that a selection of interactions makes; those of all interactions without one. -/
def selectedTies (g : Graph) : Option Selection → Ties
  | some selection => g.replay selection.accepts
  | none => g.ties

/-! ### Queries -/

/-- The name to display for an employee, or the id itself for an unregistered one. -/
def nameOf (g : Graph) (id : String) : String :=
  (g.employees[id]?.map (·.name)).getD id

/-- The closest collaborators of an employee, the closest first. -/
def top (g : Graph) (id : String) (limit : Nat) : List (String × UInt32) :=
  (g.ties.row id).top limit

/-- The shortest chain of collaborators between two registered employees. -/
def chain (g : Graph) (source goal : String) : List String :=
  if source ∈ g.employees ∧ goal ∈ g.employees then g.ties.chain source goal else []

/-- The figures of a graph. -/
structure Summary where
  /-- How many employees there are. -/
  employees : Nat
  /-- How many chat identities there are. -/
  identities : Nat
  /-- How many interactions were recorded. -/
  interactions : Nat
  /-- How many pairs of employees are tied. -/
  edges : Nat
  /-- The weights of all ties together. -/
  totalWeight : Nat
  /-- How many employees are tied to nobody. -/
  isolated : Nat
  /-- How many connected groups there are. -/
  components : Nat
  deriving DecidableEq, Repr

/-- The figures of the graph. All but the sizes of the registry of chat identities and of the log
are read off the ties. -/
def summary (g : Graph) : Summary :=
  let net := Network.ofTies g.ties
  { employees := g.ties.size
    identities := g.identities.size
    interactions := g.log.size
    edges := net.edges.length
    totalWeight := net.edges.foldl (fun total e => total + e.weight.toNat) 0
    isolated := g.ties.values.countP (·.isEmpty)
    components := net.groups.length }

end Graph

end Teamwork
