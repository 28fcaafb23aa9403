import Teamwork.Ties

/-!
# The network of ties

The ties as an undirected graph: its nodes are the employees with a row, its edges the ties between
two nodes. Groups of employees who are connected, directly or through others, are found by starting
with every node on its own and merging the groups at the two ends of each edge.

## Main definitions

* `Network`, `Network.ofTies` — the graph.
* `Network.degree` — how many edges an employee has.
* `Network.groups` — the connected groups.

## Main results

* `Network.mem_edges_ofTies` — which ties are edges.
-/

namespace Teamwork

/-- An undirected graph of employees. -/
structure Network where
  /-- The ids of the nodes, ascending. -/
  nodes : List String
  /-- The edges between nodes, ascending. -/
  edges : List Edge

namespace Network

/-- A node for every row and an edge for every tie between two of them. -/
def ofTies (ties : Ties) : Network where
  nodes := ties.keys
  edges := ties.edges.filter fun e => ties.contains e.low && ties.contains e.high

/-- How many edges end at an employee, none if it is no node. -/
def degree (net : Network) (id : String) : Nat :=
  net.edges.countP fun e => e.low = id || e.high = id

/-- The groups of a list with those that hold `a` or `b` made one. -/
def merge (groups : List (List String)) (a b : String) : List (List String) :=
  let (touched, others) := groups.partition fun group => group.contains a || group.contains b
  touched.flatten :: others

/-- The groups of connected nodes. A node without edges is a group of its own. -/
def groups (net : Network) : List (List String) :=
  net.edges.foldl (fun groups e => merge groups e.low e.high) (net.nodes.map fun id => [id])

theorem mem_edges_ofTies {ties : Ties} {e : Edge} :
    e ∈ (ofTies ties).edges ↔
      e.low < e.high ∧ ties.weight? e.low e.high = some e.weight ∧ e.low ∈ ties ∧
        e.high ∈ ties := by
  simp only [ofTies, List.mem_filter, Ties.mem_edges, Bool.and_eq_true,
    Std.ExtTreeMap.contains_iff_mem, and_assoc]

end Network

end Teamwork
