import Teamwork.Interaction
import Teamwork.Staff

/-!
# Ties between employees

How often employees have worked together, as a table of rows: one row per employee, holding the
weight of the tie to every other employee the first has worked with. A tie is kept in the rows of
both its ends. Weights are 32-bit words.

Ties are always derived from a log of interactions. Adding one interaction at a time and replaying
a whole log go through the same operation, `Ties.join`.

## Main definitions

* `Row`, `Ties` — a row, and the whole table.
* `Ties.join` — one more interaction between two employees.
* `Ties.replay` — the ties that the accepted part of a log makes.
* `Ties.isSymmetric` — whether both ends of every tie agree.
* `Ties.edges` — every tie once, from its lesser end.

## Main results

* `Ties.join_self` — nobody is tied to themselves.
-/

namespace Teamwork

/-- The weights of the ties of one employee, by the id at the other end. -/
abbrev Row := Keyed UInt32

/-- The rows of all employees. -/
abbrev Ties := Keyed Row

/-- A tie between two different employees. -/
structure Edge where
  /-- The lesser id. -/
  low : String
  /-- The greater id. -/
  high : String
  /-- How often the two have worked together. -/
  weight : UInt32
  deriving DecidableEq, Repr

/-- A row with one more interaction with `id`. -/
def Row.bump (row : Row) (id : String) : Row :=
  row.alter id fun weight => some (weight.getD 0 + 1)

namespace Ties

/-- The row of an employee, empty for one without any. -/
def row (ties : Ties) (id : String) : Row :=
  ties[id]?.getD ∅

/-- The ids tied to an employee, ascending. -/
def neighbors (ties : Ties) (id : String) : List String :=
  (ties.row id).keys

/-- The weight that the row of `a` holds for `b`. -/
def weight? (ties : Ties) (a b : String) : Option UInt32 :=
  (ties.row a)[b]?

/-- The row of `a` with one more interaction with `b`; the row is made if there is none. -/
def bump (ties : Ties) (a b : String) : Ties :=
  ties.alter a fun row => some ((row.getD ∅).bump b)

/-- One more interaction between two employees, in the rows of both. Nobody is tied to
themselves. -/
def join (ties : Ties) (a b : String) : Ties :=
  if a = b then ties else (ties.bump a b).bump b a

/-- An empty row for each of the ids. -/
def ofIds (ids : List String) : Ties :=
  ids.foldl (fun ties id => ties.insert id ∅) ∅

/-- The ties made by the accepted interactions of a log, with a row for each of the ids, tied to
somebody or not. -/
def replay (ids : List String) (log : List Interaction) (accepts : Interaction → Bool) : Ties :=
  (log.filter accepts).foldl (fun ties i => ties.join i.employeeA i.employeeB) (ofIds ids)

/-- Whether each row entry is found with the same weight in the row at its other end. -/
def isSymmetric (ties : Ties) : Bool :=
  ties.toList.all fun (a, row) => row.toList.all fun (b, weight) =>
    ties.weight? b a = some weight

/-- The entries of a row whose other end is greater. -/
def upperEdges (low : String) (row : Row) : List Edge :=
  (row.toList.filter fun (high, _) => low < high).map fun (high, weight) => { low, high, weight }

/-- Every tie once, as the row of its lesser end has it, ascending. -/
def edges (ties : Ties) : List Edge :=
  ties.toList.flatMap fun (low, row) => upperEdges low row

@[simp]
theorem join_self (ties : Ties) (a : String) : ties.join a a = ties := by
  simp [join]

theorem mem_edges {ties : Ties} {e : Edge} :
    e ∈ ties.edges ↔ e.low < e.high ∧ ties.weight? e.low e.high = some e.weight := by
  obtain ⟨low, high, weight⟩ := e
  simp only [edges, upperEdges, List.mem_flatMap, List.mem_map, List.mem_filter, Prod.exists,
    Std.ExtTreeMap.mem_toList_iff_getElem?_eq_some, weight?, row, decide_eq_true_eq, Edge.mk.injEq]
  constructor
  · rintro ⟨a, row, ha, b, w, ⟨hb, hlt⟩, rfl, rfl, rfl⟩
    exact ⟨hlt, by simp [ha, hb]⟩
  · rintro ⟨hlt, hw⟩
    cases hrow : ties[low]? with
    | none => simp [hrow] at hw
    | some row => exact ⟨low, row, hrow, high, weight, ⟨by simpa [hrow] using hw, hlt⟩, by simp⟩

end Ties

end Teamwork
