import Teamwork.Data.Value

/-!
# Tables of a TOML text

The statements of a TOML text add to a tree of tables, and some must not add to others: a table is
opened by one header at most, a dotted key does not reach into a table that a header opened, and no
entry is set twice. So every table remembers how it came about while the text is read. The braces of
an inline table follow the same rules among themselves.

## Main definitions

* `Toml.Origin`, `Toml.Table`, `Toml.Node` — the tree while it grows.
* `Table.set?` — set an entry under a dotted key.
* `Table.open?`, `Table.append?` — open a table, and one more table of an array of tables.
* `Table.toValue` — the finished tree.
-/

namespace Teamwork.Toml

open Data

/-- How a table came about. -/
inductive Origin where
  /-- A header or a pair of braces opened it. -/
  | opened
  /-- It was only mentioned, in the header of a table within it. -/
  | mentioned
  /-- It was only mentioned, in a dotted key. -/
  | dotted
  deriving DecidableEq, Repr

/-- A table with entries of some type. -/
structure Table (α : Type) where
  /-- How the table came about. -/
  origin : Origin
  /-- The entries, the oldest first. -/
  entries : List (String × α)
  deriving Repr

/-- What can stand under a key. -/
inductive Node where
  /-- A finished value. -/
  | value (v : Value)
  /-- A table that may grow. -/
  | table (t : Table Node)
  /-- An array of tables, of which the latest may grow. -/
  | tables (latest : Table Node) (earlier : List (Table Node))
  deriving Repr

namespace Table

/-- A table that was opened and has no entries. -/
def blank : Table Node :=
  ⟨.opened, []⟩

/-- What stands under a key. -/
def get? (t : Table Node) (key : String) : Option Node :=
  t.entries.lookup key

/-- Entries with something else under a key, which goes to the end if it is new. -/
def putIn (key : String) (node : Node) : List (String × Node) → List (String × Node)
  | [] => [(key, node)]
  | (k, n) :: entries =>
    if key = k then (key, node) :: entries else (k, n) :: putIn key node entries

/-- The table with something else under a key. -/
def put (t : Table Node) (key : String) (node : Node) : Table Node :=
  { t with entries := putIn key node t.entries }

/-- The table after a change of what stands under a key. -/
def change? (key : String) (f : Option Node → Option Node) (t : Table Node) :
    Option (Table Node) :=
  (f (t.get? key)).map (t.put key)

/-- What stands under a key that leads on to a table, after a change of that table. A table that is
not there yet is made up, with the given origin. Dotted keys do not lead through tables that were
opened. -/
def lead (origin : Origin) (f : Table Node → Option (Table Node)) : Option Node → Option Node
  | none => (f ⟨origin, []⟩).map .table
  | some (.table t) =>
    if origin = .dotted ∧ t.origin = .opened then none else (f t).map .table
  | some (.tables latest earlier) => (f latest).map (.tables · earlier)
  | some (.value _) => none

/-- The table after a change of the table that a path leads to. -/
def within? (origin : Origin) (f : Table Node → Option (Table Node)) :
    List String → Table Node → Option (Table Node)
  | [] => f
  | key :: path => change? key (lead origin (within? origin f path))

/-- Set an entry under a dotted key. The key must be free, and a key without dots does not add to a
table that dotted keys made up. -/
def set? (path : List String) (v : Value) (t : Table Node) : Option (Table Node) :=
  let add (key : String) (t : Table Node) : Option (Table Node) :=
    if t.origin = .dotted ↔ path.dropLast = [] then none
    else change? key (fun node => if node.isNone then some (.value v) else none) t
  path.getLast?.bind fun key => within? .dotted (add key) path.dropLast t

/-- Open the table that a header names. It may have been mentioned before, but not opened. -/
def open? (path : List String) (t : Table Node) : Option (Table Node) :=
  let opened : Option Node → Option Node
    | none => some (.table blank)
    | some (.table ⟨.mentioned, entries⟩) => some (.table ⟨.opened, entries⟩)
    | _ => none
  path.getLast?.bind fun key => within? .mentioned (change? key opened) path.dropLast t

/-- Open one more table of the array of tables that a header names. -/
def append? (path : List String) (t : Table Node) : Option (Table Node) :=
  let appended : Option Node → Option Node
    | none => some (.tables blank [])
    | some (.tables latest earlier) => some (.tables blank (latest :: earlier))
    | _ => none
  path.getLast?.bind fun key => within? .mentioned (change? key appended) path.dropLast t

end Table

mutual

/-- A node as a value. -/
def Node.toValue : Node → Value
  | .value v => v
  | .table t => t.toValue
  | .tables latest earlier => .list (Table.listToValues earlier ++ [latest.toValue])

/-- A table as a value. -/
def Table.toValue : Table Node → Value
  | ⟨_, entries⟩ => .table (Table.entriesToValues entries)

/-- The entries of a table as values. -/
def Table.entriesToValues : List (String × Node) → List (String × Value)
  | [] => []
  | (key, node) :: entries => (key, node.toValue) :: Table.entriesToValues entries

/-- The tables of a list as values, the last table first. -/
def Table.listToValues : List (Table Node) → List Value
  | [] => []
  | t :: ts => Table.listToValues ts ++ [t.toValue]

end

end Teamwork.Toml
