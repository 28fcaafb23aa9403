import Teamwork.Toml.Leaf
import Teamwork.Toml.Tree

/-!
# TOML texts

A TOML text is a list of statements, each on lines of its own: a header opens a table, and the
entries that follow belong to that table. Reading has two steps. The grammar turns the text into
statements; the statements are then carried out on a tree of tables, which may refuse one.

## Main definitions

* `Toml.valueAt` — values, with arrays and inline tables nested to a limited depth.
* `Toml.Statement`, `Toml.statements` — the statements of a text.
* `Toml.Draft` — the tree, and the table that entries go to at the moment.
* `Toml.read?` — the value of a TOML text.
-/

namespace Teamwork.Toml

open Reader Data

/-! ### Values -/

/-- An array of elements, with layout anywhere and perhaps a comma after the last element. -/
def array (element : Reader Value) : Reader Value := do
  word "["
  let elements ← separated (word ",") (layout *> element <* layout) <* optional (word ",")
    <|> pure []
  layout
  word "]"
  return .list elements

/-- A key and what is under it, between braces. -/
def inlineEntry (element : Reader Value) : Reader (List String × Value) := do
  let keys ← path
  word "="
  gap
  let v ← element
  gap
  return (keys, v)

/-- A table in one line, between braces. -/
def inlineTable (element : Reader Value) : Reader Value := do
  word "\x7b"
  let entries ← separated (word ",") (inlineEntry element) <|> pure []
  gap
  word "\x7d"
  let t ← entries.foldlM (fun t (keys, v) => t.set? keys v) Table.blank
  return t.toValue

/-- A value with at most so many levels of arrays and inline tables. -/
def valueAt : (levels : Nat) → Reader Value
  | 0 => leaf
  | levels + 1 => leaf <|> array (valueAt levels) <|> inlineTable (valueAt levels)

/-! ### Statements -/

/-- What a line can say. -/
inductive Statement where
  /-- Entries from here on belong to the table at a path. -/
  | openTable (path : List String)
  /-- Entries from here on belong to a new table at the end of the array at a path. -/
  | appendTable (path : List String)
  /-- The value of an entry. -/
  | setEntry (path : List String) (v : Value)
  deriving Repr

/-- A statement without the end of its line. -/
def statement : Reader Statement :=
  Statement.appendTable <$> (word "[[" *> path <* word "]]")
    <|> Statement.openTable <$> (word "[" *> path <* word "]")
    <|> do
      let keys ← path
      word "="
      gap
      return .setEntry keys (← valueAt deepest)

/-- A line: a statement, or nothing, and perhaps a comment. -/
def statementLine : Reader (Option Statement) :=
  gap *> (some <$> (statement <* lineEnd) <|> lineEnd *> pure none)

/-- The statements of a text, which may start with a byte order mark. -/
def statements : Reader (List Statement) := do
  discard (optional (char (· = '\ufeff')))
  let lines ← many statementLine
  return lines.filterMap id

/-! ### Whole texts -/

/-- The tables of a text, as far as it was read. -/
structure Draft where
  /-- The outermost table. -/
  root : Table Node
  /-- Where the table is that entries belong to. -/
  current : List String

/-- Carry out one statement. -/
def Draft.add? (d : Draft) : Statement → Option Draft
  | .openTable path => return ⟨← d.root.open? path, path⟩
  | .appendTable path => return ⟨← d.root.append? path, path⟩
  | .setEntry path v => do
    return { d with root := ← d.root.within? .mentioned (·.set? path v) d.current }

/-- The value of a TOML text, which is a table. -/
def read? (text : String) : Option Value := do
  let lines ← statements.all? text.toList
  let d ← lines.foldlM Draft.add? ⟨.blank, []⟩
  return d.root.toValue

end Teamwork.Toml
