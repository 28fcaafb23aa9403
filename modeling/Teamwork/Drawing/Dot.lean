import Teamwork.Drawing.Label
import Teamwork.Ties

/-!
# Drawing with Graphviz

An undirected graph in the DOT language: a header, a default style for nodes unless it is empty, a
node for every employee, labelled with name and department, and an edge for every tie, labelled
with its weight.

## Main definitions

* `Dot.Style` — what can be chosen.
* `Dot.graphId` — the name of the graph as the language wants it.
* `Dot.lines`, `Dot.draw` — the drawing.
-/

namespace Teamwork.Dot

open Drawing

/-- What can be chosen about a drawing. -/
structure Style where
  /-- The name of the graph. -/
  graphName : String
  /-- The attributes that all nodes have, none if empty. -/
  nodeStyle : String
  deriving DecidableEq, Repr

/-- A text in double quotes. -/
def quote (s : String) : List Char :=
  '"' :: label ['\\', 'n'] s ++ ['"']

/-- Whether a name needs no quotes: ASCII letters, digits and underscores, the first no digit. -/
def isBare (name : String) : Bool :=
  match name.toList with
  | [] => false
  | c :: cs => !c.isDigit && (c :: cs).all fun c => c.isAlphanum || c = '_'

/-- The name of a graph, in quotes if it needs them. -/
def graphId (name : String) : List Char :=
  if isBare name then name.toList else quote name

/-- The line for an employee. -/
def nodeLine (e : Employee) : List Char :=
  ' ' :: ' ' :: quote e.id ++ " [label=\"".toList ++ label ['\\', 'n'] e.name ++ ['\\', 'n'] ++
    label ['\\', 'n'] e.department ++ "\"];".toList

/-- The line for a tie. -/
def edgeLine (e : Edge) : List Char :=
  ' ' :: ' ' :: quote e.low ++ " -- ".toList ++ quote e.high ++ " [label=\"".toList ++
    Nat.toDigits 10 e.weight.toNat ++ "\"];".toList

/-- The lines of a drawing. -/
def lines (style : Style) (staff : Staff) (ties : Ties) : List (List Char) :=
  ["graph ".toList ++ graphId style.graphName ++ [' ', '\x7b']] ++
    (if style.nodeStyle = "" then []
    else ["  node [".toList ++ style.nodeStyle.toList ++ "];".toList]) ++
    staff.values.map nodeLine ++ ties.edges.map edgeLine ++ [['\x7d']]

/-- The drawing of the ties between employees. -/
def draw (style : Style) (staff : Staff) (ties : Ties) : String :=
  textOfLines (lines style staff ties)

end Teamwork.Dot
