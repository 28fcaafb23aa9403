import Teamwork.Drawing.Label
import Teamwork.Ties

/-!
# Drawing with Mermaid

A flowchart in the Mermaid language, for notebooks and documents that show such diagrams: a header
with the direction, a node for every employee and an edge for every tie. Node ids of that language
are made of ASCII letters, digits and underscores, so different employees may end up with one node
id.

## Main definitions

* `Mermaid.nodeId` — the node id for an employee id.
* `Mermaid.directions` — the directions a flowchart can have.
* `Mermaid.lines`, `Mermaid.draw` — the drawing.

## Main results

* `Mermaid.nodeId_head` — a node id starts with a letter.
-/

namespace Teamwork.Mermaid

open Drawing

/-- The directions a flowchart can have. -/
def directions : List String := ["TD", "TB", "BT", "LR", "RL"]

/-- What shows as a line break in a label. -/
def lineBreak : List Char := "<br/>".toList

/-- A character of an id as a character of a node id. -/
def idChar (c : Char) : Char :=
  if c.isAlphanum || c = '_' then c else '_'

/-- The node id for an employee id: other characters become underscores, and an id that would not
start with a letter then gets `N_` in front. -/
def nodeId (id : String) : List Char :=
  match id.toList.map idChar with
  | [] => ['N', '_']
  | c :: cs => if c.isAlpha then c :: cs else 'N' :: '_' :: c :: cs

/-- The line for an employee. -/
def nodeLine (e : Employee) : List Char :=
  ' ' :: ' ' :: nodeId e.id ++ "[\"".toList ++ label lineBreak e.name ++ lineBreak ++
    label lineBreak e.department ++ "\"];".toList

/-- The line for a tie. -/
def edgeLine (e : Edge) : List Char :=
  ' ' :: ' ' :: nodeId e.low ++ " ---|".toList ++ Nat.toDigits 10 e.weight.toNat ++ "| ".toList ++
    nodeId e.high ++ [';']

/-- The lines of a drawing. -/
def lines (direction : String) (staff : Staff) (ties : Ties) : List (List Char) :=
  ["graph ".toList ++ direction.toList ++ [';']] ++ staff.values.map nodeLine ++
    ties.edges.map edgeLine

/-- The drawing of the ties between employees. -/
def draw (direction : String) (staff : Staff) (ties : Ties) : String :=
  textOfLines (lines direction staff ties)

theorem nodeId_head (id : String) : ∃ c cs, nodeId id = c :: cs ∧ c.isAlpha = true := by
  rw [nodeId]
  split
  · exact ⟨'N', ['_'], rfl, by decide⟩
  · next c cs _ =>
    split
    · next h => exact ⟨c, cs, rfl, h⟩
    · exact ⟨'N', '_' :: c :: cs, rfl, by decide⟩

end Teamwork.Mermaid
