import Teamwork.Drawing.Dot
import Teamwork.Drawing.Mermaid
import Teamwork.Text.Case

/-!
# Formats of drawings

Which diagram language a drawing is made in. A format can be asked for by its name or by a second
name in common use, in any case; in settings only the exact name counts.

## Main definitions

* `Format` — the formats, with `Format.name`, `Format.extension` and `Format.read?`.
* `Drawing.Settings` — what can be chosen about drawings, for all formats together.
* `Format.draw` — a drawing.
-/

namespace Teamwork

/-- A diagram language. -/
inductive Format where
  /-- The language of Graphviz. -/
  | dot
  /-- The language of Mermaid. -/
  | mermaid
  deriving DecidableEq, Repr

namespace Format

/-- All formats. -/
def all : List Format := [dot, mermaid]

/-- The name of a format. -/
def name : Format → String
  | dot => "dot"
  | mermaid => "mermaid"

/-- The usual ending of the names of files in this format. -/
def extension : Format → String
  | dot => "dot"
  | mermaid => "mmd"

/-- The format with exactly this name. -/
def ofName? (s : String) : Option Format :=
  all.find? fun f => f.name = s

/-- The format a text names. -/
def read? (s : String) : Option Format :=
  if Text.lower s = "graphviz" then some dot
  else if Text.lower s = "mmd" then some mermaid
  else ofName? (Text.lower s)

/-- What to say to a text that names no format. -/
def unknownMessage (s : String) : String :=
  "Unknown export format: " ++ Text.lower s ++ ". Use: dot, mermaid"

end Format

namespace Drawing

/-- What can be chosen about drawings. -/
structure Settings where
  /-- The format to draw in when none is asked for. -/
  format : Format
  /-- The name of the graph in DOT. -/
  graphName : String
  /-- The attributes of all nodes in DOT. -/
  nodeStyle : String
  /-- The direction of the flowchart in Mermaid. -/
  direction : String
  deriving DecidableEq, Repr

/-- What holds when nothing is chosen. -/
def Settings.standard : Settings where
  format := .mermaid
  graphName := "EmployeeConnections"
  nodeStyle := "shape=circle, style=filled, fillcolor=lightyellow"
  direction := "TD"

end Drawing

/-- The drawing of the ties between employees in a format. -/
def Format.draw (f : Format) (settings : Drawing.Settings) (staff : Staff) (ties : Ties) : String :=
  match f with
  | dot => Dot.draw ⟨settings.graphName, settings.nodeStyle⟩ staff ties
  | mermaid => Mermaid.draw settings.direction staff ties

end Teamwork
