import Teamwork.Data.Decoding
import Teamwork.Drawing.Format
import Teamwork.Text.Blank
import Teamwork.Text.Quoted
import Teamwork.Toml.Document

/-!
# Settings

What can be set in a file next to the data: how many collaborators a ranking lists, how long ago
counts as recent, and how drawings look. The file is TOML with a table for each of the three.
Whatever it leaves out keeps its standard value, and keys that mean nothing are ignored.

## Main definitions

* `Settings` — the settings, with `Settings.standard`.
* `SettingsError` — why settings are refused, with `SettingsError.message`.
* `Settings.ofValue?`, `Settings.toValue` — settings as values of a data format.
* `Format.ofValue?`, `Format.toValue` — a format as such a value.
* `Settings.read` — the settings in a TOML text, checked.

## Main results

* `Settings.flaw?_eq_none_iff` — which settings pass the check.
* `Settings.flaw?_of_read` — settings that are read pass it.
-/

namespace Teamwork

open Data

/-- All that can be set. -/
structure Settings where
  /-- How many collaborators a ranking lists. -/
  topLimit : Nat
  /-- How many days ago still counts as recent. -/
  recentDays : UInt32
  /-- How drawings look. -/
  drawing : Drawing.Settings
  deriving DecidableEq, Repr

/-- What holds when nothing is set. -/
def Settings.standard : Settings where
  topLimit := 5
  recentDays := 7
  drawing := .standard

/-- Why settings are refused. -/
inductive SettingsError where
  /-- The text is not TOML, or a value is of the wrong type or out of range. -/
  | malformed
  /-- The name of the graph is blank. -/
  | blankGraphName
  /-- Flowcharts have no such direction. -/
  | unknownDirection (given : String)
  deriving DecidableEq, Repr

/-- The text of a refusal. -/
def SettingsError.message : SettingsError → String
  | malformed => "Parse error: not TOML, or a value of the wrong type"
  | blankGraphName => "Invalid config: export.dot_graph_name must not be empty"
  | unknownDirection given =>
    "Invalid config: export.mermaid_direction must be one of " ++
      ", ".intercalate Mermaid.directions ++ ", got " ++ Text.quoted given

/-- A format as a value. -/
def Format.toValue (f : Format) : Value :=
  .text f.name

/-- The format that a value stands for. -/
def Format.ofValue? (rules : Rules) (v : Value) : Option Format :=
  v.named? rules Format.ofName?

namespace Settings

/-- What is wrong with settings, the name of the graph first. -/
def flaw? (s : Settings) : Option SettingsError :=
  if Text.trim s.drawing.graphName.toList = [] then some .blankGraphName
  else if s.drawing.direction ∉ Mermaid.directions then
    some (.unknownDirection s.drawing.direction)
  else none

theorem flaw?_eq_none_iff {s : Settings} : s.flaw? = none ↔
    Text.trim s.drawing.graphName.toList ≠ [] ∧ s.drawing.direction ∈ Mermaid.directions := by
  unfold flaw?
  split
  · simp_all
  · split <;> simp_all

theorem flaw?_standard : standard.flaw? = none := by
  decide

/-! ### Settings as values -/

/-- How drawings look, from a record. -/
def drawingOf? (rules : Rules) (v : Value) : Option Drawing.Settings := do
  let fields ← v.record? rules
    ["default_format", "dot_graph_name", "dot_node_style", "mermaid_direction"]
  let std := Drawing.Settings.standard
  return {
    format := ← withDefault? fields "default_format" (Format.ofValue? rules) std.format
    graphName := ← withDefault? fields "dot_graph_name" Value.text? std.graphName
    nodeStyle := ← withDefault? fields "dot_node_style" Value.text? std.nodeStyle
    direction := ← withDefault? fields "mermaid_direction" Value.text? std.direction }

/-- How many collaborators a ranking lists, from a record. -/
def topLimitOf? (rules : Rules) (v : Value) : Option Nat := do
  let fields ← v.record? rules ["default_top"]
  withDefault? fields "default_top" (Value.nat? UInt64.size) standard.topLimit

/-- How many days ago still counts as recent, from a record. -/
def recentDaysOf? (rules : Rules) (v : Value) : Option UInt32 := do
  let fields ← v.record? rules ["default_days"]
  withDefault? fields "default_days" (fun v => (v.nat? UInt32.size).map UInt32.ofNat)
    standard.recentDays

/-- The settings that a value stands for, not checked. -/
def ofValue? (rules : Rules) (v : Value) : Option Settings := do
  let fields ← v.record? rules ["query", "window", "export"]
  return {
    topLimit := ← withDefault? fields "query" (topLimitOf? rules) standard.topLimit
    recentDays := ← withDefault? fields "window" (recentDaysOf? rules) standard.recentDays
    drawing := ← withDefault? fields "export" (drawingOf? rules) standard.drawing }

/-- Settings as a value. -/
def toValue (s : Settings) : Value :=
  .table [
    ("query", .table [("default_top", .nat s.topLimit)]),
    ("window", .table [("default_days", .nat s.recentDays.toNat)]),
    ("export", .table [("default_format", s.drawing.format.toValue),
      ("dot_graph_name", .text s.drawing.graphName),
      ("dot_node_style", .text s.drawing.nodeStyle),
      ("mermaid_direction", .text s.drawing.direction)])]

/-! ### Settings in a text -/

/-- The settings in a TOML text, checked. -/
def read (text : String) : Except SettingsError Settings :=
  match (Toml.read? text).bind (ofValue? .toml) with
  | none => .error .malformed
  | some s =>
    match s.flaw? with
    | some flaw => .error flaw
    | none => .ok s

theorem flaw?_of_read {text : String} {s : Settings} (h : read text = .ok s) :
    s.flaw? = none := by
  unfold read at h
  split at h
  · simp at h
  · split at h
    · simp at h
    · rw [← Except.ok.inj h]; assumption

end Settings

end Teamwork
