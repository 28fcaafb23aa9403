/-!
# Labels in diagrams

Both diagram languages put free text between double quotes on one line. Quotes and backslashes get a
backslash, a line feed becomes what the language shows as a line break, and carriage returns are
dropped.

## Main definitions

* `Drawing.labelChar`, `Drawing.label` — a character, and a text, as they stand in a label.
* `Drawing.textOfLines` — a text from its lines.

## Main results

* `Drawing.not_mem_label` — a label has no line feed and no carriage return of its own.
-/

namespace Teamwork.Drawing

/-- How a character stands in a label of a language that shows `lineBreak` as a line break. -/
def labelChar (lineBreak : List Char) (c : Char) : List Char :=
  match c with
  | '\\' => ['\\', '\\']
  | '"' => ['\\', '"']
  | '\n' => lineBreak
  | '\r' => []
  | c => [c]

/-- How a text stands in a label. -/
def label (lineBreak : List Char) (s : String) : List Char :=
  s.toList.flatMap (labelChar lineBreak)

/-- A text from its lines, each ended by a line feed. -/
def textOfLines (lines : List (List Char)) : String :=
  String.ofList (lines.flatMap fun line => line ++ ['\n'])

/-- A label stays on its line if the line break does. -/
theorem not_mem_label {lineBreak : List Char} {d : Char} (hd : d = '\n' ∨ d = '\r')
    (h : d ∉ lineBreak) (s : String) : d ∉ label lineBreak s := by
  simp only [label, List.mem_flatMap, not_exists, not_and]
  intro c _
  unfold labelChar
  split
  · rcases hd with rfl | rfl <;> decide
  · rcases hd with rfl | rfl <;> decide
  · exact h
  · exact List.not_mem_nil
  · next hfeed hreturn =>
    rw [List.mem_singleton]
    rintro rfl
    exact hd.elim hfeed hreturn

end Teamwork.Drawing
