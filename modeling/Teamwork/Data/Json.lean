import Teamwork.Data.Value

/-!
# Writing a value as JSON

Lists and tables take a line for each element, indented by two spaces a level; empty ones stay on
one line. Texts escape what JSON wants escaped and nothing else.

## Main definitions

* `Json.escapeChar`, `Json.writeText` — texts.
* `Json.write` — values.
-/

namespace Teamwork.Data.Json

/-- How a character stands in a written text. -/
def escapeChar (c : Char) : List Char :=
  match c with
  | '"' => ['\\', '"']
  | '\\' => ['\\', '\\']
  | '\x08' => ['\\', 'b']
  | '\x0c' => ['\\', 'f']
  | '\n' => ['\\', 'n']
  | '\r' => ['\\', 'r']
  | '\t' => ['\\', 't']
  | c => if c < ' ' then '\\' :: 'u' :: (Nat.toDigits 16 c.toNat).leftpad 4 '0' else [c]

/-- A text with its quotes. -/
def writeText (s : String) : List Char :=
  '"' :: s.toList.flatMap escapeChar ++ ['"']

/-- A new line, indented for a level of nesting. -/
def newLine (level : Nat) : List Char :=
  '\n' :: List.replicate (2 * level) ' '

/-- Written elements between brackets, at a level of nesting. -/
def block (first last : Char) (level : Nat) : List (List Char) → List Char
  | [] => [first, last]
  | elements =>
    first :: [','].intercalate (elements.map (newLine (level + 1) ++ ·)) ++ newLine level ++ [last]

mutual

/-- A value at a level of nesting. -/
def writeAt (level : Nat) : Value → List Char
  | .null => "null".toList
  | .boolean true => "true".toList
  | .boolean false => "false".toList
  | .integer n => (toString n).toList
  | .fraction written => written.toList
  | .date written => writeText written
  | .text s => writeText s
  | .list elements => block '[' ']' level (writeElements (level + 1) elements)
  | .table entries => block '\x7b' '\x7d' level (writeEntries (level + 1) entries)

/-- The elements of a list, each at a level of nesting. -/
def writeElements (level : Nat) : List Value → List (List Char)
  | [] => []
  | v :: vs => writeAt level v :: writeElements level vs

/-- The entries of a table, each at a level of nesting. -/
def writeEntries (level : Nat) : List (String × Value) → List (List Char)
  | [] => []
  | (key, v) :: entries =>
    (writeText key ++ ':' :: ' ' :: writeAt level v) :: writeEntries level entries

end

/-- The text of a value. -/
def write (v : Value) : String :=
  String.ofList (writeAt 0 v)

end Teamwork.Data.Json
