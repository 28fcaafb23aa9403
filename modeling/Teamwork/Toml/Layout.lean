import Teamwork.Toml.Reader

/-!
# Layout of a TOML text

What stands between the parts of a TOML text: gaps of spaces and tabs, comments, and the ends of
lines. Control characters other than the tab are allowed nowhere, not even in comments.

## Main definitions

* `Toml.isGap`, `Toml.isPlain` — classes of characters.
* `Toml.gap`, `Toml.newLine`, `Toml.comment`, `Toml.lineEnd` — layout within and after a line.
* `Toml.layout` — layout over several lines.
-/

namespace Teamwork.Toml

open Reader

/-- A space or a tab. -/
def isGap (c : Char) : Bool :=
  c = ' ' || c = '\t'

/-- A tab, or any character that is not a control character of ASCII. -/
def isPlain (c : Char) : Bool :=
  c = '\t' || ' ' ≤ c && c ≠ '\x7f'

/-- Spaces and tabs, perhaps none. -/
def gap : Reader Unit := do
  discard (span isGap)

/-- The end of a line, in either of its two forms. -/
def newLine : Reader Unit :=
  word "\n" <|> word "\r\n"

/-- A comment, up to the end of its line. -/
def comment : Reader Unit := do
  word "#"
  discard (span isPlain)

/-- What may stand after the last part of a line, and the end of the line or of the text. -/
def lineEnd : Reader Unit := do
  gap
  discard (optional comment)
  newLine <|> atEnd

/-- Gaps, comments and ends of lines, perhaps none. -/
def layout : Reader Unit := do
  discard (many (discard (run isGap) <|> newLine <|> comment *> newLine))

end Teamwork.Toml
