import Teamwork.Text.Unprintable

/-!
# Quoted text in messages

A message that complains about a value shows the value between double quotes, so that blanks at
its ends and characters without a visible form can be seen. Quotes and backslashes get a
backslash, the common controls their usual letter, and every other unprintable character its code
point in braces.

## Main definitions

* `Text.quotedChar` — how one character stands between the quotes.
* `Text.quoted` — a whole text in quotes.
-/

namespace Teamwork.Text

/-- How a character stands between the quotes. An apostrophe stands as it is. -/
def quotedChar (c : Char) : List Char :=
  match c with
  | '"' => ['\\', '"']
  | '\\' => ['\\', '\\']
  | '\n' => ['\\', 'n']
  | '\r' => ['\\', 'r']
  | '\t' => ['\\', 't']
  | '\x00' => ['\\', '0']
  | c => if isUnprintable c then ['\\', 'u', '{'] ++ Nat.toDigits 16 c.toNat ++ ['}'] else [c]

/-- A text between double quotes, with every character that would not show spelled out. -/
def quoted (s : String) : String :=
  String.ofList ('"' :: s.toList.flatMap quotedChar ++ ['"'])

example : quoted "T\"D\x01\u00a0'é" = "\"T\\\"D\\u\x7b1\x7d\\u\x7ba0\x7d'é\"" := by decide

end Teamwork.Text
