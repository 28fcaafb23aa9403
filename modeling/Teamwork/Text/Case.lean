/-!
# Letter case

Names can be given in any case where people type them. Only ASCII letters have a case here.

## Main definitions

* `Text.lower` — a text in lower case.
-/

namespace Teamwork.Text

/-- A text with its ASCII letters in lower case. -/
def lower (s : String) : String :=
  String.ofList (s.toList.map Char.toLower)

end Teamwork.Text
