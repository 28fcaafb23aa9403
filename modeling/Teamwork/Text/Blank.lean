/-!
# Blank characters

The characters that may stand between the parts of a document, around the name of a kind and
between the fields of a written time. The set is Unicode's `White_Space` property, which is wider
than the ASCII blanks that `Char.isWhitespace` knows: a no-break space or an ideographic space
separates just as well as a plain one.

## Main definitions

* `Text.isBlank` — membership in the set.
* `Text.skipBlanks` — what follows a run of blanks.
* `Text.trim` — a text without the blanks at its two ends.

## Main results

* `Text.length_skipBlanks_le` — skipping never lengthens a text.
-/

namespace Teamwork.Text

/-- The ranges of the `White_Space` property, ends included. -/
def blankRanges : List (Nat × Nat) :=
  [(0x9, 0xD), (0x20, 0x20), (0x85, 0x85), (0xA0, 0xA0), (0x1680, 0x1680), (0x2000, 0x200A),
    (0x2028, 0x2029), (0x202F, 0x202F), (0x205F, 0x205F), (0x3000, 0x3000)]

/-- Whether a character is blank. -/
def isBlank (c : Char) : Bool :=
  blankRanges.any fun (low, high) => low ≤ c.toNat && c.toNat ≤ high

/-- What is left of a text after the blanks at its start. -/
def skipBlanks (cs : List Char) : List Char :=
  cs.dropWhile isBlank

/-- A text without the blanks at its start and at its end. -/
def trim (cs : List Char) : List Char :=
  (skipBlanks (skipBlanks cs).reverse).reverse

theorem skipBlanks_suffix (cs : List Char) : skipBlanks cs <:+ cs :=
  List.dropWhile_suffix _

theorem length_skipBlanks_le (cs : List Char) : (skipBlanks cs).length ≤ cs.length :=
  (skipBlanks_suffix cs).length_le

/-- A run of blanks ends at the first character that is not blank. -/
theorem skipBlanks_cons_of_not {c : Char} (h : isBlank c = false) (cs : List Char) :
    skipBlanks (c :: cs) = c :: cs := by
  simp [skipBlanks, h]

end Teamwork.Text
