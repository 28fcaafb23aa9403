/-!
# Readers

A reader reads something at the start of a text and hands on the rest, or fails. Trying another
reader after one that failed starts at the same place again, so a grammar can be written down as it
stands.

## Main definitions

* `Toml.Reader` — the readers.
* `Reader.char`, `Reader.word`, `Reader.span`, `Reader.run` — what all others are made of.
* `Reader.many`, `Reader.separated` — repetitions.
* `Reader.all?` — what a whole text reads as.
-/

namespace Teamwork.Toml

/-- A way to read something at the start of a text. -/
abbrev Reader := StateT (List Char) Option

namespace Reader

variable {α β : Type}

/-- One character out of a set. -/
def char (isIn : Char → Bool) : Reader Char
  | c :: rest => if isIn c then some (c, rest) else none
  | [] => none

/-- Exactly this text. -/
def word (w : String) : Reader Unit := fun cs =>
  (w.toList.isPrefixOf? cs).map ((), ·)

/-- As many characters out of a set as there are, perhaps none. -/
def span (isIn : Char → Bool) : Reader (List Char) := fun cs =>
  some (cs.takeWhile isIn, cs.dropWhile isIn)

/-- As many characters out of a set as there are, at least one. -/
def run (isIn : Char → Bool) : Reader (List Char) := do
  return (← char isIn) :: (← span isIn)

/-- The end of the text. -/
def atEnd : Reader Unit
  | [] => some ((), [])
  | _ => none

/-- Something, and the text that it was read from. -/
def withText (reader : Reader α) : Reader (α × String) := fun cs =>
  (reader cs).map fun (a, rest) => ((a, String.ofList (cs.take (cs.length - rest.length))), rest)

/-- A repetition, with the items read so far in `acc`, the latest first. It ends before an item that
cannot be read or that uses up no text. -/
def manyFrom (item : Reader α) (acc : List α) (cs : List Char) : List α × List Char :=
  match item cs with
  | some (a, rest) =>
    if rest.length < cs.length then manyFrom item (a :: acc) rest else (acc.reverse, cs)
  | none => (acc.reverse, cs)
termination_by cs.length

/-- As many items as there are, perhaps none. -/
def many (item : Reader α) : Reader (List α) := fun cs =>
  some (manyFrom item [] cs)

/-- At least one item, with separators between the items. -/
def separated (separator : Reader β) (item : Reader α) : Reader (List α) := do
  return (← item) :: (← many (separator *> item))

/-- What a whole text reads as. -/
def all? (reader : Reader α) (cs : List Char) : Option α :=
  match reader cs with
  | some (a, []) => some a
  | _ => none

end Reader

end Teamwork.Toml
