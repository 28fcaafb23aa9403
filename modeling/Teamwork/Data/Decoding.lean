import Teamwork.Data.Value

/-!
# Reading records from values

A record is a table with known keys. Keys that are not known are ignored. A list will do instead of
a table: it gives the fields in their order. A name out of a fixed set is the text of that name, or
a table with that name as its only key and nothing in it. Data formats differ in two details, which
`Rules` collects.

## Main definitions

* `Data.Rules` — the details in which formats differ, with `Rules.json` and `Rules.toml`.
* `Value.record?` — the fields of a record.
* `Value.named?` — a name out of a fixed set.
* `Data.required?`, `Data.withDefault?` — one field of a record.
-/

namespace Teamwork.Data

/-- The details in which data formats differ. -/
structure Rules where
  /-- Whether a list may go on after the last field of a record. -/
  surplus : Bool
  /-- Whether a value stands for nothing. -/
  isNothing : Value → Bool

/-- The rules of JSON. -/
def Rules.json : Rules where
  surplus := false
  isNothing
    | .null => true
    | _ => false

/-- The rules of TOML, which has no null. -/
def Rules.toml : Rules where
  surplus := true
  isNothing
    | .table [] | .list [] => true
    | _ => false

/-- The fields of a record whose fields have these names, in this order. A date counts as a record
without any of them. -/
def Value.record? (rules : Rules) (names : List String) : Value → Option (List (String × Value))
  | table entries => some entries
  | list elements =>
    if rules.surplus ∨ elements.length ≤ names.length then some (names.zip elements) else none
  | date _ => some []
  | _ => none

/-- A name out of a fixed set, as what it names. -/
def Value.named? {α : Type} (rules : Rules) (ofName? : String → Option α) : Value → Option α
  | text s => ofName? s
  | table [(name, content)] => if rules.isNothing content then ofName? name else none
  | _ => none

variable {α : Type}

/-- A field that must be there. -/
def required? (fields : List (String × Value)) (name : String) (decode? : Value → Option α) :
    Option α :=
  (fields.lookup name).bind decode?

/-- A field that may be left out. What it holds must make sense when it is there. -/
def withDefault? (fields : List (String × Value)) (name : String) (decode? : Value → Option α)
    (default : α) : Option α :=
  match fields.lookup name with
  | some value => decode? value
  | none => some default

end Teamwork.Data
