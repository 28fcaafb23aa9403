/-!
# Values of a data format

Texts in a data format such as JSON or TOML denote trees of lists and tables. One type serves both
formats. Numbers with a fraction and dates are kept as they were written, because nothing here ever
looks inside one.

## Main definitions

* `Data.Value` — the trees.
* `Value.text?`, `Value.nat?` — the contents of leaves.
-/

namespace Teamwork.Data

/-- What a text in a data format denotes. -/
inductive Value where
  /-- The value that JSON calls null. -/
  | null
  /-- A truth value. -/
  | boolean (b : Bool)
  /-- A number written without fraction and exponent. -/
  | integer (n : Int)
  /-- Another number, as written. -/
  | fraction (written : String)
  /-- A date, a time of day or both, as written. -/
  | date (written : String)
  /-- A text. -/
  | text (s : String)
  /-- Values one after the other. -/
  | list (elements : List Value)
  /-- Values under keys. No key occurs twice. -/
  | table (entries : List (String × Value))
  deriving Repr, Inhabited

namespace Value

/-- The value of a text. -/
def text? : Value → Option String
  | text s => some s
  | _ => none

/-- The value of an integer from 0 on and below a bound. -/
def nat? (bound : Nat) : Value → Option Nat
  | integer n => if 0 ≤ n ∧ n < bound then some n.toNat else none
  | _ => none

/-- A natural number as a value. -/
def nat (n : Nat) : Value :=
  integer n

end Value

end Teamwork.Data
