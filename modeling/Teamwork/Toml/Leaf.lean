import Teamwork.Data.Value
import Teamwork.Text.CodePoint
import Teamwork.Text.Digits
import Teamwork.Time.Calendar
import Teamwork.Toml.Layout

/-!
# Leaves of a TOML text

Keys, and the values that hold no other values: texts in their four forms, integers in four bases,
floating-point numbers, dates and times, and truth values.

## Main definitions

* `Toml.basic`, `Toml.literal`, `Toml.basicBlock`, `Toml.literalBlock` — the four forms of texts.
* `Toml.integer`, `Toml.fraction`, `Toml.date`, `Toml.boolean` — the other leaves.
* `Toml.leaf` — any of them.
* `Toml.path` — a key with dots.
-/

namespace Teamwork.Toml

open Reader Data

/-! ### Texts -/

/-- A hexadecimal digit, as its value. -/
def hexDigit : Reader Nat := do
  let c ← char fun c => (Text.hexDigit? c).isSome
  (Text.hexDigit? c).elim failure pure

/-- The character whose code has exactly so many hexadecimal digits. -/
def codePoint (digits : Nat) : Reader Char := do
  let values ← (List.replicate digits hexDigit).mapM id
  (Text.charOf? (values.foldl (16 * · + ·) 0)).elim failure pure

/-- An escaped character. -/
def escaped : Reader (List Char) := do
  word "\\"
  match ← char fun _ => true with
  | 'b' => return ['\x08']
  | 't' => return ['\t']
  | 'n' => return ['\n']
  | 'f' => return ['\x0c']
  | 'r' => return ['\r']
  | '"' => return ['"']
  | '\\' => return ['\\']
  | 'u' => return [← codePoint 4]
  | 'U' => return [← codePoint 8]
  | _ => failure

/-- A text in one line between two quotes, made of pieces. -/
def line (quote : Char) (piece : Reader (List Char)) : Reader String := do
  discard (char (· = quote))
  let pieces ← many piece
  discard (char (· = quote))
  return String.ofList pieces.flatten

/-- A text over several lines between threefold quotes, made of pieces and ends of lines. The first
line is skipped if it is empty. One or two quotes may stand anywhere, also before the closing
ones. -/
def block (quote : Char) (piece : Reader (List Char)) : Reader String := do
  word (String.ofList [quote, quote, quote])
  discard (optional newLine)
  let pieces ← many (piece <|> (do newLine; return ['\n']) <|> do
    let quotes ← run (· = quote)
    guard (quotes.length < 3)
    return quotes)
  let quotes ← run (· = quote)
  guard (3 ≤ quotes.length ∧ quotes.length ≤ 5)
  return String.ofList (pieces.flatten ++ quotes.drop 3)

/-- Plain characters of a text that knows escapes. -/
def basicPlain : Reader (List Char) :=
  run fun c => isPlain c && c ≠ '"' && c ≠ '\\'

/-- Plain characters of a text without escapes. -/
def literalPlain : Reader (List Char) :=
  run fun c => isPlain c && c ≠ '\''

/-- A backslash at the end of a line, which takes away the end of the line and all that is blank
after it. -/
def continuation : Reader (List Char) := do
  word "\\"
  gap
  newLine
  discard (many (discard (run isGap) <|> newLine))
  return []

/-- A text in one line, with escapes. -/
def basic : Reader String := line '"' (basicPlain <|> escaped)

/-- A text in one line, without escapes. -/
def literal : Reader String := line '\'' literalPlain

/-- A text over several lines, with escapes. -/
def basicBlock : Reader String := block '"' (basicPlain <|> escaped <|> continuation)

/-- A text over several lines, without escapes. -/
def literalBlock : Reader String := block '\'' literalPlain

/-! ### Keys -/

/-- A character of a key that needs no quotes. -/
def isBare (c : Char) : Bool :=
  c.isAlphanum || c = '_' || c = '-'

/-- One part of a key. -/
def key : Reader String :=
  basic <|> literal <|> String.ofList <$> run isBare

/-- How many parts a key may have, and how many levels values may be nested. -/
def deepest : Nat := 79

/-- The parts of a key with dots between them. -/
def path : Reader (List String) := do
  let keys ← separated (word ".") (gap *> key <* gap)
  guard (keys.length ≤ deepest)
  return keys

/-! ### Numbers -/

/-- Digits, with single underscores between them. -/
def digits (isDigit : Char → Bool) : Reader (List Char) := do
  return (← char isDigit) :: (← many (optional (word "_") *> char isDigit))

/-- A plus or minus sign, if there is one. -/
def sign : Reader (Option Char) :=
  optional (char fun c => c = '+' || c = '-')

/-- Decimal digits that do not start with a zero, or a single zero. -/
def decimal : Reader (List Char) := do
  match ← char Char.isDigit with
  | '0' => return ['0']
  | c => return c :: (← many (optional (word "_") *> char Char.isDigit))

/-- The number that digits stand for in a base. -/
def ofDigits (base : Nat) (ds : List Char) : Nat :=
  ds.foldl (fun n c => base * n + (Text.hexDigit? c).getD 0) 0

/-- Digits in a base other than ten, after the mark of the base. -/
def based (mark : String) (base : Nat) : Reader Int := do
  word mark
  return ofDigits base (← digits fun c => (Text.hexDigit? c).any (· < base))

/-- An integer of 64 bits. -/
def integer : Reader Value := do
  let n ← based "0x" 16 <|> based "0o" 8 <|> based "0b" 2 <|> do
    let sign ← sign
    let n := ofDigits 10 (← decimal)
    return if sign = some '-' then -(n : Int) else n
  guard (-(Nat.pow 2 63 : Int) ≤ n ∧ n < (Nat.pow 2 63 : Int))
  return .integer n

/-- Whether `m * 10 ^ e` rounds to infinity as a floating-point number of 64 bits, as all numbers
from halfway between the largest such number and the next power of two on do. -/
def overflows (m : Nat) (e : Int) : Bool :=
  let size := (Nat.toDigits 10 m).length + e
  let bound := Nat.pow 2 1024 - Nat.pow 2 970
  m ≠ 0 && (310 ≤ size ||
    size = 309 && bound * Nat.pow 10 (-e).toNat ≤ m * Nat.pow 10 e.toNat)

/-- An exponent. -/
def exponent : Reader Int := do
  discard (char fun c => c = 'e' || c = 'E')
  let sign ← sign
  let n := ofDigits 10 (← digits Char.isDigit)
  return if sign = some '-' then -(n : Int) else n

/-- A floating-point number with a fraction or an exponent or both. A positive one must not be too
large. -/
def finite : Reader Unit := do
  let sign ← sign
  let whole ← decimal
  let places ← optional (word "." *> digits Char.isDigit)
  let power ← if places.isSome then optional exponent else some <$> exponent
  let places := places.getD []
  let m := ofDigits 10 (whole ++ places)
  guard (sign = some '-' ∨ !overflows m (power.getD 0 - places.length))

/-- A floating-point number. -/
def fraction : Reader Value := do
  let (_, written) ← withText
    (finite <|> do discard sign; word "inf" <|> word "nan")
  return .fraction written

/-! ### Dates and times -/

/-- A number of exactly so many digits. -/
def fixed (width : Nat) : Reader Nat := do
  let ds ← (List.replicate width (char Char.isDigit)).mapM id
  return ofDigits 10 ds

/-- A number of two digits up to a limit. -/
def twoDigits (limit : Nat) : Reader Nat := do
  let n ← fixed 2
  guard (n ≤ limit)
  return n

/-- A date that the calendar has. -/
def calendarDate : Reader Unit := do
  let year ← fixed 4
  word "-"
  let month ← fixed 2
  word "-"
  let day ← fixed 2
  guard (Time.Date.IsValid { year, month, day })

/-- A time of day. -/
def timeOfDay : Reader Unit := do
  discard (twoDigits 23)
  word ":"
  discard (twoDigits 59)
  word ":"
  discard (twoDigits 60)
  discard (optional (word "." *> run Char.isDigit))

/-- An offset from Coordinated Universal Time. -/
def timeOffset : Reader Unit := do
  match ← char fun c => ['Z', 'z', '+', '-'].contains c with
  | 'Z' | 'z' => return
  | _ =>
    discard (twoDigits 23)
    word ":"
    discard (twoDigits 59)

/-- A date, a time of day, or both, then perhaps with an offset. -/
def date : Reader Value := do
  let (_, written) ← withText ((do
    calendarDate
    discard (optional do
      discard (char fun c => c = 'T' || c = 't' || c = ' ')
      timeOfDay
      optional timeOffset)) <|> timeOfDay)
  return .date written

/-! ### Leaves -/

/-- A truth value. -/
def boolean : Reader Value :=
  (do word "true"; return .boolean true) <|> do word "false"; return .boolean false

/-- A text in any form. -/
def text : Reader Value :=
  Value.text <$> (basicBlock <|> basic <|> literalBlock <|> literal)

/-- A value that holds no other values. -/
def leaf : Reader Value :=
  text <|> date <|> fraction <|> integer <|> boolean

end Teamwork.Toml
