import Teamwork.Text.Blank
import Teamwork.Text.Digits
import Teamwork.Time.Timestamp

/-!
# Reading a written time

A written time is a date, a separator, a time of day and an offset from Coordinated Universal
Time. The reading is generous: blanks may surround every number, months and days need not be two
digits wide, a year outside 0 to 9999 carries a sign and as many digits as it takes, and the
separator may be a space. It insists on an offset, on a date the calendar has, and on a time of day
that a clock can show, where `:60` stands for a leap second in any minute.

## Main definitions

* `Time.takeYear`, `Time.takeFraction`, `Time.takeOffset` — the parts that are more than a number
  of at most two digits.
* `Timestamp.ofClock?` — the instant that a clock at some offset shows.
* `Timestamp.read?` — the instant that a text stands for.
-/

namespace Teamwork.Time

open Text

/-- What follows the character `c`, blanks before it skipped. -/
def takeMark (c : Char) (cs : List Char) : Option (List Char) :=
  match skipBlanks cs with
  | d :: rest => if d = c then some rest else none
  | [] => none

/-- A number of at most two digits, blanks before it skipped. -/
def takeField (cs : List Char) : Option (Nat × List Char) :=
  takeNumber 2 (skipBlanks cs)

/-- A year: at most four digits, or a sign followed at once by any number of digits. -/
def takeYear (cs : List Char) : Option (Int × List Char) :=
  match skipBlanks cs with
  | '-' :: rest => (takeNumber rest.length rest).map fun (n, r) => (-n, r)
  | '+' :: rest => (takeNumber rest.length rest).map fun (n, r) => (n, r)
  | rest => (takeNumber 4 rest).map fun (n, r) => (n, r)

/-- The nanoseconds after a point. Digits beyond the ninth are dropped; without a point there are
no nanoseconds. -/
def takeFraction : List Char → Option (Nat × List Char)
  | '.' :: rest => do
    let (n, r) ← takeNumber 9 rest
    some (n * Nat.pow 10 (9 - (rest.length - r.length)), r.dropWhile Char.isDigit)
  | cs => some (0, cs)

/-- Exactly two digits. -/
def takeTwoDigits : List Char → Option (Nat × List Char)
  | a :: b :: rest => if a.isDigit && b.isDigit then takeNumber 2 (a :: b :: rest) else none
  | _ => none

/-- Hours and minutes of an offset, in seconds: two digits each, with any run of colons and blanks
between them, and less than a day together. -/
def takeHoursAndMinutes (cs : List Char) : Option (Nat × List Char) := do
  let (hours, cs) ← takeTwoDigits cs
  let (minutes, cs) ← takeTwoDigits (cs.dropWhile fun c => c = ':' || isBlank c)
  let seconds := hours * 3600 + minutes * 60
  if minutes < 60 ∧ seconds < secondsPerDay then some (seconds, cs) else none

/-- An offset in seconds east of Greenwich: `Z`, `UTC` in any case, or a sign with hours and
minutes, where the minus sign may be the typographic one. -/
def takeOffset : List Char → Option (Int × List Char)
  | '+' :: rest => (takeHoursAndMinutes rest).map fun (n, r) => (n, r)
  | '-' :: rest | '\u2212' :: rest => (takeHoursAndMinutes rest).map fun (n, r) => (-n, r)
  | cs =>
    if (cs.take 3).map Char.toUpper = ['U', 'T', 'C'] then some (0, cs.drop 3)
    else if (cs.take 1).map Char.toUpper = ['Z'] then some (0, cs.drop 1)
    else none

/-- What a clock shows: a date, the seconds since midnight, where a leap second counts as the
second before it, and the nanoseconds, from 10^9 on within a leap second. -/
structure Clock where
  /-- The date. -/
  date : Date
  /-- The hour, from 0 to 23. -/
  hour : Nat
  /-- The minute, from 0 to 59. -/
  minute : Nat
  /-- The second, from 0 to 60. -/
  second : Nat
  /-- The nanosecond, below 10^9. -/
  nano : Nat
  deriving DecidableEq, Repr

/-- The clock shows a time of day on a date within the years that dates may lie in. -/
def Clock.IsValid (c : Clock) : Prop :=
  c.date.IsValid ∧ (firstYear ≤ c.date.year ∧ c.date.year ≤ lastYear) ∧
    c.hour < 24 ∧ c.minute < 60 ∧ c.second ≤ 60 ∧ c.nano < nanosPerSecond

instance (c : Clock) : Decidable c.IsValid := by
  unfold Clock.IsValid; infer_instance

/-- The instant at which a clock at the given offset shows this. -/
def Timestamp.ofClock? (c : Clock) (offset : Int) : Option Timestamp :=
  if c.IsValid then
    let second := c.date.toDays * secondsPerDay + c.hour * 3600 + c.minute * 60 + min c.second 59
    ofParts? (second - offset) (c.nano + if c.second = 60 then nanosPerSecond else 0)
  else
    none

/-- What follows the character between the date and the time of day. -/
def takeSeparator : List Char → Option (List Char)
  | c :: rest => if c = 'T' ∨ c = 't' ∨ c = ' ' then some rest else none
  | [] => none

/-- The instant that a text stands for. -/
def Timestamp.ofChars? (cs : List Char) : Option Timestamp := do
  let (year, cs) ← takeYear cs
  let (month, cs) ← takeField (← takeMark '-' cs)
  let (day, cs) ← takeField (← takeMark '-' cs)
  let (hour, cs) ← takeField (← takeSeparator cs)
  let (minute, cs) ← takeField (← takeMark ':' cs)
  let (second, cs) ← takeField (← takeMark ':' cs)
  let (nano, cs) ← takeFraction cs
  let (offset, cs) ← takeOffset (skipBlanks cs)
  if skipBlanks cs = [] then
    ofClock? { date := { year, month, day }, hour, minute, second, nano } offset
  else
    none

@[inherit_doc Timestamp.ofChars?]
def Timestamp.read? (s : String) : Option Timestamp :=
  ofChars? s.toList

end Teamwork.Time
