import Teamwork.Text.Digits
import Teamwork.Time.Reading

/-!
# Writing a timestamp

The written form is the one of RFC 3339 in Coordinated Universal Time, with `Z` for the offset and
as few fraction digits as lose nothing, in groups of three. Years outside 0 to 9999 carry a sign,
which that standard does not know.

## Main definitions

* `Timestamp.clock` — what a clock in Greenwich shows at the instant.
* `Timestamp.write` — the written form.
-/

namespace Teamwork.Time

open Text

/-- What a clock in Greenwich shows at the instant. -/
def Timestamp.clock (t : Timestamp) : Clock :=
  let ofDay := (t.second % secondsPerDay).toNat
  { date := Date.ofDays (t.second / secondsPerDay)
    hour := ofDay / 3600
    minute := ofDay / 60 % 60
    second := if t.isLeapSecond then 60 else ofDay % 60
    nano := t.nano % nanosPerSecond }

/-- Four digits for a year from 0 to 9999, otherwise a sign and at least four digits. -/
def writeYear (year : Int) : List Char :=
  if 0 ≤ year ∧ year ≤ 9999 then padded 4 year.toNat
  else (if year < 0 then '-' else '+') :: padded 4 year.natAbs

/-- No digits, or a point and three, six or nine of them, as few as lose nothing. -/
def writeFraction (nano : Nat) : List Char :=
  if nano = 0 then []
  else if nano % 1000000 = 0 then '.' :: padded 3 (nano / 1000000)
  else if nano % 1000 = 0 then '.' :: padded 6 (nano / 1000)
  else '.' :: padded 9 nano

/-- The written form of what a clock shows, without an offset. -/
def Clock.write (c : Clock) : List Char :=
  writeYear c.date.year ++ '-' :: padded 2 c.date.month ++ '-' :: padded 2 c.date.day ++
    'T' :: padded 2 c.hour ++ ':' :: padded 2 c.minute ++ ':' :: padded 2 c.second ++
    writeFraction c.nano

/-- The written form of a timestamp. -/
def Timestamp.write (t : Timestamp) : String :=
  String.ofList (t.clock.write ++ ['Z'])

end Teamwork.Time
