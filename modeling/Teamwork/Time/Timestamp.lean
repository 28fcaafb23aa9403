import Teamwork.Time.Calendar

/-!
# Timestamps

An instant in Coordinated Universal Time, exact to the nanosecond, within the years from -262143
to 262142. Leap seconds are instants of their own: the sixty-first second of a minute is kept as
the sixtieth with a nanosecond count from 10^9 on, so that it sorts after every instant of the
sixtieth second and before the next minute. Nothing checks that a leap second really took place.

## Main definitions

* `Time.Timestamp` — the instants, with their bounds as proof fields.
* `Timestamp.ofParts?`, `Timestamp.ofNanos?` — instants from their parts and from a count of
  nanoseconds, when they are in range.
* `Time.Span` — a signed length of time, at most 2^63 - 1 milliseconds long.
* `Timestamp.minus?` — the instant a span earlier, when it is in range.

## Main results

* `Timestamp.ofParts?_self` — a timestamp is made of its parts.
-/

namespace Teamwork.Time

/-- Nanoseconds in a second. -/
abbrev nanosPerSecond : Nat := 1000000000

/-- Seconds in a day. -/
abbrev secondsPerDay : Nat := 86400

/-- The years a date may lie in. -/
def firstYear : Int := -262143

@[inherit_doc firstYear]
def lastYear : Int := 262142

/-- The first second of the first year, counted from 1970-01-01T00:00:00Z. -/
def firstSecond : Int := -8334601228800

/-- The last second of the last year, counted from 1970-01-01T00:00:00Z. -/
def lastSecond : Int := 8210266876799

example : firstSecond = yearStart firstYear * secondsPerDay ∧
    lastSecond + 1 = yearStart (lastYear + 1) * secondsPerDay := by decide

/-- An instant in Coordinated Universal Time. -/
structure Timestamp where
  /-- Seconds since 1970-01-01T00:00:00Z; for a leap second, those of the second before it. -/
  second : Int
  /-- Nanoseconds since that second began, from 10^9 on within a leap second. -/
  nano : Nat
  first_le : firstSecond ≤ second
  le_last : second ≤ lastSecond
  nano_lt : nano < 2 * nanosPerSecond
  /-- A leap second follows the last second of a minute. -/
  leap : nanosPerSecond ≤ nano → second % 60 = 59
  deriving DecidableEq, Repr

namespace Timestamp

/-- The instant with the given parts, if there is one. -/
def ofParts? (second : Int) (nano : Nat) : Option Timestamp :=
  if h : (firstSecond ≤ second ∧ second ≤ lastSecond) ∧ nano < 2 * nanosPerSecond ∧
      (nanosPerSecond ≤ nano → second % 60 = 59) then
    some ⟨second, nano, h.1.1, h.1.2, h.2.1, h.2.2⟩
  else
    none

/-- The instant a number of nanoseconds after 1970-01-01T00:00:00Z, leap seconds not counted. -/
def ofNanos? (nanos : Int) : Option Timestamp :=
  ofParts? (nanos / nanosPerSecond) (nanos % nanosPerSecond).toNat

/-- Whether the instant lies within a leap second. -/
def isLeapSecond (t : Timestamp) : Bool :=
  nanosPerSecond ≤ t.nano

/-- Earlier instants are less. -/
instance : LT Timestamp :=
  ⟨fun s t => s.second < t.second ∨ s.second = t.second ∧ s.nano < t.nano⟩

instance (s t : Timestamp) : Decidable (s < t) :=
  inferInstanceAs (Decidable (s.second < t.second ∨ s.second = t.second ∧ s.nano < t.nano))

theorem lt_def {s t : Timestamp} :
    s < t ↔ s.second < t.second ∨ s.second = t.second ∧ s.nano < t.nano :=
  Iff.rfl

/-- A timestamp is made of its parts. -/
theorem ofParts?_self (t : Timestamp) : ofParts? t.second t.nano = some t := by
  have h : (firstSecond ≤ t.second ∧ t.second ≤ lastSecond) ∧ t.nano < 2 * nanosPerSecond ∧
      (nanosPerSecond ≤ t.nano → t.second % 60 = 59) :=
    ⟨⟨t.first_le, t.le_last⟩, t.nano_lt, t.leap⟩
  rw [ofParts?, dif_pos h]

end Timestamp

/-! ### Spans -/

/-- A signed length of time. -/
structure Span where
  /-- The length in nanoseconds. -/
  nanos : Int
  deriving DecidableEq, Repr

namespace Span

/-- A span of whole milliseconds, if their number is at most 2^63 - 1 in size. -/
def ofMilliseconds? (n : Int) : Option Span :=
  if n.natAbs < Nat.pow 2 63 then some ⟨n * 1000000⟩ else none

/-- A span of whole days, if it is not too long in milliseconds. -/
def ofDays? (n : Int) : Option Span :=
  ofMilliseconds? (n * (secondsPerDay * 1000))

/-- A span of whole hours; `n` is small here, so its length is not checked. -/
def ofHours (n : Nat) : Span :=
  ⟨n * 3600 * nanosPerSecond⟩

end Span

namespace Timestamp

/-- The instant a span before `t`, or after it for a negative span, if it is in range. A move that
starts in a leap second and stays in it is taken at face value. One that leaves a leap second
forwards goes on from the second the leap second follows, because the leap second itself is not
counted. -/
def minus? (t : Timestamp) (span : Span) : Option Timestamp :=
  let nano := t.nano - span.nanos
  if t.isLeapSecond ∧ 2 * nanosPerSecond ≤ nano then
    ofNanos? (t.second * nanosPerSecond + nano - nanosPerSecond)
  else if t.isLeapSecond ∧ nanosPerSecond ≤ nano then
    ofParts? t.second nano.toNat
  else
    ofNanos? (t.second * nanosPerSecond + nano)

end Timestamp

end Teamwork.Time
