/-!
# The proleptic Gregorian calendar

Days are counted from 1970-01-01, which is day zero, in both directions and through years before
year one. A year is found from a day number by an estimate from the mean length of a year, which
is off by at most one, and a comparison with the first days of the years around it; a month by
walking the lengths of the months.

## Main definitions

* `Time.isLeap`, `Time.monthLengths`, `Time.daysOf` — the shape of a year.
* `Time.yearStart`, `Time.yearOf` — the day a year starts with, and the year a day lies in.
* `Time.Date` — year, month and day, with `Date.IsValid` for those the calendar has.
* `Date.toDays`, `Date.ofDays` — a date as a day number, and back.

## Main results

* `Time.yearStart_yearOf_le`, `Time.lt_yearStart_yearOf` — a day lies in its year.
* `Date.ofDays_isValid`, `Date.toDays_ofDays` — every day has a valid date with that number.
-/

namespace Teamwork.Time

/-- Every fourth year is a leap year, but of the full centuries only every fourth. -/
def isLeap (year : Int) : Bool :=
  year % 4 = 0 && (year % 100 ≠ 0 || year % 400 = 0)

/-- The lengths of the twelve months of a year. -/
def monthLengths (year : Int) : List Nat :=
  [31, if isLeap year then 29 else 28, 31, 30, 31, 30, 31, 31, 30, 31, 30, 31]

/-- The days of some months together. -/
def daysOf (lengths : List Nat) : Nat :=
  lengths.foldr (· + ·) 0

/-- The day number of the first of January. -/
def yearStart (year : Int) : Int :=
  365 * (year - 1) + (year - 1) / 4 - (year - 1) / 100 + (year - 1) / 400 - 719162

/-- The year that a day lies in. A year is on average 146097/400 days long. -/
def yearOf (day : Int) : Int :=
  let guess := (day + 719162) * 400 / 146097 + 1
  if day < yearStart guess then guess - 1
  else if yearStart (guess + 1) ≤ day then guess + 1
  else guess

/-- The month, counted on from `month`, and the day in it, both from the number of days since the
start of that month. -/
def monthAndDay (month : Nat) : List Nat → Nat → Nat × Nat
  | [], days => (month, days + 1)
  | length :: rest, days =>
    if days < length then (month, days + 1) else monthAndDay (month + 1) rest (days - length)

/-- A calendar date. -/
structure Date where
  /-- The year, with year zero and negative years before year one. -/
  year : Int
  /-- The month, from one. -/
  month : Nat
  /-- The day of the month, from one. -/
  day : Nat
  deriving DecidableEq, Repr

namespace Date

/-- The date exists in the calendar. -/
def IsValid (d : Date) : Prop :=
  1 ≤ d.month ∧ 1 ≤ d.day ∧ ∃ length ∈ (monthLengths d.year)[d.month - 1]?, d.day ≤ length

instance (d : Date) : Decidable d.IsValid := by
  unfold IsValid; infer_instance

/-- The number of the day, counted from 1970-01-01. -/
def toDays (d : Date) : Int :=
  yearStart d.year + daysOf ((monthLengths d.year).take (d.month - 1)) + d.day - 1

/-- The date of a day. -/
def ofDays (day : Int) : Date :=
  let year := yearOf day
  let (month, inMonth) := monthAndDay 1 (monthLengths year) (day - yearStart year).toNat
  { year, month, day := inMonth }

end Date

/-! ### A day lies in its year -/

theorem yearStart_yearOf_le (day : Int) : yearStart (yearOf day) ≤ day := by
  unfold yearOf yearStart
  dsimp only
  split
  · omega
  · split <;> omega

theorem lt_yearStart_yearOf (day : Int) : day < yearStart (yearOf day + 1) := by
  unfold yearOf yearStart
  dsimp only
  split
  · omega
  · split <;> omega

/-- A year is as long as its months together. -/
theorem yearStart_add_one (year : Int) :
    yearStart (year + 1) = yearStart year + daysOf (monthLengths year) := by
  have hlen : (daysOf (monthLengths year) : Int) = if isLeap year then 366 else 365 := by
    rw [monthLengths]
    split <;> rfl
  rw [hlen]
  unfold yearStart isLeap
  simp only [Bool.and_eq_true, Bool.or_eq_true, decide_eq_true_eq, ne_eq]
  split <;> omega

/-! ### Months -/

@[simp]
theorem daysOf_nil : daysOf [] = 0 :=
  rfl

@[simp]
theorem daysOf_cons (length : Nat) (rest : List Nat) :
    daysOf (length :: rest) = length + daysOf rest :=
  rfl

theorem monthAndDay_spec (lengths : List Nat) (month days : Nat) (h : days < daysOf lengths) :
    ∃ i length, (monthAndDay month lengths days).1 = month + i ∧ lengths[i]? = some length ∧
      1 ≤ (monthAndDay month lengths days).2 ∧ (monthAndDay month lengths days).2 ≤ length ∧
      daysOf (lengths.take i) + (monthAndDay month lengths days).2 = days + 1 := by
  induction lengths generalizing month days with
  | nil => simp at h
  | cons length rest ih =>
    rw [daysOf_cons] at h
    rw [monthAndDay]
    split
    · exact ⟨0, length, by simp, by simp, by simp, by simpa using by omega, by simp⟩
    · obtain ⟨i, l, h1, h2, h3, h4, h5⟩ := ih (month + 1) (days - length) (by omega)
      refine ⟨i + 1, l, by rw [h1]; omega, by simpa using h2, h3, h4, ?_⟩
      rw [List.take_succ_cons, daysOf_cons]
      omega

namespace Date

theorem ofDays_spec (day : Int) : (ofDays day).IsValid ∧ (ofDays day).toDays = day := by
  have h1 := yearStart_yearOf_le day
  have h2 := lt_yearStart_yearOf day
  rw [yearStart_add_one] at h2
  obtain ⟨i, length, hm, hl, h3, h4, h5⟩ :=
    monthAndDay_spec (monthLengths (yearOf day)) 1 (day - yearStart (yearOf day)).toNat (by omega)
  have hi : (monthAndDay 1 (monthLengths (yearOf day))
      (day - yearStart (yearOf day)).toNat).1 - 1 = i := by omega
  constructor
  · exact ⟨by simp only [ofDays]; omega, by simpa only [ofDays] using h3,
      length, by simp only [ofDays, hi, hl, Option.mem_def], by simpa only [ofDays] using h4⟩
  · simp only [toDays, ofDays, hi]
    omega

/-- Every day has a valid date. -/
theorem ofDays_isValid (day : Int) : (ofDays day).IsValid :=
  (ofDays_spec day).1

/-- A day is the one its date stands for. -/
theorem toDays_ofDays (day : Int) : (ofDays day).toDays = day :=
  (ofDays_spec day).2

end Date

example : Date.ofDays 0 = ⟨1970, 1, 1⟩ ∧ Date.ofDays (-1) = ⟨1969, 12, 31⟩ ∧
    Date.ofDays 11016 = ⟨2000, 2, 29⟩ ∧ Date.toDays ⟨-262143, 1, 1⟩ = -96465292 := by decide

end Teamwork.Time
