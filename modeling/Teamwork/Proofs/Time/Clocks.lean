import Mathlib.Logic.Function.Basic
import Teamwork.Proofs.Snapshot.Entering
import Teamwork.Proofs.Time.Codec

/-!
# Every time of day is kept

A written timestamp reads back, which is a matter of its text. What is added here is that nothing
is missing: whatever a clock in Greenwich may show, on any day of the years that dates may lie in
and with a sixty-first second in any minute, is shown at one timestamp. So timestamps are as many as
readings of clocks, and a text that was written for one of them stands for no other.

For a clock to be shown, its date has to be found again from the number of the day. Year and month
are found in the same way, by the number of the first day that is not before the day any more; that
there is only one such year is what `yearOf_mem` says, and for months it is an induction along their
lengths.

## Main results

* `Time.Date.ofDays_toDays` — a date of the calendar is found from the number of its day.
* `Time.Clock.clock_timestamp` — every time of day is shown at some timestamp.
* `Snapshot.interactionOf_insert_timestamp` — a written timestamp is read back from a record.
* `Snapshot.timestamps_kept` — timestamps are kept.
-/

namespace Teamwork.Time

/-! ### Dates -/

/-- The days before a month and those of the month are some of the days of all months. -/
theorem daysOf_take_add_le {lengths : List Nat} {i length : Nat} (h : lengths[i]? = some length) :
    daysOf (lengths.take i) + length ≤ daysOf lengths := by
  induction lengths generalizing i with
  | nil => simp at h
  | cons first rest ih =>
    cases i with
    | zero =>
      rw [List.getElem?_cons_zero, Option.some.injEq] at h
      rw [List.take_zero, daysOf_nil, daysOf_cons, h]
      omega
    | succ i =>
      have hle := ih (List.getElem?_cons_succ ▸ h)
      rw [List.take_succ_cons, daysOf_cons, daysOf_cons]
      omega

/-- A month and a day in it are found from the days before the month and the day. -/
theorem monthAndDay_eq {lengths : List Nat} {i length day : Nat} (h : lengths[i]? = some length)
    (hpos : 1 ≤ day) (hle : day ≤ length) (month : Nat) :
    monthAndDay month lengths (daysOf (lengths.take i) + day - 1) = (month + i, day) := by
  induction lengths generalizing i month with
  | nil => simp at h
  | cons first rest ih =>
    rw [monthAndDay]
    cases i with
    | zero =>
      rw [List.getElem?_cons_zero, Option.some.injEq] at h
      rw [List.take_zero, daysOf_nil, if_pos (by omega)]
      exact Prod.ext rfl (by dsimp only; omega)
    | succ i =>
      have hdays : first + daysOf (rest.take i) + day - 1 - first =
          daysOf (rest.take i) + day - 1 := by omega
      rw [List.take_succ_cons, daysOf_cons, if_neg (by omega), hdays,
        ih (List.getElem?_cons_succ ▸ h)]
      exact Prod.ext (by dsimp only; omega) rfl

namespace Date

variable {d : Date}

/-- A date lies in its year. -/
theorem toDays_mem (h : d.IsValid) :
    yearStart d.year ≤ d.toDays ∧ d.toDays < yearStart (d.year + 1) := by
  obtain ⟨-, hday, length, hlength, hle⟩ := h
  have hmonths := daysOf_take_add_le hlength
  rw [toDays, yearStart_add_one]
  omega

/-- **A date of the calendar is found from the number of its day.** -/
theorem ofDays_toDays (h : d.IsValid) : ofDays d.toDays = d := by
  obtain ⟨hstart, hend⟩ := toDays_mem h
  obtain ⟨hmonth, hday, length, hlength, hle⟩ := h
  have hyear : yearOf d.toDays = d.year := by
    obtain ⟨hfirst, hlast⟩ := yearOf_mem hstart hend
    omega
  have hdays : (d.toDays - yearStart d.year).toNat =
      daysOf ((monthLengths d.year).take (d.month - 1)) + d.day - 1 := by
    rw [toDays]
    omega
  have hmonths := monthAndDay_eq hlength hday hle 1
  rw [ofDays]
  dsimp only
  rw [hyear, hdays, hmonths, Nat.add_sub_cancel' hmonth]

end Date

/-! ### Times of day -/

namespace Clock

variable {c : Clock}

/-- The second of the day that a clock shows, where a leap second is the second before it. -/
def ofDay (c : Clock) : Nat :=
  c.hour * 3600 + c.minute * 60 + min c.second 59

/-- The nanoseconds since that second began. -/
def nanos (c : Clock) : Nat :=
  c.nano + if c.second = 60 then nanosPerSecond else 0

theorem nanos_cases (h : c.IsValid) :
    c.second = 60 ∧ c.nanos = c.nano + 1000000000 ∨ c.second < 60 ∧ c.nanos = c.nano := by
  obtain ⟨-, -, -, -, hsecond, -⟩ := h
  by_cases h60 : c.second = 60
  · exact .inl ⟨h60, by rw [nanos, if_pos h60]⟩
  · exact .inr ⟨by omega, by rw [nanos, if_neg h60, Nat.add_zero]⟩

/-- A clock shows a time within the years that dates may lie in. -/
theorem second_mem (h : c.IsValid) :
    firstSecond ≤ c.date.toDays * 86400 + c.ofDay ∧
      c.date.toDays * 86400 + c.ofDay ≤ lastSecond := by
  obtain ⟨hdate, ⟨hfirst, hlast⟩, hhour, hminute, -, -⟩ := h
  obtain ⟨hstart, hend⟩ := Date.toDays_mem hdate
  have hlow : yearStart firstYear ≤ yearStart c.date.year := yearStart_le hfirst
  have hhigh : yearStart (c.date.year + 1) ≤ yearStart (lastYear + 1) := yearStart_le (by omega)
  have hmin : yearStart firstYear * 86400 = firstSecond := by decide
  have hmax : yearStart (lastYear + 1) * 86400 = lastSecond + 1 := by decide
  rw [ofDay]
  omega

/-- The timestamp at which a clock in Greenwich shows this. -/
def timestamp (c : Clock) (h : c.IsValid) : Timestamp where
  second := c.date.toDays * 86400 + c.ofDay
  nano := c.nanos
  first_le := (second_mem h).1
  le_last := (second_mem h).2
  nano_lt := by
    have hnano : c.nano < 1000000000 := h.2.2.2.2.2
    show c.nanos < 2000000000
    rcases nanos_cases h with ⟨-, hnanos⟩ | ⟨-, hnanos⟩ <;> omega
  leap := by
    have hnano : c.nano < 1000000000 := h.2.2.2.2.2
    show 1000000000 ≤ c.nanos → _
    rw [ofDay]
    rcases nanos_cases h with ⟨hlong, hnanos⟩ | ⟨-, hnanos⟩ <;> omega

/-- **A clock shows this at its timestamp.** -/
theorem clock_timestamp (h : c.IsValid) : (c.timestamp h).clock = c := by
  obtain ⟨hdate, -, hhour, hminute, hsecond, hnano⟩ := id h
  have hofDay : c.ofDay = c.hour * 3600 + c.minute * 60 + min c.second 59 := rfl
  have hday : (c.timestamp h).second / secondsPerDay = c.date.toDays := by
    show (c.date.toDays * 86400 + c.ofDay) / 86400 = c.date.toDays
    omega
  have htime : (c.timestamp h).ofDay = c.ofDay := by
    show ((c.date.toDays * 86400 + c.ofDay) % 86400).toNat = c.ofDay
    omega
  have hshown : (if (c.timestamp h).isLeapSecond then 60 else c.ofDay % 60) = c.second ∧
      (c.timestamp h).nano % nanosPerSecond = c.nano := by
    have hnano : c.nano < 1000000000 := hnano
    have hleap : (c.timestamp h).isLeapSecond = decide (1000000000 ≤ c.nanos) := rfl
    show _ ∧ c.nanos % 1000000000 = c.nano
    rw [hleap]
    rcases nanos_cases h with ⟨hlong, hnanos⟩ | ⟨hshort, hnanos⟩
    · rw [if_pos (decide_eq_true (by omega))]
      omega
    · rw [if_neg (by simp only [decide_eq_true_eq]; omega)]
      omega
  have hhour : c.ofDay / 3600 = c.hour := by omega
  have hminute : c.ofDay / 60 % 60 = c.minute := by omega
  rw [Timestamp.clock_eq, hday, htime, Date.ofDays_toDays hdate, hhour, hminute, hshown.1, hshown.2]

end Clock

namespace Timestamp

/-- The readings of clocks are what clocks show at timestamps. -/
theorem isValid_iff {c : Clock} : c.IsValid ↔ ∃ t : Timestamp, t.clock = c := by
  constructor
  · intro h
    exact ⟨c.timestamp h, Clock.clock_timestamp h⟩
  · rintro ⟨t, rfl⟩
    exact t.isValid_clock

theorem write_injective : Function.Injective write := by
  intro s t h
  have hread := congrArg read? h
  rw [read?_write, read?_write] at hread
  exact Option.some.inj hread

end Timestamp

end Teamwork.Time

namespace Teamwork.Snapshot

open Teamwork.Time (Clock Timestamp)

/-! ### Times in records -/

theorem required_insert (record : Fields) (key value name : String) :
    required (record.insert key value) name =
      if key = name then .ok value else required record name := by
  rw [required, required, Keyed.getElem?_insert]
  by_cases h : key = name
  · rw [if_pos h, if_pos h]
  · rw [if_neg h, if_neg h]

theorem meaning_eq_ok_iff {α : Type} {read? : String → Option α} {name value : String} {a : α} :
    meaning read? name value = .ok a ↔ read? value = some a := by
  rw [meaning]
  cases read? value <;> simp

/-- A record with another timestamp written in it describes the same interaction at another time. -/
theorem interactionOf_insert_timestamp {record : Fields} {i : Interaction}
    (h : interactionOf record = .ok i) (t : Timestamp) :
    interactionOf (record.insert Names.timestamp t.write) = .ok { i with timestamp := t } := by
  simp only [interactionOf, bind_eq_ok_iff, meaning_eq_ok_iff, required_insert] at h ⊢
  obtain ⟨issueKey, hissue, a, ha, b, hb, kindText, hkindText, timeText, -, kind, hkind, time, -,
    hi⟩ := h
  refine ⟨issueKey, ?_, a, ?_, b, ?_, kindText, ?_, t.write, ?_, kind, hkind, t, t.read?_write, ?_⟩
  · rw [if_neg (by decide), hissue]
  · rw [if_neg (by decide), ha]
  · rw [if_neg (by decide), hb]
  · rw [if_neg (by decide), hkindText]
  · rw [if_pos trivial]
  · rw [← Except.ok.inj hi]
    rfl

/-- **Timestamps are kept.** There is one for all that a clock may show, what is written for it is
read as it, in a record too, and no two of them are written in the same way. -/
theorem timestamps_kept :
    (∀ c : Clock, c.IsValid ↔ ∃ t : Timestamp, t.clock = c) ∧
      (∀ t : Timestamp, Timestamp.read? t.write = some t) ∧
      (∀ (t : Timestamp) (record : Fields) (i : Interaction), interactionOf record = .ok i →
        interactionOf (record.insert "timestamp" t.write) = .ok { i with timestamp := t }) ∧
      Function.Injective Timestamp.write :=
  ⟨fun _ => Timestamp.isValid_iff, Timestamp.read?_write,
    fun t _ _ h => interactionOf_insert_timestamp h t, Timestamp.write_injective⟩

/-- A discussion at some time. -/
def discussionAt (timestamp : Timestamp) : Interaction where
  issueKey := "COL-1"
  employeeA := "ada"
  employeeB := "bob"
  kind := .discussion
  timestamp := timestamp

/-- An instant in a leap second, at the end of a June. -/
def leapSecond : Timestamp where
  second := 78796799
  nano := 1750000000
  first_le := by decide
  le_last := by decide
  nano_lt := by decide
  leap := by decide

/-- The last instant of all, in a leap second too. -/
def lastInstant : Timestamp where
  second := 8210266876799
  nano := 1999999999
  first_le := by decide
  le_last := by decide
  nano_lt := by decide
  leap := by decide

/-- The record of a discussion in a leap second. -/
def discussionRecord : Fields :=
  {("issueKey", "COL-1"), ("employeeA", "ada"), ("employeeB", "bob"), ("type", "DISCUSSION"),
    ("timestamp", "1972-06-30T23:59:60.75Z")}

/-- A discussion that is moved from one leap second to another is read in the other. -/
theorem timestamps_kept_lastInstant :
    interactionOf discussionRecord = .ok (discussionAt leapSecond) ∧
      lastInstant.write = "+262142-12-31T23:59:60.999999999Z" ∧
      interactionOf (discussionRecord.insert "timestamp" lastInstant.write) =
        .ok (discussionAt lastInstant) := by
  have hread : interactionOf discussionRecord = .ok (discussionAt leapSecond) := by decide +kernel
  obtain ⟨-, -, hmoved, -⟩ := timestamps_kept
  exact ⟨hread, by decide +kernel, hmoved lastInstant _ _ hread⟩

end Teamwork.Snapshot
