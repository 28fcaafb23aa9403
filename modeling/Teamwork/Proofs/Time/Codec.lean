import Mathlib.Algebra.Ring.Nat
import Teamwork.Time.Writing

/-!
# A written time reads back

What a clock shows is written part by part and read part by part, so every part has a lemma of its
own: the part, followed by whatever the next part may start with, gives back the part and leaves
what followed it. All that a part needs to know of what follows is that it does not start with a
digit, which is what `NoDigit` says.

That the clock of an instant reads back as the instant is a matter of the calendar alone. A leap
second is shown as the second 60 and stored as the second before it, which is why the last second of
a minute is the only one that the sixty-first may be confused with.

## Main definitions

* `Time.NoDigit` — texts that do not go on with a digit.
* `Time.Clock.Fits` — clocks whose fields have the width they are written in.

## Main results

* `Time.ofChars?_write` — a written clock reads back.
* `Time.Timestamp.ofClock?_clock` — a clock in Greenwich shows the instant.
* `Time.Timestamp.read?_write` — every timestamp reads back.
-/

namespace Teamwork.Time

open Text

/-! ### Parts of fixed width -/

/-- The text does not start with a digit. -/
def NoDigit (cs : List Char) : Prop :=
  ∀ c ∈ cs.head?, c.isDigit = false

theorem noDigit_cons {c : Char} (h : c.isDigit = false) (cs : List Char) : NoDigit (c :: cs) := by
  intro d hd
  rw [← Option.some.inj hd]
  exact h

theorem not_isBlank_of_isDigit {c : Char} (h : c.isDigit = true) : isBlank c = false := by
  have hall : ∀ n < 58, 48 ≤ n → isBlank (Char.ofNat n) = false := by decide
  have hc : 48 ≤ c.toNat ∧ c.toNat < 58 := by
    simp only [Char.isDigit, Bool.and_eq_true, decide_eq_true_eq] at h
    exact ⟨h.1, Nat.lt_succ_of_le h.2⟩
  simpa using hall c.toNat hc.2 hc.1

theorem exists_padded (width n : Nat) :
    ∃ c cs, padded width n = c :: cs ∧ c.isDigit = true := by
  obtain ⟨c, cs, h⟩ := List.exists_cons_of_ne_nil (padded_ne_nil width n)
  exact ⟨c, cs, h, isDigit_of_mem_padded (h ▸ List.mem_cons_self)⟩

theorem skipBlanks_padded (width n : Nat) (rest : List Char) :
    skipBlanks (padded width n ++ rest) = padded width n ++ rest := by
  obtain ⟨c, cs, h, hc⟩ := exists_padded width n
  rw [h, List.cons_append, skipBlanks_cons_of_not (not_isBlank_of_isDigit hc)]

/-- A number that is less than a power of ten is padded to the width of the power. -/
theorem length_padded_of_lt {width n : Nat} (hw : 0 < width) (h : n < 10 ^ width) :
    (padded width n).length = width := by
  rw [length_padded, Nat.max_eq_left]
  exact (Nat.length_toDigits_le_iff (by decide) hw).2 h

theorem takeField_padded {n : Nat} (h : n < 100) {rest : List Char} (hrest : NoDigit rest) :
    takeField (padded 2 n ++ rest) = some (n, rest) := by
  rw [takeField, skipBlanks_padded]
  exact takeNumber_padded (Nat.le_of_eq (length_padded_of_lt (by decide) h)) hrest

theorem takeMark_cons {c : Char} (h : isBlank c = false) (rest : List Char) :
    takeMark c (c :: rest) = some rest := by
  rw [takeMark, skipBlanks_cons_of_not h]
  exact if_pos rfl

/-! ### Parts of varying width -/

theorem takeYear_writeYear (year : Int) {rest : List Char} (hrest : NoDigit rest) :
    takeYear (writeYear year ++ rest) = some (year, rest) := by
  rw [writeYear]
  split
  · next hyear =>
    have hlength : (padded 4 year.toNat).length ≤ 4 :=
      Nat.le_of_eq (length_padded_of_lt (by decide) (by omega))
    have hnumber := takeNumber_padded hlength hrest
    rw [takeYear, skipBlanks_padded]
    obtain ⟨c, cs, h, hc⟩ := exists_padded 4 year.toNat
    rw [h, List.cons_append] at hnumber ⊢
    split
    · next heq =>
      rw [(List.cons.inj heq).1] at hc
      exact absurd hc (by decide)
    · next heq =>
      rw [(List.cons.inj heq).1] at hc
      exact absurd hc (by decide)
    · rw [hnumber]
      exact congrArg some (Prod.ext (Int.toNat_of_nonneg hyear.1) rfl)
  · next hyear =>
    have hnumber : takeNumber (padded 4 year.natAbs ++ rest).length
        (padded 4 year.natAbs ++ rest) = some (year.natAbs, rest) :=
      takeNumber_padded (by rw [List.length_append]; exact Nat.le_add_right _ _) hrest
    split
    · next hneg =>
      rw [List.cons_append, takeYear, skipBlanks_cons_of_not (by decide)]
      show (takeNumber _ _).map _ = _
      rw [hnumber]
      refine congrArg some (Prod.ext ?_ rfl)
      show -(year.natAbs : Int) = year
      omega
    · next hpos =>
      rw [List.cons_append, takeYear, skipBlanks_cons_of_not (by decide)]
      show (takeNumber _ _).map _ = _
      rw [hnumber]
      exact congrArg some (Prod.ext (Int.natAbs_of_nonneg (Int.not_lt.1 hpos)) rfl)

/-- Digits after a point stand for a fraction of a second by how many they are. -/
theorem takeFraction_padded {width n : Nat} (hwidth : 0 < width) (hle : width ≤ 9)
    (hn : n < 10 ^ width) {rest : List Char} (hrest : NoDigit rest) :
    takeFraction ('.' :: padded width n ++ rest) = some (n * Nat.pow 10 (9 - width), rest) := by
  have hlength := length_padded_of_lt hwidth hn
  have hnumber := takeNumber_padded (Nat.le_trans (Nat.le_of_eq hlength) hle) hrest
  have hconsumed : (padded width n ++ rest).length - rest.length = width := by
    rw [List.length_append, hlength, Nat.add_sub_cancel]
  have hdrop : rest.dropWhile Char.isDigit = rest := by
    cases rest with
    | nil => rfl
    | cons c rest => simp [hrest c rfl]
  rw [List.cons_append, takeFraction, hnumber]
  simp only [Option.bind_eq_bind, Option.bind_some, hconsumed, hdrop]

theorem takeFraction_writeFraction {nano : Nat} (hnano : nano < nanosPerSecond) {rest : List Char}
    (hrest : NoDigit rest) (hpoint : rest.head? ≠ some '.') :
    takeFraction (writeFraction nano ++ rest) = some (nano, rest) := by
  rw [writeFraction]
  have hnano : nano < 1000000000 := hnano
  split
  · next hzero =>
    rw [List.nil_append, takeFraction.eq_def]
    split
    · exact absurd rfl hpoint
    · rw [hzero]
  · split
    · next hmod =>
      rw [takeFraction_padded (by decide) (by decide) (by omega) hrest]
      refine congrArg some (Prod.ext ?_ rfl)
      show nano / 1000000 * 1000000 = nano
      omega
    · split
      · next hmod =>
        rw [takeFraction_padded (by decide) (by decide) (by omega) hrest]
        refine congrArg some (Prod.ext ?_ rfl)
        show nano / 1000 * 1000 = nano
        omega
      · rw [takeFraction_padded (by decide) (by decide) (by omega) hrest]
        exact congrArg some (Prod.ext (Nat.mul_one nano) rfl)

/-! ### Clocks -/

/-- The fields of the clock have the width they are written in. -/
structure Clock.Fits (c : Clock) : Prop where
  month : c.date.month < 100
  day : c.date.day < 100
  hour : c.hour < 100
  minute : c.minute < 100
  second : c.second < 100
  nano : c.nano < nanosPerSecond

/-- A part that was read is handed on. -/
theorem some_bind {α β : Type} (a : α) (f : α → Option β) : (some a >>= f) = f a :=
  rfl

/-- A written clock reads back as what it shows, read in Greenwich. -/
theorem ofChars?_write {c : Clock} (h : c.Fits) :
    Timestamp.ofChars? (c.write ++ ['Z']) = Timestamp.ofClock? c 0 := by
  have hdash : ∀ rest, NoDigit ('-' :: rest) := noDigit_cons (by decide)
  have hmark : ∀ rest, NoDigit ('T' :: rest) := noDigit_cons (by decide)
  have hcolon : ∀ rest, NoDigit (':' :: rest) := noDigit_cons (by decide)
  have hfraction : NoDigit (writeFraction c.nano ++ ['Z']) := by
    rw [writeFraction]
    split
    · exact noDigit_cons (by decide) _
    · split
      · exact noDigit_cons (by decide) _
      · split <;> exact noDigit_cons (by decide) _
  have hzone : NoDigit ['Z'] := noDigit_cons (by decide) _
  rw [Clock.write, Timestamp.ofChars?]
  simp only [List.append_assoc, List.cons_append]
  rw [takeYear_writeYear _ (hdash _), some_bind, takeMark_cons (by decide),
    some_bind, takeField_padded h.month (hdash _), some_bind,
    takeMark_cons (by decide), some_bind, takeField_padded h.day (hmark _),
    some_bind]
  rw [takeSeparator, if_pos (by decide), some_bind, takeField_padded h.hour (hcolon _),
    some_bind, takeMark_cons (by decide), some_bind,
    takeField_padded h.minute (hcolon _), some_bind, takeMark_cons (by decide),
    some_bind, takeField_padded h.second hfraction, some_bind,
    takeFraction_writeFraction h.nano hzone (by decide), some_bind]
  rfl

/-! ### Instants -/

theorem yearStart_le {a b : Int} (h : a ≤ b) : yearStart a ≤ yearStart b := by
  rw [yearStart, yearStart]
  omega

/-- A day from the start of one year on and before the start of another lies in a year from the
first on and before the other. -/
theorem yearOf_mem {first last day : Int} (hfirst : yearStart first ≤ day)
    (hlast : day < yearStart (last + 1)) : first ≤ yearOf day ∧ yearOf day ≤ last := by
  constructor
  · by_contra hlt
    have hle : yearStart (yearOf day + 1) ≤ yearStart first := yearStart_le (by omega)
    have hday := lt_yearStart_yearOf day
    omega
  · by_contra hlt
    have hle : yearStart (last + 1) ≤ yearStart (yearOf day) := yearStart_le (by omega)
    have hday := yearStart_yearOf_le day
    omega

namespace Timestamp

variable (t : Timestamp)

/-- The second of the day that the clock of an instant shows. -/
def ofDay : Nat :=
  (t.second % secondsPerDay).toNat

theorem ofDay_lt : t.ofDay < 86400 := by
  have hpos : (0 : Int) < secondsPerDay := by decide
  have hlt : t.second % secondsPerDay < secondsPerDay := Int.emod_lt_of_pos _ hpos
  have hnonneg : 0 ≤ t.second % secondsPerDay := Int.emod_nonneg _ (by decide)
  exact (Int.toNat_lt hnonneg).2 hlt

/-- An instant is the start of its day and the second of its day. -/
theorem second_eq : t.second = t.second / secondsPerDay * secondsPerDay + t.ofDay := by
  have hnonneg : 0 ≤ t.second % secondsPerDay := Int.emod_nonneg _ (by decide)
  rw [ofDay, Int.toNat_of_nonneg hnonneg]
  exact (Int.ediv_mul_add_emod t.second secondsPerDay).symm

theorem clock_eq : t.clock = {
    date := Date.ofDays (t.second / secondsPerDay)
    hour := t.ofDay / 3600
    minute := t.ofDay / 60 % 60
    second := if t.isLeapSecond then 60 else t.ofDay % 60
    nano := t.nano % nanosPerSecond } :=
  rfl

theorem year_clock : firstYear ≤ t.clock.date.year ∧ t.clock.date.year ≤ lastYear := by
  have hsecond : t.second = t.second / secondsPerDay * 86400 + t.ofDay := t.second_eq
  have hday := t.ofDay_lt
  have hfirst := t.first_le
  have hlast := t.le_last
  have hstart : yearStart firstYear * 86400 = firstSecond := by decide
  have hend : yearStart (lastYear + 1) * 86400 = lastSecond + 1 := by decide
  exact yearOf_mem (by omega) (by omega)

/-- The clock of an instant shows a time of day on a date within range. -/
theorem isValid_clock : t.clock.IsValid := by
  have hday := t.ofDay_lt
  refine ⟨Date.ofDays_isValid _, t.year_clock, ?_⟩
  rw [clock_eq]
  dsimp only
  refine ⟨by omega, by omega, ?_, Nat.mod_lt _ (by decide)⟩
  split <;> omega

theorem fits_clock : t.clock.Fits := by
  obtain ⟨⟨-, -, length, hlength, hle⟩, -, hhour, hminute, hsecond, hnano⟩ := t.isValid_clock
  have hmonth : t.clock.date.month - 1 < 12 := by
    obtain ⟨hlt, -⟩ := List.getElem?_eq_some_iff.1 hlength
    exact hlt
  have hshort : ∀ length ∈ monthLengths t.clock.date.year, length ≤ 31 := by
    rw [monthLengths]
    split <;> decide
  have hday := hshort length (List.mem_of_getElem? hlength)
  exact {
    month := by omega
    day := by omega
    hour := by omega
    minute := by omega
    second := by omega
    nano := hnano }

/-- The clock of an instant shows the instant, a leap second included. -/
theorem ofClock?_clock : ofClock? t.clock 0 = some t := by
  rw [ofClock?, if_pos t.isValid_clock, ← t.ofParts?_self]
  have hsecond : t.second = t.second / secondsPerDay * 86400 + t.ofDay := t.second_eq
  have hday := t.ofDay_lt
  have hnano := t.nano_lt
  have hleap := t.leap
  rw [clock_eq, Date.toDays_ofDays]
  dsimp only
  by_cases h : t.isLeapSecond = true
  · have hlong : nanosPerSecond ≤ t.nano := of_decide_eq_true h
    have hlast : t.ofDay % 60 = 59 := by
      have := hleap hlong
      omega
    have hmod : t.nano % nanosPerSecond + nanosPerSecond = t.nano := by
      have hbelow : t.nano - nanosPerSecond < nanosPerSecond := by omega
      rw [Nat.mod_eq_sub_mod hlong, Nat.mod_eq_of_lt hbelow, Nat.sub_add_cancel hlong]
    rw [if_pos h, if_pos rfl, hmod]
    congr 1
    show t.second / secondsPerDay * 86400 + _ + _ + 59 - 0 = t.second
    omega
  · have hshort : t.nano < nanosPerSecond := Nat.lt_of_not_le fun hle => h (decide_eq_true hle)
    have hsecond60 : t.ofDay % 60 ≠ 60 := by omega
    rw [if_neg h, if_neg hsecond60, Nat.mod_eq_of_lt hshort, Nat.add_zero]
    congr 1
    show t.second / secondsPerDay * 86400 + _ + _ + _ - 0 = t.second
    omega

/-- **Every timestamp reads back.** -/
theorem read?_write : read? t.write = some t := by
  rw [read?, write, String.toList_ofList, ofChars?_write t.fits_clock, ofClock?_clock]

end Timestamp

end Teamwork.Time
