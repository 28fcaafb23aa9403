/-!
# Numbers written with digits

Decimal numbers of bounded and fixed width, and hexadecimal digits. Only the ASCII digits count:
neither a document nor a written time accepts the digits of another script.

## Main definitions

* `Text.takeNumber` — the longest decimal number at the start of a text, up to a number of digits.
* `Text.padded` — a decimal number filled up with zeros on the left.
* `Text.hexDigit?` — the value of a hexadecimal digit of either case.

## Main results

* `Text.takeNumber_padded` — a padded number of at most the allowed width reads back.
* `Text.takeNumber_toDigits` — a number reads back if no digit comes after it.
-/

namespace Teamwork.Text

/-- The decimal number at the start of a text, made of as many digits as there are but at most
`limit`, with what follows it. There must be at least one digit. -/
def takeNumber (limit : Nat) (cs : List Char) : Option (Nat × List Char) :=
  let digits := (cs.take limit).takeWhile Char.isDigit
  if digits.isEmpty then none else some (Nat.ofDigitChars 10 digits 0, cs.drop digits.length)

/-- A decimal number with zeros in front of it until it is `width` characters wide. -/
def padded (width n : Nat) : List Char :=
  (Nat.toDigits 10 n).leftpad width '0'

/-- The value of a hexadecimal digit. -/
def hexDigit? (c : Char) : Option Nat :=
  if c.isDigit then some (c.toNat - '0'.toNat)
  else if 'a' ≤ c ∧ c ≤ 'f' then some (c.toNat - 'a'.toNat + 10)
  else if 'A' ≤ c ∧ c ≤ 'F' then some (c.toNat - 'A'.toNat + 10)
  else none

/-! ### Reading a padded number back -/

/-- Zeros in front of a number do not count. -/
theorem ofDigitChars_replicate_zero (k : Nat) (ds : List Char) :
    Nat.ofDigitChars 10 (List.replicate k '0' ++ ds) 0 = Nat.ofDigitChars 10 ds 0 := by
  induction k with
  | zero => simp
  | succ k ih =>
    rw [List.replicate_succ, List.cons_append]
    show Nat.ofDigitChars 10 (List.replicate k '0' ++ ds) 0 = _
    exact ih

theorem ofDigitChars_padded (width n : Nat) : Nat.ofDigitChars 10 (padded width n) 0 = n := by
  rw [padded, List.leftpad, ofDigitChars_replicate_zero,
    Nat.ofDigitChars_toDigits (by decide) (by decide)]

theorem isDigit_of_mem_padded {width n : Nat} {c : Char} (h : c ∈ padded width n) :
    c.isDigit = true := by
  rw [padded, List.leftpad, List.mem_append, List.mem_replicate] at h
  rcases h with ⟨-, rfl⟩ | h
  · decide
  · exact Nat.isDigit_of_mem_toDigits (by decide) (by decide) h

theorem padded_ne_nil (width n : Nat) : padded width n ≠ [] := by
  rw [padded, List.leftpad]
  exact List.append_ne_nil_of_right_ne_nil _ Nat.toDigits_ne_nil

theorem length_padded (width n : Nat) :
    (padded width n).length = max width (Nat.toDigits 10 n).length := by
  rw [padded, List.leftpad, List.length_append, List.length_replicate]
  omega

/-- A padded number reads back, whatever text that does not start with a digit follows it. -/
theorem takeNumber_padded {limit width n : Nat} (h : (padded width n).length ≤ limit)
    {rest : List Char} (hr : ∀ c ∈ rest.head?, c.isDigit = false) :
    takeNumber limit (padded width n ++ rest) = some (n, rest) := by
  have htake : ((padded width n ++ rest).take limit).takeWhile Char.isDigit = padded width n := by
    rw [List.take_append, List.take_of_length_le h, List.takeWhile_append_of_pos fun c hc =>
      isDigit_of_mem_padded hc]
    cases rest with
    | nil => simp
    | cons c rest =>
      have hc : c.isDigit = false := hr c rfl
      cases hl : limit - (padded width n).length with
      | zero => simp
      | succ m => simp [hc]
  simp [takeNumber, htake, padded_ne_nil, ofDigitChars_padded]

/-- A number without zeros in front reads back if a character that is no digit follows it. -/
theorem takeNumber_toDigits (n : Nat) {c : Char} (hc : c.isDigit = false) (rest : List Char) :
    takeNumber (Nat.toDigits 10 n ++ c :: rest).length (Nat.toDigits 10 n ++ c :: rest) =
      some (n, c :: rest) := by
  have hpadded : padded 0 n = Nat.toDigits 10 n := by simp [padded, List.leftpad]
  rw [← hpadded]
  refine takeNumber_padded (by simp) ?_
  rintro _ ⟨⟩
  exact hc

end Teamwork.Text
