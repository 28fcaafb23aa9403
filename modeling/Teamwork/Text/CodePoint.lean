/-!
# Characters by their code

Escapes name a character by its code. Not every number is the code of a character: the halves of
surrogate pairs and the numbers above U+10FFFF are not.

## Main definitions

* `Text.charOf?` — the character with a code.

## Main results

* `Text.charOf?_toNat` — every character is found under its code.
* `Text.charOf?_eq_some_iff` — and under no other.
-/

namespace Teamwork.Text

/-- The character with a code, if there is one. -/
def charOf? (code : Nat) : Option Char :=
  if h : code.isValidChar then some (Char.ofNatAux code h) else none

theorem charOf?_toNat (c : Char) : charOf? c.toNat = some c := by
  have h : c.toNat.isValidChar := c.valid
  rw [charOf?, dif_pos h]
  rfl

theorem charOf?_eq_some_iff {code : Nat} {c : Char} : charOf? code = some c ↔ c.toNat = code := by
  constructor
  · intro h
    by_cases hvalid : code.isValidChar
    · rw [charOf?, dif_pos hvalid] at h
      obtain rfl := Option.some.inj h
      rfl
    · rw [charOf?, dif_neg hvalid] at h
      cases h
  · rintro rfl
    exact charOf?_toNat c

end Teamwork.Text
