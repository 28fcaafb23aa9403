import Teamwork.Proofs.Snapshot.Strings
import Teamwork.Proofs.Snapshot.Written

/-!
# Where a string ends

A string is read by one function and passed over by another, and the two look at a backslash in
different ways. Passing over drops the one character behind it. Reading takes as many characters as
the escape has, twelve of them for a surrogate pair. They stop at the same quote nevertheless,
because nothing that an escape takes beyond its first character can end a string: there are only
hexadecimal digits, and in a pair one more backslash with its own first character.

To say this without either of the two functions, `Spells` lists the ways to write one character
between the quotes, and a string is a spelling of its text. The ways are those of JSON and two more:
a character below the space may stand as it is, and a backslash may stand before any character.
Reading accepts the spellings and nothing else.

Passing over is wider. It also goes through an escape that gives no character; this is how the
reader gets behind a record that it has to give up.

## Main definitions

* `Snapshot.Spells`, `Snapshot.IsSpelling` — how a character and a text may be written.

## Main results

* `Snapshot.readString_eq_ok_iff_isSpelling` — what is read.
* `Snapshot.skipString_of_readString` — a string that is read is passed over to the same place.
* `Snapshot.strings_kept_and_passed_over` — both, and written strings are read back.
-/

namespace Teamwork.Snapshot

open Text

/-! ### Spellings -/

/-- The letters that stand for a control character after a backslash, with that character. -/
def controlLetters : List (Char × Char) :=
  [('n', '\n'), ('r', '\r'), ('t', '\t'), ('b', '\x08'), ('f', '\x0c')]

/-- Four hexadecimal digits of either case, with their number. -/
inductive IsHex : List Char → Nat → Prop where
  | mk {c₁ c₂ c₃ c₄ : Char} {d₁ d₂ d₃ d₄ : Nat} :
      (c₁, d₁) ∈ Json.hexDigits → (c₂, d₂) ∈ Json.hexDigits → (c₃, d₃) ∈ Json.hexDigits →
      (c₄, d₄) ∈ Json.hexDigits →
      IsHex [c₁, c₂, c₃, c₄] (((d₁ * 16 + d₂) * 16 + d₃) * 16 + d₄)

/-- The ways to write a character between the quotes of a string. -/
inductive Spells : List Char → Char → Prop where
  /-- The character as it is. -/
  | plain {c : Char} : c ≠ '"' → c ≠ '\\' → Spells [c] c
  /-- A letter for a control character. -/
  | control {letter c : Char} : (letter, c) ∈ controlLetters → Spells ['\\', letter] c
  /-- The character itself after a backslash, if it has no other meaning there. -/
  | escaped {c : Char} : (∀ p ∈ controlLetters, p.1 ≠ c) → c ≠ 'u' → Spells ['\\', c] c
  /-- The number of the character. -/
  | unicode {digits : List Char} {c : Char} :
      IsHex digits c.toNat → Spells ('\\' :: 'u' :: digits) c
  /-- The two halves of a surrogate pair. -/
  | pair {digits digits' : List Char} {high low : Nat} {c : Char} :
      IsHex digits high → IsHex digits' low → Json.IsHigh high → Json.IsLow low →
      c.toNat = 0x10000 + (high - 0xD800) * 0x400 + (low - 0xDC00) →
      Spells ('\\' :: 'u' :: digits ++ '\\' :: 'u' :: digits') c

/-- A text is spelled by what spells its characters one after the other. -/
inductive IsSpelling : List Char → List Char → Prop where
  | nil : IsSpelling [] []
  | cons {piece cs s : List Char} {c : Char} :
      Spells piece c → IsSpelling cs s → IsSpelling (piece ++ cs) (c :: s)

/-! ### Reading an escape -/

theorem hexDigit?_eq_some_iff {c : Char} {digit : Nat} :
    hexDigit? c = some digit ↔ (c, digit) ∈ Json.hexDigits := by
  refine ⟨?_, hexDigit?_of_mem⟩
  intro h
  have all : ∀ n ≤ 'f'.toNat, ∀ digit ∈ hexDigit? (Char.ofNat n),
      (Char.ofNat n, digit) ∈ Json.hexDigits := by decide
  have hle : c ≤ 'f' := by
    rw [hexDigit?] at h
    split at h
    · next hdigit =>
      simp only [Char.isDigit, Bool.and_eq_true, decide_eq_true_eq] at hdigit
      exact Char.le_trans hdigit.2 (by decide)
    · split at h
      · next hlower => exact hlower.2
      · split at h
        · next hupper => exact Char.le_trans hupper.2 (by decide)
        · cases h
  simpa using all c.toNat hle digit (by simpa using h)

theorem readHex_succ_eq_ok_iff {count value n : Nat} {cs rest : List Char} :
    readHex (count + 1) value cs = .ok (n, rest) ↔
      ∃ c digit cs', cs = c :: cs' ∧ (c, digit) ∈ Json.hexDigits ∧
        readHex count (value * 16 + digit) cs' = .ok (n, rest) := by
  simp only [← hexDigit?_eq_some_iff]
  cases cs with
  | nil => simp [readHex]
  | cons c cs =>
    rw [readHex]
    cases hdigit : hexDigit? c <;> simp [hdigit]

theorem readHex_of_isHex {digits : List Char} {n : Nat} (h : IsHex digits n) (rest : List Char) :
    readHex 4 0 (digits ++ rest) = .ok (n, rest) := by
  obtain ⟨h₁, h₂, h₃, h₄⟩ := h
  exact readHex_four h₁ h₂ h₃ h₄ rest

theorem readHex_eq_ok_iff {cs rest : List Char} {n : Nat} :
    readHex 4 0 cs = .ok (n, rest) ↔ ∃ digits, IsHex digits n ∧ cs = digits ++ rest := by
  constructor
  · intro h
    obtain ⟨c₁, d₁, cs₁, rfl, h₁, hread₁⟩ := readHex_succ_eq_ok_iff.1 h
    obtain ⟨c₂, d₂, cs₂, rfl, h₂, hread₂⟩ := readHex_succ_eq_ok_iff.1 hread₁
    obtain ⟨c₃, d₃, cs₃, rfl, h₃, hread₃⟩ := readHex_succ_eq_ok_iff.1 hread₂
    obtain ⟨c₄, d₄, cs₄, rfl, h₄, hread₄⟩ := readHex_succ_eq_ok_iff.1 hread₃
    obtain ⟨rfl, rfl⟩ := Prod.mk.inj (Except.ok.inj hread₄)
    exact ⟨[c₁, c₂, c₃, c₄], by simpa using IsHex.mk h₁ h₂ h₃ h₄, rfl⟩
  · rintro ⟨digits, hdigits, rfl⟩
    exact readHex_of_isHex hdigits rest

theorem charOrFault_eq_ok_iff {code : Nat} {cs rest : List Char} {c : Char} :
    charOrFault code cs = .ok (c, rest) ↔ c.toNat = code ∧ cs = rest := by
  rw [← charOf?_eq_some_iff, charOrFault]
  cases charOf? code <;> simp

theorem readLowSurrogate_eq_ok_iff {high : Nat} {cs rest : List Char} {c : Char} :
    readLowSurrogate high cs = .ok (c, rest) ↔
      ∃ digits low, IsHex digits low ∧ Json.IsLow low ∧
        c.toNat = 0x10000 + (high - 0xD800) * 0x400 + (low - 0xDC00) ∧
        cs = '\\' :: 'u' :: digits ++ rest := by
  constructor
  · intro h
    unfold readLowSurrogate at h
    split at h
    · next cs =>
      cases hread : readHex 4 0 cs with
      | error fault => simp [hread] at h
      | ok p =>
        obtain ⟨low, rest'⟩ := p
        simp only [hread, isLowSurrogate_eq, decide_eq_true_eq] at h
        split at h
        · next hlow =>
          obtain ⟨hc, rfl⟩ := charOrFault_eq_ok_iff.1 h
          obtain ⟨digits, hdigits, rfl⟩ := readHex_eq_ok_iff.1 hread
          exact ⟨digits, low, hdigits, hlow, hc, rfl⟩
        · cases h
    · cases h
    · cases h
  · rintro ⟨digits, low, hdigits, hlow, hc, rfl⟩
    rw [List.cons_append, List.cons_append, readLowSurrogate_of_readHex
      (readHex_of_isHex hdigits rest), if_pos hlow]
    exact charOrFault_eq_ok_iff.2 ⟨hc, rfl⟩

theorem exists_spells_of_readUnicode {cs rest : List Char} {c : Char}
    (h : readUnicode cs = .ok (c, rest)) :
    ∃ piece, Spells ('\\' :: 'u' :: piece) c ∧ cs = piece ++ rest := by
  cases hread : readHex 4 0 cs with
  | error fault => simp [readUnicode, hread] at h
  | ok p =>
    obtain ⟨code, rest'⟩ := p
    obtain ⟨digits, hdigits, rfl⟩ := readHex_eq_ok_iff.1 hread
    by_cases hhigh : Json.IsHigh code
    · rw [readUnicode_of_readHex hread hhigh] at h
      obtain ⟨digits', low, hdigits', hlow, hc, rfl⟩ := readLowSurrogate_eq_ok_iff.1 h
      exact ⟨_, .pair hdigits hdigits' hhigh hlow hc, by simp⟩
    · simp only [readUnicode, hread, isHighSurrogate_eq, hhigh, decide_false, Bool.false_eq_true,
        if_false] at h
      obtain ⟨rfl, rfl⟩ := charOrFault_eq_ok_iff.1 h
      exact ⟨digits, .unicode hdigits, rfl⟩

/-- What is read as an escape spells the character that is read. -/
theorem exists_spells_of_readEscape {cs rest : List Char} {c : Char}
    (h : readEscape cs = .ok (c, rest)) :
    ∃ piece, Spells ('\\' :: piece) c ∧ cs = piece ++ rest := by
  unfold readEscape at h
  split at h
  case h_1 => cases h
  case h_7 =>
    obtain ⟨piece, hpiece, rfl⟩ := exists_spells_of_readUnicode h
    exact ⟨_, hpiece, rfl⟩
  case h_8 hn hr ht hb hf hu =>
    obtain ⟨rfl, rfl⟩ := Prod.mk.inj (Except.ok.inj h)
    refine ⟨_, .escaped ?_ hu, rfl⟩
    simp only [controlLetters, List.forall_mem_cons]
    exact ⟨Ne.symm hn, Ne.symm hr, Ne.symm ht, Ne.symm hb, Ne.symm hf, List.forall_mem_nil _⟩
  all_goals
    obtain ⟨rfl, rfl⟩ := Prod.mk.inj (Except.ok.inj h)
    exact ⟨_, .control (by decide), rfl⟩

theorem readEscape_control {letter c : Char} (h : (letter, c) ∈ controlLetters) (rest : List Char) :
    readEscape (letter :: rest) = .ok (c, rest) := by
  simp only [controlLetters, List.mem_cons, Prod.mk.injEq, List.not_mem_nil, or_false] at h
  rcases h with ⟨rfl, rfl⟩ | ⟨rfl, rfl⟩ | ⟨rfl, rfl⟩ | ⟨rfl, rfl⟩ | ⟨rfl, rfl⟩ <;> rfl

theorem readEscape_escaped {c : Char} (h : ∀ p ∈ controlLetters, p.1 ≠ c) (hu : c ≠ 'u')
    (rest : List Char) : readEscape (c :: rest) = .ok (c, rest) := by
  simp only [controlLetters, List.forall_mem_cons] at h
  obtain ⟨hn, hr, ht, hb, hf, -⟩ := h
  rw [readEscape]
  · exact Ne.symm hn
  · exact Ne.symm hr
  · exact Ne.symm ht
  · exact Ne.symm hb
  · exact Ne.symm hf
  · exact hu

/-! ### Reading a string -/

/-- A character is read from each of its spellings. -/
theorem readBody_of_spells {piece : List Char} {c : Char} (h : Spells piece c)
    (acc cs : List Char) :
    readBody acc (piece ++ cs) = readBody (c :: acc) cs := by
  cases h with
  | plain hquote hslash => exact readBody_cons hquote hslash acc cs
  | control hletter => exact readBody_escape (readEscape_control hletter cs) acc
  | escaped hother hu => exact readBody_escape (readEscape_escaped hother hu cs) acc
  | unicode hdigits =>
    have hhigh := Json.not_isHigh_of_charOf? (charOf?_toNat c)
    simp only [List.cons_append]
    apply readBody_escape
    simp only [readEscape, readUnicode, readHex_of_isHex hdigits, isHighSurrogate_eq, hhigh,
      decide_false, Bool.false_eq_true, if_false]
    exact charOrFault_eq_ok_iff.2 ⟨rfl, rfl⟩
  | pair hdigits hdigits' hhigh hlow hc =>
    simp only [List.cons_append, List.append_assoc]
    apply readBody_escape
    rw [readEscape, readUnicode_of_readHex (readHex_of_isHex hdigits _) hhigh]
    exact readLowSurrogate_eq_ok_iff.2 ⟨_, _, hdigits', hlow, hc, rfl⟩

theorem readBody_of_isSpelling {body s : List Char} (h : IsSpelling body s) (acc rest : List Char) :
    readBody acc (body ++ '"' :: rest) = .ok (acc.reverse ++ s, rest) := by
  induction h generalizing acc with
  | nil => rw [List.nil_append, readBody_quote, List.append_nil]
  | cons hpiece _ ih =>
    rw [List.append_assoc, readBody_of_spells hpiece, ih, List.reverse_cons, List.append_assoc,
      List.singleton_append]

theorem exists_isSpelling_of_readBody {acc cs s rest : List Char}
    (h : readBody acc cs = .ok (s, rest)) :
    ∃ body t, IsSpelling body t ∧ s = acc.reverse ++ t ∧ cs = body ++ '"' :: rest := by
  fun_induction readBody acc cs with
  | case1 => cases h
  | case2 =>
    obtain ⟨rfl, rfl⟩ := Prod.mk.inj (Except.ok.inj h)
    exact ⟨[], [], .nil, by simp, rfl⟩
  | case3 => cases h
  | case4 acc cs c behind hescape ih =>
    obtain ⟨piece, hpiece, rfl⟩ := exists_spells_of_readEscape hescape
    obtain ⟨body, t, hbody, rfl, rfl⟩ := ih h
    exact ⟨'\\' :: piece ++ body, c :: t, .cons hpiece hbody, by simp, by simp⟩
  | case5 acc c cs hquote hslash ih =>
    obtain ⟨body, t, hbody, rfl, rfl⟩ := ih h
    exact ⟨[c] ++ body, c :: t, .cons (.plain hquote hslash) hbody, by simp, rfl⟩

/-- **A string is read exactly if it is a spelling between two quotes.** -/
theorem readString_eq_ok_iff_isSpelling {cs : List Char} {s : String} {rest : List Char} :
    readString cs = .ok (s, rest) ↔
      ∃ body, IsSpelling body s.toList ∧ cs = '"' :: body ++ '"' :: rest := by
  rw [readString_eq_ok_iff]
  constructor
  · rintro ⟨behind, rfl, hread⟩
    obtain ⟨body, t, hbody, hs, rfl⟩ := exists_isSpelling_of_readBody hread
    obtain rfl : s.toList = t := hs
    exact ⟨body, hbody, rfl⟩
  · rintro ⟨body, hbody, rfl⟩
    exact ⟨_, rfl, readBody_of_isSpelling hbody [] rest⟩

/-! ### Passing over a string -/

theorem skipBody_of_isHex {digits : List Char} {n : Nat} (h : IsHex digits n) (cs : List Char) :
    skipBody (digits ++ cs) = skipBody cs := by
  obtain ⟨h₁, h₂, h₃, h₄⟩ := h
  exact skipBody_four h₁ h₂ h₃ h₄ cs

/-- Nothing that spells a character ends a string. -/
theorem skipBody_of_spells {piece : List Char} {c : Char} (h : Spells piece c) (cs : List Char) :
    skipBody (piece ++ cs) = skipBody cs := by
  cases h with
  | plain hquote hslash => exact skipBody_cons hquote hslash cs
  | control => rfl
  | escaped => rfl
  | unicode hdigits => exact skipBody_of_isHex hdigits cs
  | pair hdigits hdigits' =>
    rw [List.append_assoc]
    exact (skipBody_of_isHex hdigits _).trans (skipBody_of_isHex hdigits' cs)

theorem skipBody_of_isSpelling {body s : List Char} (h : IsSpelling body s) (rest : List Char) :
    skipBody (body ++ '"' :: rest) = .ok rest := by
  induction h with
  | nil => rfl
  | cons hpiece _ ih => rw [List.append_assoc, skipBody_of_spells hpiece, ih]

/-- **A string that is read is passed over to the same place.** -/
theorem skipString_of_readString {cs : List Char} {s : String} {rest : List Char}
    (h : readString cs = .ok (s, rest)) : skipString cs = .ok rest := by
  obtain ⟨body, hbody, rfl⟩ := readString_eq_ok_iff_isSpelling.1 h
  exact skipBody_of_isSpelling hbody rest

-- not the other way round: half of a surrogate pair gives no character, and is passed over
example : skipString "\"\\uD83D\"]".toList = .ok [']'] := rfl

/-! ### Written strings -/

/-- A written string is read back, whatever follows it. -/
theorem readString_writeString (s : String) (rest : List Char) :
    readString (writeString s ++ rest) = .ok (s, rest) := by
  rcases finds_readString (isString_writeString s) rest with ⟨s', hs', hread⟩ | ⟨hnone, -⟩
  · rw [Json.decode_codesOf, Option.some.injEq, String.toList_inj] at hs'
    rw [hread, hs']
  · exact absurd (Json.decode_codesOf s.toList) (hnone s)

/-- **Strings are kept, and end at one place.** A text that is escaped and put between quotes is
read back, and what follows the closing quote is left. What is read are the spellings between two
quotes, and each of them is passed over to behind the quote where reading stops. -/
theorem strings_kept_and_passed_over :
    (∀ (s : String) (rest : List Char),
      readString ('"' :: escape s ++ '"' :: rest) = .ok (s, rest)) ∧
    (∀ (cs : List Char) (s : String) (rest : List Char), readString cs = .ok (s, rest) ↔
      ∃ body, IsSpelling body s.toList ∧ cs = '"' :: body ++ '"' :: rest) ∧
    ∀ (cs : List Char) (s : String) (rest : List Char),
      readString cs = .ok (s, rest) → skipString cs = .ok rest := by
  refine ⟨?_, ?_, ?_⟩
  · intro s rest
    have hread := readString_writeString s rest
    rw [writeString, List.append_assoc, List.singleton_append] at hread
    exact hread
  · intro cs s rest
    exact readString_eq_ok_iff_isSpelling
  · intro cs s rest h
    exact skipString_of_readString h

/-- A string with all kinds of escapes, digits of both cases in them, and a bracket behind it. -/
def mixedString : List Char :=
  "\"A\\n\\q\\\"\\u00eF\\uD83d\\uDe00\"]".toList

theorem strings_kept_and_passed_over_mixedString :
    readString mixedString = .ok ("A\nq\"ï😀", [']']) ∧ skipString mixedString = .ok [']'] := by
  have hletter : IsHex ['0', '0', 'e', 'F'] 'ï'.toNat :=
    .mk (show ('0', 0) ∈ Json.hexDigits by decide) (show ('0', 0) ∈ Json.hexDigits by decide)
      (show ('e', 0xE) ∈ Json.hexDigits by decide) (show ('F', 0xF) ∈ Json.hexDigits by decide)
  have hhigh : IsHex ['D', '8', '3', 'd'] 0xD83D :=
    .mk (show ('D', 0xD) ∈ Json.hexDigits by decide) (show ('8', 8) ∈ Json.hexDigits by decide)
      (show ('3', 3) ∈ Json.hexDigits by decide) (show ('d', 0xD) ∈ Json.hexDigits by decide)
  have hlow : IsHex ['D', 'e', '0', '0'] 0xDE00 :=
    .mk (show ('D', 0xD) ∈ Json.hexDigits by decide) (show ('e', 0xE) ∈ Json.hexDigits by decide)
      (show ('0', 0) ∈ Json.hexDigits by decide) (show ('0', 0) ∈ Json.hexDigits by decide)
  have hbody := IsSpelling.cons (.plain (by decide) (by decide) : Spells ['A'] 'A') <|
    .cons (.control (by decide) : Spells ['\\', 'n'] '\n') <|
    .cons (.escaped (by decide) (by decide) : Spells ['\\', 'q'] 'q') <|
    .cons (.escaped (by decide) (by decide) : Spells ['\\', '"'] '"') <|
    .cons (.unicode hletter) <|
    .cons (.pair hhigh hlow (by decide) (by decide) rfl : Spells _ '😀') .nil
  have hread := (strings_kept_and_passed_over.2.1 mixedString "A\nq\"ï😀" [']']).2
    ⟨_, hbody, by decide⟩
  exact ⟨hread, strings_kept_and_passed_over.2.2 _ _ _ hread⟩

end Teamwork.Snapshot
