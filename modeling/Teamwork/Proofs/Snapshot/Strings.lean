import Teamwork.Except
import Teamwork.Proofs.Json.Grammar
import Teamwork.Snapshot.Syntax

/-!
# JSON strings in a snapshot

What the two scanners of strings do on a string of the JSON grammar. Passing over it always ends
behind its closing quote. Reading it for its value ends at the same place if its codes stand for a
text, and then gives that text; otherwise it fails.

## Main definitions

* `Snapshot.Finds` — a reader finds the one thing it should and stops at the right place, or fails
  when there is nothing to find.

## Main results

* `Snapshot.skipBody_of_isBody` — passing over a string.
* `Snapshot.finds_readString` — reading a string.
-/

namespace Teamwork.Snapshot

open Text

/-- The reader's result is something with the property `P` and the text `rest` after it, or it is a
fault and nothing has the property. -/
def Finds {α : Type} (result : Except Fault (α × List Char)) (P : α → Prop) (rest : List Char) :
    Prop :=
  (∃ a, P a ∧ result = .ok (a, rest)) ∨ (∀ a, ¬P a) ∧ ∃ fault, result = .error fault

/-! ### Passing over a string -/

theorem skipBody_cons {c : Char} (hq : c ≠ '"') (hb : c ≠ '\\') (cs : List Char) :
    skipBody (c :: cs) = skipBody cs := by
  rw [skipBody]
  · exact hq
  · exact fun h => absurd h hb
  · exact fun _ _ h => absurd h hb

/-- The digits of an escape are passed over as ordinary characters. -/
theorem skipBody_four {c₁ c₂ c₃ c₄ : Char} {d₁ d₂ d₃ d₄ : Nat} (h₁ : (c₁, d₁) ∈ Json.hexDigits)
    (h₂ : (c₂, d₂) ∈ Json.hexDigits) (h₃ : (c₃, d₃) ∈ Json.hexDigits)
    (h₄ : (c₄, d₄) ∈ Json.hexDigits) (rest : List Char) :
    skipBody (c₁ :: c₂ :: c₃ :: c₄ :: rest) = skipBody rest := by
  have plain : ∀ p ∈ Json.hexDigits, p.1 ≠ '"' ∧ p.1 ≠ '\\' := by decide
  rw [skipBody_cons (plain _ h₁).1 (plain _ h₁).2, skipBody_cons (plain _ h₂).1 (plain _ h₂).2,
    skipBody_cons (plain _ h₃).1 (plain _ h₃).2, skipBody_cons (plain _ h₄).1 (plain _ h₄).2]

/-- Passing over a string stops behind its closing quote. -/
theorem skipBody_of_isBody {cs : List Char} {codes : List Nat} (h : Json.IsBody cs codes)
    (rest : List Char) : skipBody (cs ++ '"' :: rest) = .ok rest := by
  induction h with
  | nil => rfl
  | char _ hq hb _ ih => rw [List.cons_append, skipBody_cons hq hb, ih]
  | short _ _ ih => rw [List.cons_append, List.cons_append, skipBody, ih]
  | unicode h₁ h₂ h₃ h₄ _ ih =>
    simp only [List.cons_append]
    rw [skipBody, skipBody_four h₁ h₂ h₃ h₄, ih]

/-! ### Reading an escape -/

theorem hexDigit?_of_mem {c : Char} {d : Nat} (h : (c, d) ∈ Json.hexDigits) :
    hexDigit? c = some d := by
  have all : ∀ p ∈ Json.hexDigits, hexDigit? p.1 = some p.2 := by decide
  exact all _ h

theorem readHex_four {c₁ c₂ c₃ c₄ : Char} {d₁ d₂ d₃ d₄ : Nat} (h₁ : (c₁, d₁) ∈ Json.hexDigits)
    (h₂ : (c₂, d₂) ∈ Json.hexDigits) (h₃ : (c₃, d₃) ∈ Json.hexDigits)
    (h₄ : (c₄, d₄) ∈ Json.hexDigits) (rest : List Char) :
    readHex 4 0 (c₁ :: c₂ :: c₃ :: c₄ :: rest) =
      .ok (((d₁ * 16 + d₂) * 16 + d₃) * 16 + d₄, rest) := by
  simp [readHex, hexDigit?_of_mem h₁, hexDigit?_of_mem h₂, hexDigit?_of_mem h₃,
    hexDigit?_of_mem h₄]

theorem readEscape_short {letter c : Char} (h : (letter, c) ∈ Json.shortEscapes)
    (rest : List Char) : readEscape (letter :: rest) = .ok (c, rest) := by
  simp only [Json.shortEscapes, List.mem_cons, Prod.mk.injEq, List.not_mem_nil, or_false] at h
  rcases h with ⟨rfl, rfl⟩ | ⟨rfl, rfl⟩ | ⟨rfl, rfl⟩ | ⟨rfl, rfl⟩ | ⟨rfl, rfl⟩ | ⟨rfl, rfl⟩ |
    ⟨rfl, rfl⟩ | ⟨rfl, rfl⟩ <;> rfl

theorem isHighSurrogate_eq (code : Nat) : isHighSurrogate code = decide (Json.IsHigh code) := by
  exact (Bool.decide_and _ _).symm

theorem isLowSurrogate_eq (code : Nat) : isLowSurrogate code = decide (Json.IsLow code) := by
  exact (Bool.decide_and _ _).symm

/-! ### Reading a string -/

theorem readBody_quote (acc rest : List Char) :
    readBody acc ('"' :: rest) = .ok (acc.reverse, rest) := by
  rw [readBody]

theorem readBody_cons {c : Char} (hq : c ≠ '"') (hb : c ≠ '\\') (acc cs : List Char) :
    readBody acc (c :: cs) = readBody (c :: acc) cs := by
  rw [readBody]
  · exact hq
  · exact hb

theorem readBody_escape {cs rest : List Char} {c : Char} (h : readEscape cs = .ok (c, rest))
    (acc : List Char) : readBody acc ('\\' :: cs) = readBody (c :: acc) rest := by
  rw [readBody]
  split <;> simp_all

theorem readBody_escape_error {cs : List Char} {fault : Fault}
    (h : readEscape cs = .error fault) (acc : List Char) :
    readBody acc ('\\' :: cs) = .error fault := by
  rw [readBody]
  split <;> simp_all

/-- The code of a character is read as that character, however it is written. -/
theorem readBody_of_charOf? {cs : List Char} {code : Nat} {codes : List Nat}
    (h : Json.IsBody cs (code :: codes)) {c : Char} (hc : charOf? code = some c) :
    ∃ cs', Json.IsBody cs' codes ∧
      ∀ acc rest, readBody acc (cs ++ rest) = readBody (c :: acc) (cs' ++ rest) := by
  cases h with
  | char _ hq hb hcs =>
    obtain rfl : _ = c := Option.some.inj ((charOf?_toNat _).symm.trans hc)
    exact ⟨_, hcs, fun acc rest => readBody_cons hq hb acc _⟩
  | short he hcs =>
    obtain rfl : _ = c := Option.some.inj ((charOf?_toNat _).symm.trans hc)
    exact ⟨_, hcs, fun acc rest => readBody_escape (readEscape_short he _) acc⟩
  | unicode h₁ h₂ h₃ h₄ hcs =>
    refine ⟨_, hcs, ?_⟩
    intro acc rest
    have hhigh := Json.not_isHigh_of_charOf? hc
    simp only [List.cons_append]
    apply readBody_escape
    simp only [readEscape, readUnicode, readHex_four h₁ h₂ h₃ h₄, isHighSurrogate_eq, hhigh,
      decide_false, Bool.false_eq_true, if_false, charOrFault, hc]

/-- Half of a surrogate pair can only be written as a Unicode escape. -/
theorem eq_unicode_of_surrogate {cs : List Char} {code : Nat} {codes : List Nat}
    (h : Json.IsBody cs (code :: codes)) (hcode : charOf? code = none) :
    ∃ c₁ c₂ c₃ c₄ cs', cs = '\\' :: 'u' :: c₁ :: c₂ :: c₃ :: c₄ :: cs' ∧ Json.IsBody cs' codes ∧
      ∀ rest, readHex 4 0 (c₁ :: c₂ :: c₃ :: c₄ :: rest) = .ok (code, rest) := by
  cases h with
  | char => simp [charOf?_toNat] at hcode
  | short => simp [charOf?_toNat] at hcode
  | unicode h₁ h₂ h₃ h₄ hcs =>
    exact ⟨_, _, _, _, _, rfl, hcs, fun rest => readHex_four h₁ h₂ h₃ h₄ rest⟩

theorem readUnicode_of_readHex {high : Nat} {cs rest : List Char}
    (hread : readHex 4 0 cs = .ok (high, rest)) (hhigh : Json.IsHigh high) :
    readUnicode cs = readLowSurrogate high rest := by
  rw [readUnicode, hread]
  exact if_pos ((isHighSurrogate_eq high).trans (decide_eq_true hhigh))

theorem readLowSurrogate_of_readHex {high low : Nat} {cs rest : List Char}
    (hread : readHex 4 0 cs = .ok (low, rest)) :
    readLowSurrogate high ('\\' :: 'u' :: cs) =
      if Json.IsLow low then charOrFault (0x10000 + (high - 0xD800) * 0x400 + (low - 0xDC00)) rest
      else .error ⟨.invalidLowSurrogate, rest⟩ := by
  rw [readLowSurrogate, hread]
  simp only [isLowSurrogate_eq, decide_eq_true_eq]

/-- Two escapes that make a surrogate pair are read as one character. -/
theorem readBody_of_pair {cs : List Char} {high low : Nat} {codes : List Nat}
    (h : Json.IsBody cs (high :: low :: codes)) (hhigh : Json.IsHigh high) (hlow : Json.IsLow low)
    {c : Char} (hc : charOf? (0x10000 + (high - 0xD800) * 0x400 + (low - 0xDC00)) = some c) :
    ∃ cs', Json.IsBody cs' codes ∧
      ∀ acc rest, readBody acc (cs ++ rest) = readBody (c :: acc) (cs' ++ rest) := by
  obtain ⟨_, _, _, _, _, rfl, h, hread⟩ :=
    eq_unicode_of_surrogate h (Json.charOf?_eq_none_of_isHigh hhigh)
  obtain ⟨_, _, _, _, _, rfl, h, hread'⟩ :=
    eq_unicode_of_surrogate h (Json.charOf?_eq_none_of_isLow hlow)
  refine ⟨_, h, ?_⟩
  intro acc rest
  simp only [List.cons_append]
  apply readBody_escape
  rw [readEscape, readUnicode_of_readHex (hread _) hhigh, readLowSurrogate_of_readHex (hread' _),
    if_pos hlow, charOrFault, hc]

/-- A first half is not completed by what is no second half: the closing quote, a character, or
another escape. -/
theorem readLowSurrogate_of_isBody {cs : List Char} {codes : List Nat} (h : Json.IsBody cs codes)
    (hlow : ∀ next ∈ codes.head?, ¬Json.IsLow next) (high : Nat) (rest : List Char) :
    ∃ fault, readLowSurrogate high (cs ++ '"' :: rest) = .error fault := by
  cases h with
  | nil => exact ⟨_, rfl⟩
  | char _ _ hb _ =>
    rw [List.cons_append, readLowSurrogate]
    · exact ⟨_, rfl⟩
    · exact fun _ h => absurd (List.cons.inj h).1 hb
    · exact fun _ h => absurd (List.cons.inj h).1 hb
  | short he _ =>
    have hu : ∀ p ∈ Json.shortEscapes, p.1 ≠ 'u' := by decide
    rw [List.cons_append, List.cons_append, readLowSurrogate]
    · exact ⟨_, rfl⟩
    · exact fun _ h => absurd (List.cons.inj h).1 (hu _ he)
  | unicode h₁ h₂ h₃ h₄ _ =>
    simp only [List.cons_append]
    rw [readLowSurrogate_of_readHex (readHex_four h₁ h₂ h₃ h₄ _), if_neg (hlow _ rfl)]
    exact ⟨_, rfl⟩

/-- Half of a surrogate pair without the other half is a fault. -/
theorem readBody_of_unpaired {cs : List Char} {code : Nat} {codes : List Nat}
    (h : Json.IsBody cs (code :: codes)) (hcode : charOf? code = none)
    (hpair : ∀ next ∈ codes.head?, ¬(Json.IsHigh code ∧ Json.IsLow next)) (acc rest : List Char) :
    ∃ fault, readBody acc (cs ++ '"' :: rest) = .error fault := by
  obtain ⟨c₁, c₂, c₃, c₄, cs', rfl, h, hread⟩ := eq_unicode_of_surrogate h hcode
  have hfault : ∃ fault,
      readUnicode (c₁ :: c₂ :: c₃ :: c₄ :: (cs' ++ '"' :: rest)) = .error fault := by
    by_cases hhigh : Json.IsHigh code
    · rw [readUnicode_of_readHex (hread _) hhigh]
      exact readLowSurrogate_of_isBody h (fun next hn hl => hpair next hn ⟨hhigh, hl⟩) _ _
    · simp only [readUnicode, hread, isHighSurrogate_eq, hhigh, decide_false, Bool.false_eq_true,
        if_false, charOrFault, hcode]
      exact ⟨_, rfl⟩
  obtain ⟨fault, hfault⟩ := hfault
  exact ⟨fault, readBody_escape_error (show readEscape ('u' :: _) = _ from hfault) acc⟩

theorem finds_readBody {cs : List Char} {codes : List Nat} (h : Json.IsBody cs codes)
    (acc rest : List Char) :
    Finds (readBody acc (cs ++ '"' :: rest))
      (fun s => some s = (Json.decode codes).map (acc.reverse ++ ·)) rest := by
  match codes, h with
  | [], .nil =>
    refine .inl ⟨acc.reverse, ?_, readBody_quote acc rest⟩
    simp [Json.decode]
  | code :: codes, h =>
    have step : ∀ {cs' codes' c}, Json.IsBody cs' codes' → codes'.length ≤ codes.length →
        (∀ acc rest, readBody acc (cs ++ rest) = readBody (c :: acc) (cs' ++ rest)) →
        Json.decode (code :: codes) = (Json.decode codes').map (c :: ·) →
        Finds (readBody acc (cs ++ '"' :: rest))
          (fun s => some s = (Json.decode (code :: codes)).map (acc.reverse ++ ·)) rest := by
      intro cs' codes' c h' hlen hread hdecode
      have ih := finds_readBody h' (c :: acc) rest
      rw [hread, hdecode, Option.map_map]
      simpa [Function.comp_def] using ih
    cases hc : charOf? code with
    | some c =>
      obtain ⟨cs', h', hread⟩ := readBody_of_charOf? h hc
      exact step h' (Nat.le_refl _) hread (Json.decode_char hc codes)
    | none =>
      by_cases hpair : ∃ next ∈ codes.head?, Json.IsHigh code ∧ Json.IsLow next
      · obtain ⟨next, hnext, hhigh, hlow⟩ := hpair
        obtain ⟨codes, rfl⟩ := List.head?_eq_some_iff.1 hnext
        obtain ⟨c, hc⟩ := Json.exists_charOf?_pair hhigh hlow
        obtain ⟨cs', h', hread⟩ := readBody_of_pair h hhigh hlow hc
        exact step h' (Nat.le_succ _) hread (Json.decode_pair hhigh hlow hc codes)
      · have hpair : ∀ next ∈ codes.head?, ¬(Json.IsHigh code ∧ Json.IsLow next) :=
          fun next hnext hp => hpair ⟨next, hnext, hp⟩
        refine .inr ⟨?_, readBody_of_unpaired h hc hpair acc rest⟩
        simp [Json.decode_unpaired hc hpair]
termination_by codes.length

/-- A string is read from a quote and what is behind it. -/
theorem readString_eq_ok_iff {cs : List Char} {s : String} {rest : List Char} :
    readString cs = .ok (s, rest) ↔
      ∃ body, cs = '"' :: body ∧ readBody [] body = .ok (s.toList, rest) := by
  rw [readString]
  constructor
  · intro h
    cases hquote : expect '"' cs with
    | error fault => simp [hquote] at h
    | ok body =>
      simp only [hquote, map_eq_ok_iff, Prod.mk.injEq] at h
      obtain ⟨⟨s', rest'⟩, hbody, rfl, rfl⟩ := h
      exact ⟨body, expect_eq_ok_iff.1 hquote, by rw [hbody, String.toList_ofList]⟩
  · rintro ⟨body, rfl, hbody⟩
    simp [expect_eq_ok_iff.2, hbody, Except.map]

/-- A string is read as the text of its codes, if they have one. -/
theorem finds_readString {cs : List Char} {codes : List Nat} (h : Json.IsString cs codes)
    (rest : List Char) :
    Finds (readString (cs ++ rest)) (fun s => Json.decode codes = some s.toList) rest := by
  obtain ⟨h⟩ := h
  simp only [List.cons_append, List.append_assoc, List.nil_append, readString, expect, if_true]
  rcases finds_readBody h [] rest with ⟨s, hs, hread⟩ | ⟨hnone, fault, hread⟩
  · refine .inl ⟨String.ofList s, ?_, by rw [hread]; rfl⟩
    simpa [eq_comm] using hs
  · refine .inr ⟨fun s hs => hnone s.toList ?_, fault, by rw [hread]; rfl⟩
    simp [hs]

end Teamwork.Snapshot
