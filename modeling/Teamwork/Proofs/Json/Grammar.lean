import Teamwork.Text.CodePoint

/-!
# The grammar of JSON

Which texts are JSON, and what they say, as RFC 8259 has it. The grammar is a relation between texts
and trees and knows nothing of any reader, so a reader can be measured against it.

## What a string is

A string may name half of a surrogate pair by an escape, and nothing in the grammar forbids a half
without the other. So a string is kept as the sequence of its codes: the code of a character that
stands for itself or is escaped by a letter, and the number in a Unicode escape. `decode` gives the
text that the codes stand for, and nothing where a half is on its own.

## Lists of items

Elements between square brackets and members between braces are lists of the same kind. `IsList` is
that kind, for any notion of an item; the grammar of trees passes itself to it. A comma stands
between items only, never after the last one.

## Main definitions

* `Json.Tree` — what a text says.
* `Json.IsNumber`, `Json.IsString`, `Json.IsList`, `Json.IsMember`, `Json.IsTree` — the grammar.
* `Json.IsText` — whole texts.
* `Json.decode` — the text that a string stands for.

## Main results

* `Json.IsTree.induct` — induction on trees in the text.
* `Json.decode_codesOf` — characters are the text of their codes.
-/

namespace Teamwork.Json

/-- What a JSON text says. The members of an object stand in the order of the text, and a key may
occur more than once. -/
inductive Tree where
  /-- Nothing. -/
  | null
  /-- A truth value. -/
  | boolean (b : Bool)
  /-- A number, as written. -/
  | number (written : List Char)
  /-- A string, by its codes. -/
  | string (codes : List Nat)
  /-- Trees one after the other. -/
  | array (elements : List Tree)
  /-- Trees under keys. -/
  | object (members : List (List Nat × Tree))

/-- A run of blanks. -/
def IsGap (cs : List Char) : Prop :=
  ∀ c ∈ cs, c ∈ [' ', '\t', '\n', '\r']

instance (cs : List Char) : Decidable (IsGap cs) :=
  List.decidableBAll (· ∈ [' ', '\t', '\n', '\r']) cs

theorem isGap_nil : IsGap [] :=
  List.forall_mem_nil _

/-! ### Numbers -/

/-- Decimal digits, at least one. -/
def IsDigits (cs : List Char) : Prop :=
  cs ≠ [] ∧ ∀ c ∈ cs, c.isDigit = true

/-- The whole part of a number has no zero in front of other digits. -/
inductive IsWhole : List Char → Prop where
  | zero : IsWhole ['0']
  | positive {d : Char} {ds : List Char} :
      d.isDigit = true → d ≠ '0' → (∀ c ∈ ds, c.isDigit = true) → IsWhole (d :: ds)

/-- A fraction, if there is one. -/
inductive IsFraction : List Char → Prop where
  | absent : IsFraction []
  | digits {ds : List Char} : IsDigits ds → IsFraction ('.' :: ds)

/-- An exponent, if there is one. -/
inductive IsExponent : List Char → Prop where
  | absent : IsExponent []
  | digits {e : Char} {sign ds : List Char} :
      e ∈ ['e', 'E'] → sign ∈ [[], ['+'], ['-']] → IsDigits ds → IsExponent (e :: sign ++ ds)

/-- A number. -/
inductive IsNumber : List Char → Prop where
  | mk {sign whole fraction exponent : List Char} :
      sign ∈ [[], ['-']] → IsWhole whole → IsFraction fraction → IsExponent exponent →
      IsNumber (sign ++ whole ++ fraction ++ exponent)

/-! ### Strings -/

/-- The hexadecimal digits of both cases, with their values. -/
def hexDigits : List (Char × Nat) :=
  "0123456789abcdef".toList.zipIdx ++ "ABCDEF".toList.zipIdx 10

/-- The letters that stand for a character after a backslash, with that character. -/
def shortEscapes : List (Char × Char) :=
  [('"', '"'), ('\\', '\\'), ('/', '/'), ('b', '\x08'), ('f', '\x0c'), ('n', '\n'), ('r', '\r'),
    ('t', '\t')]

/-- What stands between the quotes of a string, with its codes. -/
inductive IsBody : List Char → List Nat → Prop where
  | nil : IsBody [] []
  | char {c : Char} {cs : List Char} {codes : List Nat} :
      ' ' ≤ c → c ≠ '"' → c ≠ '\\' → IsBody cs codes → IsBody (c :: cs) (c.toNat :: codes)
  | short {letter c : Char} {cs : List Char} {codes : List Nat} :
      (letter, c) ∈ shortEscapes → IsBody cs codes →
      IsBody ('\\' :: letter :: cs) (c.toNat :: codes)
  | unicode {c₁ c₂ c₃ c₄ : Char} {d₁ d₂ d₃ d₄ : Nat} {cs : List Char} {codes : List Nat} :
      (c₁, d₁) ∈ hexDigits → (c₂, d₂) ∈ hexDigits → (c₃, d₃) ∈ hexDigits → (c₄, d₄) ∈ hexDigits →
      IsBody cs codes →
      IsBody ('\\' :: 'u' :: c₁ :: c₂ :: c₃ :: c₄ :: cs)
        ((((d₁ * 16 + d₂) * 16 + d₃) * 16 + d₄) :: codes)

/-- A string with its quotes. -/
inductive IsString : List Char → List Nat → Prop where
  | mk {cs : List Char} {codes : List Nat} : IsBody cs codes → IsString ('"' :: cs ++ ['"']) codes

/-- Whether a code is the first half of a surrogate pair. -/
def IsHigh (code : Nat) : Prop :=
  0xD800 ≤ code ∧ code < 0xDC00

/-- Whether a code is the second half of a surrogate pair. -/
def IsLow (code : Nat) : Prop :=
  0xDC00 ≤ code ∧ code < 0xE000

instance (code : Nat) : Decidable (IsHigh code) :=
  inferInstanceAs (Decidable (0xD800 ≤ code ∧ code < 0xDC00))

instance (code : Nat) : Decidable (IsLow code) :=
  inferInstanceAs (Decidable (0xDC00 ≤ code ∧ code < 0xE000))

/-- The text that codes stand for. There is none if half of a surrogate pair is without the other
half. -/
def decode : List Nat → Option (List Char)
  | [] => some []
  | code :: codes =>
    if IsHigh code then
      match codes with
      | next :: codes =>
        if IsLow next then do
          let c ← Text.charOf? (0x10000 + (code - 0xD800) * 0x400 + (next - 0xDC00))
          let cs ← decode codes
          return c :: cs
        else
          none
      | [] => none
    else do
      let c ← Text.charOf? code
      let cs ← decode codes
      return c :: cs

/-- The codes of a text without surrogates. -/
def codesOf (cs : List Char) : List Nat :=
  cs.map Char.toNat

/-! ### Trees -/

/-- Items with commas between them and blanks around them. -/
inductive IsList {α : Type} (item : List Char → α → Prop) : List Char → List α → Prop where
  | empty {gap : List Char} : IsGap gap → IsList item gap []
  | last {gap cs gap' : List Char} {a : α} :
      IsGap gap → item cs a → IsGap gap' → IsList item (gap ++ cs ++ gap') [a]
  | more {gap cs gap' rest : List Char} {a b : α} {as : List α} :
      IsGap gap → item cs a → IsGap gap' → IsList item rest (b :: as) →
      IsList item (gap ++ cs ++ gap' ++ ',' :: rest) (a :: b :: as)

/-- A key and a value, with a colon between them and blanks around it. -/
inductive IsMember {α : Type} (value : List Char → α → Prop) :
    List Char → List Nat × α → Prop where
  | mk {key gap gap' cs : List Char} {codes : List Nat} {a : α} :
      IsString key codes → IsGap gap → IsGap gap' → value cs a →
      IsMember value (key ++ gap ++ ':' :: gap' ++ cs) (codes, a)

/-- A value of any kind, without blanks around it. -/
inductive IsTree : List Char → Tree → Prop where
  | null : IsTree "null".toList .null
  | true : IsTree "true".toList (.boolean Bool.true)
  | false : IsTree "false".toList (.boolean Bool.false)
  | number {cs : List Char} : IsNumber cs → IsTree cs (.number cs)
  | string {cs : List Char} {codes : List Nat} : IsString cs codes → IsTree cs (.string codes)
  | array {cs : List Char} {elements : List Tree} :
      IsList IsTree cs elements → IsTree ('[' :: cs ++ [']']) (.array elements)
  | object {cs : List Char} {members : List (List Nat × Tree)} :
      IsList (IsMember IsTree) cs members →
      IsTree ('\x7b' :: cs ++ ['\x7d']) (.object members)

/-- A whole text: one value with blanks around it. -/
inductive IsText : List Char → Tree → Prop where
  | mk {gap cs gap' : List Char} {t : Tree} :
      IsGap gap → IsTree cs t → IsGap gap' → IsText (gap ++ cs ++ gap') t

/-- Induction on trees in the text. What holds of the items of a list holds of the list if it holds
of arrays and objects of such items. -/
theorem IsTree.induct {motive : List Char → Tree → Prop}
    (null : motive "null".toList .null)
    (true : motive "true".toList (.boolean Bool.true))
    (false : motive "false".toList (.boolean Bool.false))
    (number : ∀ {cs}, IsNumber cs → motive cs (.number cs))
    (string : ∀ {cs codes}, IsString cs codes → motive cs (.string codes))
    (array : ∀ {cs elements}, IsList motive cs elements →
      motive ('[' :: cs ++ [']']) (.array elements))
    (object : ∀ {cs members}, IsList (IsMember motive) cs members →
      motive ('\x7b' :: cs ++ ['\x7d']) (.object members))
    {cs : List Char} {t : Tree} (h : IsTree cs t) : motive cs t :=
  IsTree.rec (motive_1 := fun cs t _ => motive cs t)
    (motive_2 := fun cs elements _ => IsList motive cs elements)
    (motive_3 := fun cs members _ => IsList (IsMember motive) cs members)
    (motive_4 := fun cs member _ => IsMember motive cs member)
    null true false (fun h => number h) (fun h => string h) (fun _ ih => array ih)
    (fun _ ih => object ih) (fun hg => .empty hg) (fun hg _ hg' ih => .last hg ih hg')
    (fun hg _ hg' _ ih ihs => .more hg ih hg' ihs) (fun hg => .empty hg)
    (fun hg _ hg' ih => .last hg ih hg') (fun hg _ hg' _ ih ihs => .more hg ih hg' ihs)
    (fun hk hg hg' _ ih => .mk hk hg hg' ih) h

theorem IsList.imp {α : Type} {P Q : List Char → α → Prop} {cs : List Char} {as : List α}
    (h : IsList P cs as) (hPQ : ∀ {cs a}, P cs a → Q cs a) : IsList Q cs as := by
  induction h with
  | empty hgap => exact .empty hgap
  | last hgap hcs hgap' => exact .last hgap (hPQ hcs) hgap'
  | more hgap hcs hgap' _ ih => exact .more hgap (hPQ hcs) hgap' ih

theorem IsMember.imp {α : Type} {P Q : List Char → α → Prop} {cs : List Char}
    {m : List Nat × α} (h : IsMember P cs m) (hPQ : ∀ {cs a}, P cs a → Q cs a) :
    IsMember Q cs m := by
  obtain ⟨hkey, hgap, hgap', hcs⟩ := h
  exact .mk hkey hgap hgap' (hPQ hcs)

/-! ### The characters of a number -/

/-- The characters that occur in numbers. -/
def numberChars : List Char :=
  "0123456789-+.eE".toList

theorem mem_numberChars_of_isDigit {c : Char} (h : c.isDigit = true) : c ∈ numberChars := by
  have all : ∀ n < 58, 48 ≤ n → Char.ofNat n ∈ numberChars := by decide
  have hc : 48 ≤ c.toNat ∧ c.toNat < 58 := by
    simp only [Char.isDigit, Bool.and_eq_true, decide_eq_true_eq] at h
    exact ⟨h.1, Nat.lt_succ_of_le h.2⟩
  simpa using all c.toNat hc.2 hc.1

theorem mem_numberChars {cs : List Char} (h : IsNumber cs) {c : Char} (hc : c ∈ cs) :
    c ∈ numberChars := by
  obtain ⟨hsign, hwhole, hfraction, hexponent⟩ := h
  have digits : ∀ {ds : List Char}, (∀ c ∈ ds, c.isDigit = true) → c ∈ ds → c ∈ numberChars :=
    fun hds hc => mem_numberChars_of_isDigit (hds c hc)
  simp only [List.mem_append] at hc
  rcases hc with ((hc | hc) | hc) | hc
  · have signs : ∀ sign ∈ [[], ['-']], sign ⊆ numberChars := by decide
    exact signs _ hsign hc
  · cases hwhole with
    | zero => exact digits (List.all_eq_true.1 (by decide)) hc
    | positive hd _ hds => exact digits (List.forall_mem_cons.2 ⟨hd, hds⟩) hc
  · cases hfraction with
    | absent => exact absurd hc List.not_mem_nil
    | digits hds =>
      rcases List.mem_cons.1 hc with rfl | hc
      · decide
      · exact digits hds.2 hc
  · cases hexponent with
    | absent => exact absurd hc List.not_mem_nil
    | digits he hsign hds =>
      have marks : ['e', 'E'] ⊆ numberChars := by decide
      have signs : ∀ sign ∈ [[], ['+'], ['-']], sign ⊆ numberChars := by decide
      simp only [List.cons_append, List.mem_cons, List.mem_append] at hc
      rcases hc with rfl | hc | hc
      · exact marks he
      · exact signs _ hsign hc
      · exact digits hds.2 hc

theorem IsNumber.ne_nil {cs : List Char} (h : IsNumber cs) : cs ≠ [] := by
  obtain ⟨-, hwhole, -, -⟩ := h
  cases hwhole <;> simp

/-! ### Texts and their codes -/

theorem charOf?_eq_none_of_isHigh {code : Nat} (h : IsHigh code) : Text.charOf? code = none := by
  rw [Text.charOf?, dif_neg]
  simp only [IsHigh] at h
  simp only [Nat.isValidChar]
  omega

theorem charOf?_eq_none_of_isLow {code : Nat} (h : IsLow code) : Text.charOf? code = none := by
  rw [Text.charOf?, dif_neg]
  simp only [IsLow] at h
  simp only [Nat.isValidChar]
  omega

theorem not_isHigh_of_charOf? {code : Nat} {c : Char} (h : Text.charOf? code = some c) :
    ¬IsHigh code := by
  intro hhigh
  simp [charOf?_eq_none_of_isHigh hhigh] at h

/-- Both halves of a surrogate pair together make a character. -/
theorem exists_charOf?_pair {high low : Nat} (hhigh : IsHigh high) (hlow : IsLow low) :
    ∃ c, Text.charOf? (0x10000 + (high - 0xD800) * 0x400 + (low - 0xDC00)) = some c := by
  refine ⟨_, dif_pos ?_⟩
  simp only [IsHigh] at hhigh
  simp only [IsLow] at hlow
  simp only [Nat.isValidChar]
  omega

theorem decode_char {code : Nat} {c : Char} (hc : Text.charOf? code = some c) (codes : List Nat) :
    decode (code :: codes) = (decode codes).map (c :: ·) := by
  rw [decode.eq_def]
  dsimp only
  rw [if_neg (not_isHigh_of_charOf? hc), hc]
  cases decode codes <;> rfl

theorem decode_pair {high low : Nat} (hhigh : IsHigh high) (hlow : IsLow low) {c : Char}
    (hc : Text.charOf? (0x10000 + (high - 0xD800) * 0x400 + (low - 0xDC00)) = some c)
    (codes : List Nat) : decode (high :: low :: codes) = (decode codes).map (c :: ·) := by
  rw [decode, if_pos hhigh]
  simp only [if_pos hlow]
  rw [hc]
  cases decode codes <;> rfl

theorem decode_unpaired {code : Nat} (hc : Text.charOf? code = none) {codes : List Nat}
    (hpair : ∀ next ∈ codes.head?, ¬(IsHigh code ∧ IsLow next)) :
    decode (code :: codes) = none := by
  rw [decode.eq_def]
  dsimp only
  split
  · next hhigh =>
    cases codes with
    | nil => rfl
    | cons next codes => exact if_neg fun hlow => hpair next rfl ⟨hhigh, hlow⟩
  · rw [hc]
    rfl

/-- Characters are the text of their codes. -/
theorem decode_codesOf (cs : List Char) : decode (codesOf cs) = some cs := by
  induction cs with
  | nil => rfl
  | cons c cs ih =>
    rw [codesOf, List.map_cons, decode_char (Text.charOf?_toNat c), ← codesOf, ih]
    rfl

example : decode [0x61, 0xD83D, 0xDE00] = some ['a', '😀'] ∧ decode [0xD83D, 0x61] = none ∧
    decode [0xDE00] = none := by decide

end Teamwork.Json
