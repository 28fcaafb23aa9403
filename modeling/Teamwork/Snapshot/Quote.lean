import Teamwork.Snapshot.Fault
import Teamwork.Text.CodePoint

/-!
# Quoted strings in a snapshot

A string stands between double quotes. Written strings escape the quote, the backslash and every
control character, and nothing else. Reading is wider: all the escapes that JSON knows are resolved,
a surrogate pair of Unicode escapes gives one character, and a backslash before any other character
gives that character.

Reading a string for its value and passing over it are two functions, because a record that cannot
be read still has to be passed over.

## Main definitions

* `Snapshot.escapeChar`, `Snapshot.writeString` — the written form.
* `Snapshot.readString` — the string at the start of a text.
* `Snapshot.skipString` — what follows the string at the start of a text.

## Main results

* `Snapshot.length_readString_lt`, `Snapshot.length_skipString_lt` — both use up text.
-/

namespace Teamwork.Snapshot

open Text

/-! ### Writing -/

/-- How a character stands in a written string. -/
def escapeChar (c : Char) : List Char :=
  match c with
  | '\\' => ['\\', '\\']
  | '"' => ['\\', '"']
  | '\n' => ['\\', 'n']
  | '\r' => ['\\', 'r']
  | '\t' => ['\\', 't']
  | c => if c < ' ' then '\\' :: 'u' :: (Nat.toDigits 16 c.toNat).leftpad 4 '0' else [c]

/-- The characters of a text as they stand in a written string. -/
def escape (s : String) : List Char :=
  s.toList.flatMap escapeChar

/-- A text as a written string, with its quotes. -/
def writeString (s : String) : List Char :=
  '"' :: escape s ++ ['"']

/-! ### Reading -/

/-- Hexadecimal digits, exactly `count` of them, as a number that starts with `value`. -/
def readHex : (count : Nat) → (value : Nat) → List Char → Except Fault (Nat × List Char)
  | 0, value, cs => .ok (value, cs)
  | _ + 1, _, [] => .error ⟨.expectedHexDigits, []⟩
  | count + 1, value, c :: rest =>
    match hexDigit? c with
    | some digit => readHex count (value * 16 + digit) rest
    | none => .error ⟨.expectedHexDigits, rest⟩

/-- Whether a code is the first half of a surrogate pair. -/
def isHighSurrogate (code : Nat) : Bool :=
  0xD800 ≤ code && code < 0xDC00

/-- Whether a code is the second half of a surrogate pair. -/
def isLowSurrogate (code : Nat) : Bool :=
  0xDC00 ≤ code && code < 0xE000

/-- The character with a code that was just read, or a complaint about the code. -/
def charOrFault (code : Nat) (rest : List Char) : Except Fault (Char × List Char) :=
  match charOf? code with
  | some c => .ok (c, rest)
  | none => .error ⟨.invalidCodePoint code, rest⟩

/-- The second half of a surrogate pair whose first half was just read, and so the whole
character. -/
def readLowSurrogate (high : Nat) : List Char → Except Fault (Char × List Char)
  | '\\' :: 'u' :: cs =>
    match readHex 4 0 cs with
    | .error fault => .error fault
    | .ok (low, rest) =>
      if isLowSurrogate low then
        charOrFault (0x10000 + (high - 0xD800) * 0x400 + (low - 0xDC00)) rest
      else
        .error ⟨.invalidLowSurrogate, rest⟩
  | '\\' :: rest => .error ⟨.unpairedHighSurrogate, rest⟩
  | rest => .error ⟨.unpairedHighSurrogate, rest⟩

/-- The character of a Unicode escape, from the digits on. -/
def readUnicode (cs : List Char) : Except Fault (Char × List Char) :=
  match readHex 4 0 cs with
  | .error fault => .error fault
  | .ok (code, rest) =>
    if isHighSurrogate code then readLowSurrogate code rest else charOrFault code rest

/-- The character of an escape, from behind the backslash on. -/
def readEscape : List Char → Except Fault (Char × List Char)
  | [] => .error ⟨.unterminatedEscape, []⟩
  | 'n' :: rest => .ok ('\n', rest)
  | 'r' :: rest => .ok ('\r', rest)
  | 't' :: rest => .ok ('\t', rest)
  | 'b' :: rest => .ok ('\x08', rest)
  | 'f' :: rest => .ok ('\x0c', rest)
  | 'u' :: rest => readUnicode rest
  | c :: rest => .ok (c, rest)

theorem length_readHex_le {count value : Nat} {cs : List Char} {n : Nat} {rest : List Char}
    (h : readHex count value cs = .ok (n, rest)) : rest.length ≤ cs.length := by
  fun_induction readHex count value cs with
  | case1 => obtain ⟨-, rfl⟩ := Prod.mk.inj (Except.ok.inj h); exact Nat.le_refl _
  | case2 => simp at h
  | case3 _ _ _ _ _ _ ih => exact Nat.le_succ_of_le (ih h)
  | case4 => simp at h

theorem charOrFault_rest {code : Nat} {cs : List Char} {c : Char} {rest : List Char}
    (h : charOrFault code cs = .ok (c, rest)) : rest = cs := by
  rw [charOrFault] at h
  split at h
  · exact ((Prod.mk.inj (Except.ok.inj h)).2).symm
  · simp at h

theorem length_readLowSurrogate_le {high : Nat} {cs : List Char} {c : Char} {rest : List Char}
    (h : readLowSurrogate high cs = .ok (c, rest)) : rest.length ≤ cs.length := by
  unfold readLowSurrogate at h
  split at h
  · split at h
    · simp at h
    · next hx =>
      have hle := length_readHex_le hx
      split at h
      · rw [charOrFault_rest h]
        simp only [List.length_cons]
        omega
      · simp at h
  · simp at h
  · simp at h

theorem length_readUnicode_le {cs : List Char} {c : Char} {rest : List Char}
    (h : readUnicode cs = .ok (c, rest)) : rest.length ≤ cs.length := by
  rw [readUnicode] at h
  split at h
  · simp at h
  · next hx =>
    have hle := length_readHex_le hx
    split at h
    · exact Nat.le_trans (length_readLowSurrogate_le h) hle
    · rw [charOrFault_rest h]
      exact hle

theorem length_readEscape_lt {cs : List Char} {c : Char} {rest : List Char}
    (h : readEscape cs = .ok (c, rest)) : rest.length < cs.length := by
  unfold readEscape at h
  split at h
  case h_1 => simp at h
  case h_7 => exact Nat.lt_succ_of_le (length_readUnicode_le h)
  all_goals
    obtain ⟨-, rfl⟩ := Prod.mk.inj (Except.ok.inj h)
    exact Nat.lt_succ_self _

/-- The rest of a string whose opening quote was read. The characters read so far are in `acc`, the
latest first. -/
def readBody (acc : List Char) : List Char → Except Fault (List Char × List Char)
  | [] => .error ⟨.unterminatedString, []⟩
  | '"' :: rest => .ok (acc.reverse, rest)
  | '\\' :: cs =>
    match _h : readEscape cs with
    | .error fault => .error fault
    | .ok (c, rest) => readBody (c :: acc) rest
  | c :: rest => readBody (c :: acc) rest
termination_by cs => cs.length
decreasing_by
  · have := length_readEscape_lt _h
    simp only [List.length_cons]
    omega
  · simp

/-- The string at the start of a text. -/
def readString (cs : List Char) : Except Fault (String × List Char) :=
  match expect '"' cs with
  | .error fault => .error fault
  | .ok rest => (readBody [] rest).map fun (s, rest) => (String.ofList s, rest)

theorem length_readBody_lt {acc cs s rest : List Char} (h : readBody acc cs = .ok (s, rest)) :
    rest.length < cs.length := by
  fun_induction readBody acc cs with
  | case1 => simp at h
  | case2 =>
    obtain ⟨-, rfl⟩ := Prod.mk.inj (Except.ok.inj h)
    exact Nat.lt_succ_self _
  | case3 => simp at h
  | case4 acc cs c r hr ih =>
    have := ih h
    have := length_readEscape_lt hr
    simp only [List.length_cons]
    omega
  | case5 acc c r _ _ ih =>
    have := ih h
    simp only [List.length_cons]
    omega

theorem length_readString_lt {cs : List Char} {s : String} {rest : List Char}
    (h : readString cs = .ok (s, rest)) : rest.length < cs.length := by
  rw [readString] at h
  split at h
  · simp at h
  · next r hr =>
    cases hb : readBody [] r with
    | error fault => simp [hb, Except.map] at h
    | ok p =>
      simp only [hb, Except.map, Except.ok.injEq, Prod.mk.injEq] at h
      have := length_readBody_lt hb
      have := congrArg List.length (expect_eq_ok_iff.1 hr)
      simp only [List.length_cons] at this
      rw [← h.2]
      omega

/-! ### Passing over -/

/-- What follows a string whose opening quote was read. The character after a backslash never ends
the string, whatever it is. -/
def skipBody : List Char → Except Fault (List Char)
  | [] => .error ⟨.unterminatedString, []⟩
  | '"' :: rest => .ok rest
  | '\\' :: [] => .error ⟨.unterminatedString, []⟩
  | '\\' :: _ :: rest => skipBody rest
  | _ :: rest => skipBody rest

/-- What follows the string at the start of a text. -/
def skipString (cs : List Char) : Except Fault (List Char) :=
  match expect '"' cs with
  | .error fault => .error fault
  | .ok rest => skipBody rest

theorem length_skipBody_lt {cs rest : List Char} (h : skipBody cs = .ok rest) :
    rest.length < cs.length := by
  fun_induction skipBody cs with
  | case1 => simp at h
  | case2 => rw [Except.ok.inj h]; exact Nat.lt_succ_self _
  | case3 => simp at h
  | case4 _ _ ih => have := ih h; simp only [List.length_cons]; omega
  | case5 _ _ _ _ _ ih => have := ih h; simp only [List.length_cons]; omega

theorem length_skipString_lt {cs rest : List Char} (h : skipString cs = .ok rest) :
    rest.length < cs.length := by
  rw [skipString] at h
  split at h
  · simp at h
  · next r hr =>
    have := length_skipBody_lt h
    have := congrArg List.length (expect_eq_ok_iff.1 hr)
    simp only [List.length_cons] at this
    omega

end Teamwork.Snapshot
