import Teamwork.Text.Blank
import Teamwork.Text.Digits

/-!
# Faults in the text of a snapshot

Where reading a snapshot fails, and why. The place is kept as the text that was not yet read, so no
part of the reader counts positions; the byte offset that a message names is worked out from it
when the message is written.

## Main definitions

* `Snapshot.Problem` — why reading failed, with `Problem.message`.
* `Snapshot.Fault` — a problem and its place, with `Fault.message`.
* `Snapshot.expect` — one expected character.
* `Snapshot.Production` — a way to read something that uses up text, and `Production.items`, which
  reads a list of such things between brackets.

## Main results

* `Snapshot.Production.length_items_lt` — a list of items uses up text, its closing bracket at
  least.
-/

namespace Teamwork.Snapshot

open Text

/-- Why reading failed. -/
inductive Problem where
  /-- Another character was expected than the one found, if any. -/
  | expected (mark : Char) (found : Option Char)
  /-- A value was expected. -/
  | expectedValue (found : Option Char)
  /-- A record was expected. -/
  | expectedRecord (found : Option Char)
  /-- A string does not end. -/
  | unterminatedString
  /-- The text ends after a backslash. -/
  | unterminatedEscape
  /-- A Unicode escape does not have four hexadecimal digits. -/
  | expectedHexDigits
  /-- The first half of a surrogate pair is not followed by another Unicode escape. -/
  | unpairedHighSurrogate
  /-- The first half of a surrogate pair is followed by something else than a second half. -/
  | invalidLowSurrogate
  /-- A Unicode escape gives no character. -/
  | invalidCodePoint (code : Nat)
  /-- A bracket is not closed. -/
  | unbalanced
  deriving DecidableEq, Repr

/-- How a message names what was found. -/
def describe : Option Char → String
  | some c => "`" ++ c.toString ++ "`"
  | none => "end of input"

/-- The text of a problem. -/
def Problem.message : Problem → String
  | expected mark found => "expected `" ++ mark.toString ++ "`, found " ++ describe found
  | expectedValue found => "expected value, found " ++ describe found
  | expectedRecord found => "expected record object, found " ++ describe found
  | unterminatedString => "unterminated string"
  | unterminatedEscape => "unterminated escape"
  | expectedHexDigits => "expected 4 hex digits"
  | unpairedHighSurrogate => "unpaired high surrogate"
  | invalidLowSurrogate => "invalid low surrogate"
  | invalidCodePoint code =>
    "invalid code point U+" ++
      String.ofList (((Nat.toDigits 16 code).map Char.toUpper).leftpad 4 '0')
  | unbalanced => "unbalanced brackets"

/-- A problem and where it was met. -/
structure Fault where
  /-- What is wrong. -/
  problem : Problem
  /-- The text that was not yet read. -/
  rest : List Char
  deriving DecidableEq, Repr

/-- How many bytes a text takes in UTF-8. -/
def byteLength (cs : List Char) : Nat :=
  cs.foldl (fun n c => n + c.utf8Size) 0

/-- Where in a text the fault was met, in bytes. -/
def Fault.offset (source : List Char) (fault : Fault) : Nat :=
  byteLength source - byteLength fault.rest

/-- The text of a fault met in reading `source`. -/
def Fault.message (source : List Char) (fault : Fault) : String :=
  "Syntax error at byte " ++ toString (fault.offset source) ++ ": " ++ fault.problem.message

/-! ### Single characters -/

/-- What follows the expected character. -/
def expect (mark : Char) : List Char → Except Fault (List Char)
  | [] => .error ⟨.expected mark none, []⟩
  | c :: rest => if c = mark then .ok rest else .error ⟨.expected mark (some c), c :: rest⟩

theorem expect_eq_ok_iff {mark : Char} {cs rest : List Char} :
    expect mark cs = .ok rest ↔ cs = mark :: rest := by
  cases cs with
  | nil => simp [expect]
  | cons c cs =>
    rw [expect, List.cons.injEq]
    split <;> simp_all

/-! ### Lists of items -/

/-- A way to read something that uses up at least one character. -/
structure Production (α : Type) where
  /-- What was read, and the text after it. -/
  read : List Char → Except Fault (α × List Char)
  shorter : ∀ {cs : List Char} {a : α} {rest : List Char},
    read cs = .ok (a, rest) → rest.length < cs.length

namespace Production

variable {α : Type}

/-- Items with commas between them, up to and with a closing bracket. Blanks may stand anywhere, and
a comma after the last item does no harm. The items read so far are in `acc`, the latest first. -/
def items (item : Production α) (close : Char) (acc : List α) (cs : List Char) :
    Except Fault (List α × List Char) :=
  if (skipBlanks cs).head? = some close then
    .ok (acc.reverse, (skipBlanks cs).tail)
  else
    match _h : item.read (skipBlanks cs) with
    | .error fault => .error fault
    | .ok (a, rest) =>
      if (skipBlanks rest).head? = some ',' then
        items item close (a :: acc) (skipBlanks rest).tail
      else
        match expect close (skipBlanks rest) with
        | .error fault => .error fault
        | .ok rest => .ok ((a :: acc).reverse, rest)
termination_by cs.length
decreasing_by
  have h1 := item.shorter _h
  have h2 := length_skipBlanks_le cs
  have h3 := length_skipBlanks_le rest
  simp only [List.length_tail]
  omega

theorem length_items_lt (item : Production α) (close : Char) {acc : List α} {cs : List Char}
    {as : List α} {rest : List Char} (h : item.items close acc cs = .ok (as, rest)) :
    rest.length < cs.length := by
  fun_induction items item close acc cs with
  | case1 acc cs hc =>
    obtain ⟨-, rfl⟩ := Prod.mk.inj (Except.ok.inj h)
    have hle := length_skipBlanks_le cs
    cases hs : skipBlanks cs with
    | nil => simp [hs] at hc
    | cons c r => simp only [hs, List.length_cons, List.tail_cons] at hle ⊢; omega
  | case2 => simp at h
  | case3 acc cs hc a r hr hcomma ih =>
    have h1 := item.shorter hr
    have h2 := length_skipBlanks_le r
    have h3 := length_skipBlanks_le cs
    have h4 := ih h
    simp only [List.length_tail] at h4
    omega
  | case4 => simp at h
  | case5 acc cs hc a r hr hcomma r' hx =>
    obtain ⟨-, rfl⟩ := Prod.mk.inj (Except.ok.inj h)
    have h1 := item.shorter hr
    have h2 := length_skipBlanks_le r
    have h3 := length_skipBlanks_le cs
    have h4 := congrArg List.length (expect_eq_ok_iff.1 hx)
    simp only [List.length_cons] at h4
    omega

end Production

end Teamwork.Snapshot
