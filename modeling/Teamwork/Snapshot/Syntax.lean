import Std.Data.ExtTreeMap
import Teamwork.Snapshot.Quote

/-!
# The syntax of a snapshot

A snapshot is an object whose members of interest are arrays of records, where a record is an object
whose members of interest are strings. Everything else that may stand in such a text is passed over:
members of other kinds are dropped, and an element that is no record, or cannot be read as one, is
kept as the fault that was met in it. So a bad record costs only itself. What stands outside of
records has to be right.

Two ways to find the end of a record work together. Reading a record stops where the record is
read; if reading fails, the text is gone through again from the record's opening brace, counting
brackets only.

## Main definitions

* `Snapshot.skipBalanced`, `Snapshot.skipValue` — what follows a bracketed value, or any value.
* `Snapshot.Fields`, `Snapshot.readRecord` — a record.
* `Snapshot.Slot`, `Snapshot.readArray` — an array of records, good and bad.
* `Snapshot.Arrays`, `Snapshot.readArrays` — all arrays of a snapshot.

## Main results

* `Snapshot.length_skipBalanced_lt`, `Snapshot.length_skipValue_lt`, `Snapshot.length_readArray_lt`
  — every reader uses up text.
-/

namespace Teamwork.Snapshot

open Text

/-! ### Passing over values -/

/-- Whether a character opens a bracket. -/
def isOpening (c : Char) : Bool :=
  c = '\x7b' || c = '['

/-- Whether a character closes a bracket. -/
def isClosing (c : Char) : Bool :=
  c = '\x7d' || c = ']'

/-- What follows the bracket that closes the outermost of `depth` open ones. Brackets of both kinds
count alike, and those inside strings do not count. -/
def skipBalanced (depth : Nat) : List Char → Except Fault (List Char)
  | [] => .error ⟨.unbalanced, []⟩
  | '"' :: cs =>
    match _h : skipBody cs with
    | .error fault => .error fault
    | .ok rest => skipBalanced depth rest
  | c :: rest =>
    if isOpening c then skipBalanced (depth + 1) rest
    else if isClosing c then if depth ≤ 1 then .ok rest else skipBalanced (depth - 1) rest
    else skipBalanced depth rest
termination_by cs => cs.length
decreasing_by
  · have := length_skipBody_lt _h
    simp only [List.length_cons]
    omega
  all_goals simp

/-- Whether a bare value goes on with this character. -/
def isBare (c : Char) : Bool :=
  !(c = ',' || isClosing c || isBlank c)

/-- What follows the value at the start of a text: a string, a bracketed value, or a bare run of
characters up to a comma, a closing bracket or a blank. -/
def skipValue (cs : List Char) : Except Fault (List Char) :=
  match cs with
  | [] => .error ⟨.expectedValue none, []⟩
  | c :: rest =>
    if c = '"' then skipBody rest
    else if isOpening c then skipBalanced 0 cs
    else if isBare c then .ok (rest.dropWhile isBare)
    else .error ⟨.expectedValue (some c), cs⟩

theorem length_skipBalanced_lt {depth : Nat} {cs rest : List Char}
    (h : skipBalanced depth cs = .ok rest) : rest.length < cs.length := by
  fun_induction skipBalanced depth cs with
  | case1 => simp at h
  | case2 => simp at h
  | case3 _ _ _ hr ih =>
    have := ih h
    have := length_skipBody_lt hr
    simp only [List.length_cons]
    omega
  | case4 _ _ _ _ _ ih => have := ih h; simp only [List.length_cons]; omega
  | case5 => rw [Except.ok.inj h]; exact Nat.lt_succ_self _
  | case6 _ _ _ _ _ _ _ ih => have := ih h; simp only [List.length_cons]; omega
  | case7 _ _ _ _ _ _ ih => have := ih h; simp only [List.length_cons]; omega

theorem length_skipValue_lt {cs rest : List Char} (h : skipValue cs = .ok rest) :
    rest.length < cs.length := by
  unfold skipValue at h
  split at h
  · simp at h
  · next c r =>
    split at h
    · exact Nat.lt_succ_of_lt (length_skipBody_lt h)
    · split at h
      · exact length_skipBalanced_lt h
      · split at h
        · rw [← Except.ok.inj h]
          exact Nat.lt_succ_of_le (List.dropWhile_suffix _).length_le
        · simp at h

/-! ### Members -/

/-- A member of an object: its key, a colon, and its value as `value` reads it. -/
def readMember {α : Type} (value : List Char → Except Fault (α × List Char)) (cs : List Char) :
    Except Fault ((String × α) × List Char) :=
  match readString cs with
  | .error fault => .error fault
  | .ok (key, rest) =>
    match expect ':' (skipBlanks rest) with
    | .error fault => .error fault
    | .ok rest => (value (skipBlanks rest)).map fun (a, rest) => ((key, a), rest)

theorem length_readMember_lt {α : Type} {value : List Char → Except Fault (α × List Char)}
    (hvalue : ∀ {cs : List Char} {a : α} {rest : List Char},
      value cs = .ok (a, rest) → rest.length < cs.length)
    {cs : List Char} {p : String × α} {rest : List Char}
    (h : readMember value cs = .ok (p, rest)) : rest.length < cs.length := by
  rw [readMember] at h
  split at h
  · simp at h
  · next key r hr =>
    split at h
    · simp at h
    · next r' hr' =>
      cases hv : value (skipBlanks r') with
      | error fault => simp [hv, Except.map] at h
      | ok q =>
        simp only [hv, Except.map, Except.ok.injEq, Prod.mk.injEq] at h
        have h1 := length_readString_lt hr
        have h2 := congrArg List.length (expect_eq_ok_iff.1 hr')
        have h3 := hvalue hv
        have h4 := length_skipBlanks_le r
        have h5 := length_skipBlanks_le r'
        simp only [List.length_cons] at h2
        rw [← h.2]
        omega

/-- Members of an object, as a production. -/
def member {α : Type} (value : Production α) : Production (String × α) where
  read := readMember value.read
  shorter := length_readMember_lt value.shorter

/-! ### Records -/

/-- The string members of a record, by their keys. -/
abbrev Fields := Std.ExtTreeMap String String

/-- A string, or nothing for a value of another kind, which is passed over. -/
def readField (cs : List Char) : Except Fault (Option String × List Char) :=
  if cs.head? = some '"' then (readString cs).map fun (s, rest) => (some s, rest)
  else (skipValue cs).map fun rest => (none, rest)

/-- Values of a record's members, as a production. -/
def field : Production (Option String) where
  read := readField
  shorter {cs} {a} {rest} h := by
    rw [readField] at h
    split at h
    · cases hs : readString cs with
      | error fault => simp [hs, Except.map] at h
      | ok q =>
        simp only [hs, Except.map, Except.ok.injEq, Prod.mk.injEq] at h
        rw [← h.2]
        exact length_readString_lt hs
    · cases hs : skipValue cs with
      | error fault => simp [hs, Except.map] at h
      | ok q =>
        simp only [hs, Except.map, Except.ok.injEq, Prod.mk.injEq] at h
        rw [← h.2]
        exact length_skipValue_lt hs

/-- The values that members have, by their keys. Members without a value are dropped, and the last
of several with one key counts. -/
def collect {α : Type} (members : List (String × Option α)) : Std.ExtTreeMap String α :=
  members.foldl (fun fields (key, value) =>
    match value with
    | some a => fields.insert key a
    | none => fields) ∅

/-- The record at the start of a text. -/
def readRecord (cs : List Char) : Except Fault (Fields × List Char) :=
  match expect '\x7b' cs with
  | .error fault => .error fault
  | .ok rest =>
    ((member field).items '\x7d' [] rest).map fun (members, rest) => (collect members, rest)

theorem length_readRecord_lt {cs : List Char} {fields : Fields} {rest : List Char}
    (h : readRecord cs = .ok (fields, rest)) : rest.length < cs.length := by
  rw [readRecord] at h
  split at h
  · simp at h
  · next r hr =>
    cases hi : (member field).items '\x7d' [] r with
    | error fault => simp [hi, Except.map] at h
    | ok q =>
      simp only [hi, Except.map, Except.ok.injEq, Prod.mk.injEq] at h
      have h1 := Production.length_items_lt _ _ hi
      have h2 := congrArg List.length (expect_eq_ok_iff.1 hr)
      simp only [List.length_cons] at h2
      rw [← h.2]
      omega

/-! ### Arrays of records -/

/-- An element of an array: a record, or the fault that was met in its place. -/
abbrev Slot := Except Fault Fields

/-- The element at the start of a text. -/
def readSlot (cs : List Char) : Except Fault (Slot × List Char) :=
  if cs.head? = some '\x7b' then
    match readRecord cs with
    | .ok (fields, rest) => .ok (.ok fields, rest)
    | .error fault => (skipBalanced 0 cs).map fun rest => (.error fault, rest)
  else
    (skipValue cs).map fun rest => (.error ⟨.expectedRecord cs.head?, cs⟩, rest)

/-- Elements of an array, as a production. -/
def slot : Production Slot where
  read := readSlot
  shorter {cs} {a} {rest} h := by
    rw [readSlot] at h
    split at h
    · split at h
      · next hr =>
        obtain ⟨-, rfl⟩ := Prod.mk.inj (Except.ok.inj h)
        exact length_readRecord_lt hr
      · cases hs : skipBalanced 0 cs with
        | error fault => simp [hs, Except.map] at h
        | ok q =>
          simp only [hs, Except.map, Except.ok.injEq, Prod.mk.injEq] at h
          rw [← h.2]
          exact length_skipBalanced_lt hs
    · cases hs : skipValue cs with
      | error fault => simp [hs, Except.map] at h
      | ok q =>
        simp only [hs, Except.map, Except.ok.injEq, Prod.mk.injEq] at h
        rw [← h.2]
        exact length_skipValue_lt hs

/-- The array at the start of a text. -/
def readArray (cs : List Char) : Except Fault (List Slot × List Char) :=
  match expect '[' cs with
  | .error fault => .error fault
  | .ok rest => slot.items ']' [] rest

theorem length_readArray_lt {cs : List Char} {slots : List Slot} {rest : List Char}
    (h : readArray cs = .ok (slots, rest)) : rest.length < cs.length := by
  rw [readArray] at h
  split at h
  · simp at h
  · next r hr =>
    have h1 := Production.length_items_lt _ _ h
    have h2 := congrArg List.length (expect_eq_ok_iff.1 hr)
    simp only [List.length_cons] at h2
    omega

/-! ### Whole snapshots -/

/-- The arrays of a snapshot, by their names. -/
abbrev Arrays := Std.ExtTreeMap String (List Slot)

/-- An array, or nothing for a value of another kind, which is passed over. -/
def readArrayOrSkip (cs : List Char) : Except Fault (Option (List Slot) × List Char) :=
  if cs.head? = some '[' then (readArray cs).map fun (slots, rest) => (some slots, rest)
  else (skipValue cs).map fun rest => (none, rest)

/-- Values of a snapshot's members, as a production. -/
def arrayOrSkip : Production (Option (List Slot)) where
  read := readArrayOrSkip
  shorter {cs} {a} {rest} h := by
    rw [readArrayOrSkip] at h
    split at h
    · cases hs : readArray cs with
      | error fault => simp [hs, Except.map] at h
      | ok q =>
        simp only [hs, Except.map, Except.ok.injEq, Prod.mk.injEq] at h
        rw [← h.2]
        exact length_readArray_lt hs
    · cases hs : skipValue cs with
      | error fault => simp [hs, Except.map] at h
      | ok q =>
        simp only [hs, Except.map, Except.ok.injEq, Prod.mk.injEq] at h
        rw [← h.2]
        exact length_skipValue_lt hs

/-- The arrays of a whole snapshot. The last of several arrays with one name counts. What follows
the closing brace is not looked at. -/
def readArrays (cs : List Char) : Except Fault Arrays :=
  match expect '\x7b' (skipBlanks cs) with
  | .error fault => .error fault
  | .ok rest => ((member arrayOrSkip).items '\x7d' [] rest).map fun (members, _) => collect members

end Teamwork.Snapshot
