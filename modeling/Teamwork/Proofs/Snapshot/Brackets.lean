import Teamwork.Proofs.Snapshot.Lists

/-!
# Counting brackets in a snapshot

Where a record cannot be read, the reader finds its end by counting brackets. `Level` describes a
text in which the count ends where it began, whatever the count is and whatever follows, as long as
one bracket stays open. Level texts can be put behind each other and between brackets, and a text
that the JSON grammar derives is level, brackets within its strings notwithstanding.

## Main definitions

* `Snapshot.isPlain` — characters that do not matter for the count.
* `Snapshot.Level` — texts behind which as many brackets are open as in front of them.

## Main results

* `Snapshot.Level.skipBalanced_brackets` — counting from a bracket around a level text ends behind
  it.
* `Snapshot.level_of_isTree` — trees of the grammar are level.
-/

namespace Teamwork.Snapshot

open Text

/-! ### Single characters -/

theorem skipBalanced_quote {cs rest : List Char} (h : skipBody cs = .ok rest) (depth : Nat) :
    skipBalanced depth ('"' :: cs) = skipBalanced depth rest := by
  rw [skipBalanced]
  split <;> simp_all

theorem ne_quote_of_isOpening {c : Char} (h : isOpening c = true) : c ≠ '"' := by
  rintro rfl
  exact absurd h (by decide)

theorem ne_quote_of_isClosing {c : Char} (h : isClosing c = true) : c ≠ '"' := by
  rintro rfl
  exact absurd h (by decide)

theorem not_isOpening_of_isClosing {c : Char} (h : isClosing c = true) : isOpening c = false := by
  simp only [isClosing, Bool.or_eq_true, decide_eq_true_eq] at h
  rcases h with rfl | rfl <;> decide

theorem skipBalanced_opening {c : Char} (h : isOpening c = true) (depth : Nat)
    (rest : List Char) : skipBalanced depth (c :: rest) = skipBalanced (depth + 1) rest := by
  rw [skipBalanced, if_pos h]
  exact ne_quote_of_isOpening h

theorem skipBalanced_closing {c : Char} (h : isClosing c = true) (depth : Nat)
    (rest : List Char) :
    skipBalanced depth (c :: rest) =
      if depth ≤ 1 then .ok rest else skipBalanced (depth - 1) rest := by
  rw [skipBalanced, if_neg (by simp [not_isOpening_of_isClosing h]), if_pos h]
  exact ne_quote_of_isClosing h

/-- Whether the count goes on behind the character as if it were not there. -/
def isPlain (c : Char) : Bool :=
  !(c = '"' || isOpening c || isClosing c)

theorem isPlain_iff {c : Char} :
    isPlain c = true ↔ c ≠ '"' ∧ isOpening c = false ∧ isClosing c = false := by
  simp [isPlain, and_assoc]

theorem isPlain_of_isBlank {c : Char} (h : isBlank c = true) : isPlain c = true := by
  rw [isPlain, Bool.not_eq_true', ← Bool.not_eq_true]
  simp only [isOpening, isClosing, Bool.or_eq_true, decide_eq_true_eq]
  rintro ((rfl | rfl | rfl) | rfl | rfl) <;> exact absurd h (by decide)

theorem skipBalanced_plain {c : Char} (h : isPlain c = true) (depth : Nat) (rest : List Char) :
    skipBalanced depth (c :: rest) = skipBalanced depth rest := by
  obtain ⟨hq, ho, hc⟩ := isPlain_iff.1 h
  rw [skipBalanced, if_neg (by simp [ho]), if_neg (by simp [hc])]
  exact hq

/-! ### Level texts -/

/-- Behind the text as many brackets are open as in front of it, if that is at least one. -/
def Level (cs : List Char) : Prop :=
  ∀ depth rest, 1 ≤ depth → skipBalanced depth (cs ++ rest) = skipBalanced depth rest

theorem Level.append {cs cs' : List Char} (h : Level cs) (h' : Level cs') : Level (cs ++ cs') := by
  intro depth rest hd
  rw [List.append_assoc, h depth _ hd, h' depth rest hd]

theorem level_of_plain {cs : List Char} (h : cs.all isPlain = true) : Level cs := by
  intro depth rest hd
  induction cs with
  | nil => rfl
  | cons c cs ih =>
    rw [List.all_cons, Bool.and_eq_true] at h
    rw [List.cons_append, skipBalanced_plain h.1]
    exact ih h.2

theorem level_of_isString {cs : List Char} {codes : List Nat} (h : Json.IsString cs codes) :
    Level cs := by
  obtain ⟨h⟩ := h
  intro depth rest _
  simp only [List.cons_append, List.append_assoc, List.nil_append]
  exact skipBalanced_quote (skipBody_of_isBody h rest) depth

theorem Level.brackets {cs : List Char} (h : Level cs) {first last : Char}
    (hfirst : isOpening first = true) (hlast : isClosing last = true) :
    Level (first :: cs ++ [last]) := by
  intro depth rest hd
  rw [List.cons_append, List.cons_append, List.append_assoc, skipBalanced_opening hfirst,
    h _ _ (Nat.le_add_left _ _), List.singleton_append, skipBalanced_closing hlast,
    if_neg (by omega), Nat.add_sub_cancel]

/-- Counting from an opening bracket on ends behind its closing one. -/
theorem Level.skipBalanced_brackets {cs : List Char} (h : Level cs) {first last : Char}
    (hfirst : isOpening first = true) (hlast : isClosing last = true) (rest : List Char) :
    skipBalanced 0 (first :: cs ++ [last] ++ rest) = .ok rest := by
  rw [List.append_assoc, List.cons_append, skipBalanced_opening hfirst,
    h _ _ (Nat.le_add_left _ _), List.singleton_append, skipBalanced_closing hlast,
    if_pos (Nat.le_refl _)]

theorem level_of_blank {cs : List Char} (h : Blank cs) : Level cs :=
  level_of_plain (List.all_eq_true.2 fun c hc => isPlain_of_isBlank (h c hc))

theorem level_of_isGap {cs : List Char} (h : Json.IsGap cs) : Level cs :=
  level_of_blank (blank_of_isGap h)

/-! ### The grammar -/

theorem level_of_isList {α : Type} {P : List Char → α → Prop} (hP : ∀ {cs a}, P cs a → Level cs)
    {cs : List Char} {as : List α} (h : Json.IsList P cs as) : Level cs := by
  induction h with
  | empty hgap => exact level_of_isGap hgap
  | last hgap hcs hgap' =>
    exact ((level_of_isGap hgap).append (hP hcs)).append (level_of_isGap hgap')
  | @more gap cs gap' rest _ _ _ hgap hcs hgap' _ ih =>
    have hcomma : Level [','] := level_of_plain (by decide)
    have := (((level_of_isGap hgap).append (hP hcs)).append (level_of_isGap hgap')).append
      (hcomma.append ih)
    simpa using this

theorem level_of_isMember {α : Type} {P : List Char → α → Prop}
    (hP : ∀ {cs a}, P cs a → Level cs) {cs : List Char} {m : List Nat × α}
    (h : Json.IsMember P cs m) : Level cs := by
  obtain ⟨hkey, hgap, hgap', hcs⟩ := h
  have hcolon : Level [':'] := level_of_plain (by decide)
  have := (((level_of_isString hkey).append (level_of_isGap hgap)).append
    (hcolon.append (level_of_isGap hgap'))).append (hP hcs)
  simpa using this

/-- **Trees are level**, whatever their strings hold. -/
theorem level_of_isTree {cs : List Char} {t : Json.Tree} (h : Json.IsTree cs t) : Level cs := by
  refine Json.IsTree.induct (motive := fun cs _ => Level cs) ?null ?true ?false ?number ?string
    ?array ?object h
  case null => exact level_of_plain (by decide)
  case true => exact level_of_plain (by decide)
  case false => exact level_of_plain (by decide)
  case number =>
    intro cs hn
    have hplain : Json.numberChars.all isPlain = true := by decide
    refine level_of_plain (List.all_eq_true.2 ?_)
    intro c hc
    exact List.all_eq_true.1 hplain c (Json.mem_numberChars hn hc)
  case string => exact level_of_isString
  case array =>
    intro cs elements hl
    exact (level_of_isList id hl).brackets (by decide) (by decide)
  case object =>
    intro cs members hl
    exact (level_of_isList (level_of_isMember id) hl).brackets (by decide) (by decide)

end Teamwork.Snapshot
