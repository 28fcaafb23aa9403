import Mathlib.Data.List.Basic
import Mathlib.Data.List.Induction
import Teamwork.Drawing.Label

/-!
# Texts between quotes

A text in double quotes goes on to the first quote that is not escaped, and a quote is escaped if an
odd number of backslashes stands right before it. Backslashes alone say nothing: what counts is how
many there are in a row, and a row may begin in one part of a text and end in another. A part that
ends with an even number of them is closed in this respect. What comes after it does not depend on
it, and so texts made of closed parts can be judged part by part. Labels are made in this way, and a
single character of a label is such a part already.

## Main definitions

* `Drawing.escapesNext` — whether a quote after a text is escaped.
* `Drawing.takeQuoted` — a text up to the first quote that is not escaped.
* `Drawing.IsQuotable` — texts that are not ended by a quote of their own and do not escape the one
  that ends them.

## Main results

* `Drawing.IsQuotable.append` — parts may be put together.
* `Drawing.isQuotable_label` — labels can stand between quotes.
* `Drawing.takeQuoted_of_isQuotable` — a text that can stand between quotes is found there.
-/

namespace Teamwork.Drawing

/-! ### Fixed parts -/

/-- What follows a fixed part of a text is found behind it. -/
theorem isPrefixOf?_append (part rest : List Char) : part.isPrefixOf? (part ++ rest) = some rest :=
  List.isPrefixOf?_eq_some_iff_append_eq.2 rfl

/-! ### Rows of backslashes -/

/-- Whether a text ends with an odd number of backslashes, so that a quote after it is escaped. -/
def escapesNext (cs : List Char) : Bool :=
  (cs.reverse.takeWhile (· = '\\')).length % 2 = 1

theorem escapesNext_concat (cs : List Char) (c : Char) :
    escapesNext (cs ++ [c]) = (c = '\\' && !escapesNext cs) := by
  rw [escapesNext, escapesNext, List.reverse_concat, List.takeWhile_cons]
  by_cases hc : c = '\\'
  · rw [if_pos (decide_eq_true hc), List.length_cons]
    rcases Nat.mod_two_eq_zero_or_one (cs.reverse.takeWhile (· = '\\')).length with h | h <;>
      simp [Nat.add_mod, h, hc]
  · simp [hc]

/-- A row of backslashes does not reach back into a text that ends with an even number of them. -/
theorem escapesNext_append {cs : List Char} (h : escapesNext cs = false) (ds : List Char) :
    escapesNext (cs ++ ds) = escapesNext ds := by
  induction ds using List.reverseRecOn with
  | nil => rw [List.append_nil, h]; rfl
  | append_singleton ds d ih =>
    rw [← List.append_assoc, escapesNext_concat, escapesNext_concat, ih]

/-! ### Texts that can stand between quotes -/

/-- What stands before and after the first quote that is not escaped, where `before` is what has
been passed already. -/
def takeQuoted (before : List Char) : List Char → Option (List Char × List Char)
  | [] => none
  | c :: rest =>
    if c = '"' ∧ escapesNext before = false then some (before, rest)
    else takeQuoted (before ++ [c]) rest

/-- The text can stand between quotes. -/
structure IsQuotable (cs : List Char) : Prop where
  /-- The quotes in it are escaped. -/
  escaped : ∀ {before after : List Char}, cs = before ++ '"' :: after → escapesNext before = true
  /-- It does not escape the quote that ends it. -/
  closed : escapesNext cs = false

theorem isQuotable_of_not_mem {cs : List Char} (hquote : '"' ∉ cs) (h : escapesNext cs = false) :
    IsQuotable cs where
  escaped := by
    rintro before after rfl
    exact absurd (by simp) hquote
  closed := h

theorem IsQuotable.append {cs ds : List Char} (hcs : IsQuotable cs) (hds : IsQuotable ds) :
    IsQuotable (cs ++ ds) where
  escaped := by
    intro before after heq
    rcases List.append_eq_append_iff.1 heq with ⟨middle, rfl, hafter⟩ | ⟨middle, hcs', hafter⟩
    · rw [escapesNext_append hcs.closed]
      exact hds.escaped hafter
    · -- The quote is the last character before the second part, or one of the first part.
      cases middle with
      | nil =>
        rw [List.append_nil] at hcs'
        rw [← hcs', ← List.append_nil cs, escapesNext_append hcs.closed]
        exact hds.escaped hafter.symm
      | cons c middle =>
        rw [List.cons_append] at hafter
        rw [← (List.cons.inj hafter).1] at hcs'
        exact hcs.escaped hcs'
  closed := by rw [escapesNext_append hcs.closed, hds.closed]

theorem IsQuotable.flatMap {α : Type} {f : α → List Char} (h : ∀ a, IsQuotable (f a))
    (as : List α) : IsQuotable (as.flatMap f) := by
  induction as with
  | nil => exact isQuotable_of_not_mem (by simp) rfl
  | cons a as ih =>
    rw [List.flatMap_cons]
    exact (h a).append ih

/-- Each character of a label brings the backslashes with it that it needs. -/
theorem isQuotable_labelChar {lineBreak : List Char} (h : IsQuotable lineBreak) (c : Char) :
    IsQuotable (labelChar lineBreak c) := by
  unfold labelChar
  split
  case h_1 => exact isQuotable_of_not_mem (by decide) (by decide)
  case h_2 =>
    refine ⟨?_, by decide⟩
    intro before after heq
    -- The one quote comes after the one backslash.
    rcases before with _ | ⟨b, _ | ⟨b', before⟩⟩
    · simp at heq
    · obtain ⟨rfl, -⟩ := List.cons.inj heq
      decide
    · simp at heq
  case h_3 => exact h
  case h_4 => exact isQuotable_of_not_mem (by simp) rfl
  case h_5 hbackslash hquote _ _ =>
    refine isQuotable_of_not_mem (by simpa using fun heq => hquote heq.symm) ?_
    have hconcat := escapesNext_concat [] c
    rw [List.nil_append] at hconcat
    rw [hconcat, decide_eq_false hbackslash, Bool.false_and]

/-- **Labels can stand between quotes**, whatever they are made from. -/
theorem isQuotable_label {lineBreak : List Char} (h : IsQuotable lineBreak) (s : String) :
    IsQuotable (label lineBreak s) :=
  IsQuotable.flatMap (isQuotable_labelChar h) s.toList

/-- **A text that can stand between quotes is found there**, whatever comes after it. -/
theorem takeQuoted_of_isQuotable {cs : List Char} (h : IsQuotable cs) (rest : List Char) :
    takeQuoted [] (cs ++ '"' :: rest) = some (cs, rest) := by
  have hpassed : ∀ before after : List Char, cs = before ++ after →
      takeQuoted before (after ++ '"' :: rest) = some (cs, rest) := by
    intro before after
    induction after generalizing before with
    | nil =>
      rintro rfl
      rw [List.append_nil] at h ⊢
      rw [List.nil_append, takeQuoted, if_pos ⟨rfl, h.closed⟩]
    | cons c after ih =>
      intro heq
      have hgo : ¬(c = '"' ∧ escapesNext before = false) := by
        rintro ⟨rfl, hopen⟩
        rw [h.escaped heq] at hopen
        cases hopen
      rw [List.cons_append, takeQuoted, if_neg hgo]
      exact ih _ (by rw [heq, List.append_assoc, List.singleton_append])
  exact hpassed [] cs rfl

end Teamwork.Drawing
