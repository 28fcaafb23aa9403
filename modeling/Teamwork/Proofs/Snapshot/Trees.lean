import Teamwork.Proofs.Snapshot.Brackets

/-!
# Passing over a tree

The reader of snapshots is no JSON parser. It passes over a value that it has no use for in one of
three ways: it looks for the end of a string, counts brackets, or runs up to the next comma, bracket
or blank. Whichever way it takes, it stops where the grammar says that the value ends. The first
character of a value decides the way, so what each kind of value starts with is said first.

## Main definitions

* `Snapshot.isScalar` — characters of values that are neither strings nor between brackets.
* `Snapshot.Heads` — what a value of some kind starts with.

## Main results

* `Snapshot.skipValue_of_isTree`, `Snapshot.skipBalanced_of_isTree` — the end of a value.
-/

namespace Teamwork.Snapshot

open Text

/-! ### The start of a tree -/

/-- Whether the character may stand in a value that is neither a string nor between brackets. -/
def isScalar (c : Char) : Bool :=
  isBare c && isPlain c

theorem isScalar_iff {c : Char} :
    isScalar c = true ↔ isBare c = true ∧ isOpening c = false ∧ c ≠ '"' := by
  rw [isScalar, Bool.and_eq_true, isPlain_iff]
  constructor
  · rintro ⟨hbare, hq, ho, -⟩
    exact ⟨hbare, ho, hq⟩
  · rintro ⟨hbare, ho, hq⟩
    refine ⟨hbare, hq, ho, ?_⟩
    simp only [isBare, Bool.not_eq_true', Bool.or_eq_false_iff] at hbare
    exact hbare.1.2

theorem isScalar_of_isNumber {cs : List Char} (h : Json.IsNumber cs) : cs.all isScalar = true := by
  have hall : Json.numberChars.all isScalar = true := by decide
  exact List.all_eq_true.2 fun c hc => List.all_eq_true.1 hall c (Json.mem_numberChars h hc)

/-- A character that a value of this kind starts with. -/
def Heads : Json.Tree → Char → Prop
  | .string _, c => c = '"'
  | .array _, c => c = '['
  | .object _, c => c = '\x7b'
  | _, c => isScalar c = true

theorem heads_of_isTree {cs : List Char} {t : Json.Tree} (h : Json.IsTree cs t) :
    ∃ c cs', cs = c :: cs' ∧ Heads t c := by
  cases h with
  | null => exact ⟨_, _, rfl, show isScalar 'n' = true by decide⟩
  | true => exact ⟨_, _, rfl, show isScalar 't' = true by decide⟩
  | false => exact ⟨_, _, rfl, show isScalar 'f' = true by decide⟩
  | number hn =>
    have hall := isScalar_of_isNumber hn
    obtain ⟨c, cs', rfl⟩ := List.exists_cons_of_ne_nil hn.ne_nil
    exact ⟨c, cs', rfl, List.all_eq_true.1 hall c List.mem_cons_self⟩
  | string hs =>
    obtain ⟨_⟩ := hs
    exact ⟨_, _, rfl, rfl⟩
  | array => exact ⟨_, _, rfl, rfl⟩
  | object => exact ⟨_, _, rfl, rfl⟩

theorem Heads.startsItem {t : Json.Tree} {c : Char} (h : Heads t c) {close : Char}
    (hclose : isClosing close = true) : isBlank c = false ∧ c ≠ close := by
  have plain : isBlank c = false ∧ isClosing c = false := by
    cases t with
    | string | array | object =>
      obtain rfl := h
      decide
    | null | boolean | number =>
      have hbare := (isScalar_iff.1 h).1
      simp only [isBare, Bool.not_eq_true', Bool.or_eq_false_iff] at hbare
      exact ⟨hbare.2, hbare.1.2⟩
  refine ⟨plain.1, ?_⟩
  rintro rfl
  exact absurd hclose (by simp [plain.2])

theorem startsItem_of_isTree {cs : List Char} {t : Json.Tree} (h : Json.IsTree cs t) {close : Char}
    (hclose : isClosing close = true) : StartsItem close cs := by
  obtain ⟨c, cs', rfl, hc⟩ := heads_of_isTree h
  exact ⟨c, cs', rfl, hc.startsItem hclose⟩

/-! ### Passing over a tree -/

theorem skipValue_bare {cs : List Char} (hne : cs ≠ [])
    (hcs : cs.all isScalar = true) {rest : List Char} (hrest : Ends rest) :
    skipValue (cs ++ rest) = .ok rest := by
  have hall : ∀ c ∈ cs, isBare c = true ∧ isOpening c = false ∧ c ≠ '"' :=
    fun c hc => isScalar_iff.1 (List.all_eq_true.1 hcs c hc)
  obtain ⟨c, cs, rfl⟩ := List.exists_cons_of_ne_nil hne
  obtain ⟨hc, ho, hq⟩ := hall c List.mem_cons_self
  simp only [List.cons_append, skipValue, if_neg hq, ho, hc, Bool.false_eq_true, if_false, if_true]
  rw [List.dropWhile_append_of_pos fun c hc => (hall c (List.mem_cons_of_mem _ hc)).1,
    hrest.dropWhile_eq]

theorem skipValue_brackets {cs : List Char} (hcs : Level cs) {first last : Char}
    (hfirst : isOpening first = true) (hlast : isClosing last = true) (rest : List Char) :
    skipValue (first :: cs ++ [last] ++ rest) = .ok rest := by
  have hskip := hcs.skipBalanced_brackets hfirst hlast rest
  simp only [List.cons_append, skipValue, if_neg (ne_quote_of_isOpening hfirst), hfirst,
    if_true] at hskip ⊢
  exact hskip

/-- Passing over a value stops where the grammar says that it ends. -/
theorem skipValue_of_isTree {cs : List Char} {t : Json.Tree} (h : Json.IsTree cs t)
    {rest : List Char} (hrest : Ends rest) : skipValue (cs ++ rest) = .ok rest := by
  cases h with
  | null => exact skipValue_bare (by decide) (by decide) hrest
  | true => exact skipValue_bare (by decide) (by decide) hrest
  | false => exact skipValue_bare (by decide) (by decide) hrest
  | number hn => exact skipValue_bare hn.ne_nil (isScalar_of_isNumber hn) hrest
  | string hs =>
    obtain ⟨hs⟩ := hs
    simp only [List.cons_append, List.append_assoc, List.nil_append, skipValue, if_true]
    exact skipBody_of_isBody hs rest
  | array hl =>
    exact skipValue_brackets (level_of_isList level_of_isTree hl) (by decide) (by decide) rest
  | object hl =>
    exact skipValue_brackets (level_of_isList (level_of_isMember level_of_isTree) hl) (by decide)
      (by decide) rest

/-- Counting brackets from the start of an object stops at its end as well. -/
theorem skipBalanced_of_isTree {cs : List Char} {members : List (List Nat × Json.Tree)}
    (h : Json.IsTree cs (.object members)) (rest : List Char) :
    skipBalanced 0 (cs ++ rest) = .ok rest := by
  cases h with
  | object hl =>
    exact (level_of_isList (level_of_isMember level_of_isTree) hl).skipBalanced_brackets
      (by decide) (by decide) rest

end Teamwork.Snapshot
