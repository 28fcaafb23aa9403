import Teamwork.Proofs.Snapshot.Extension
import Teamwork.Proofs.Snapshot.Survivors

/-!
# A broken record costs only itself

When a record cannot be read, the reader goes back to its opening brace and goes through the text
once more, counting brackets. What it reads afterwards must be what it would have read without the
record. That is shown here for whole texts: elements that are no records may be taken out of the
arrays of a text, with their commas, and all that changes in what is loaded is the number of
elements left out.

A text is described as far as its arrays matter. Its last part is left open and may be anything that
has no more arrays to be read, such as the closing brace and what follows it, or a fault. Texts that
do not load are therefore among those described.

## Main definitions

* `Snapshot.Element`, `Snapshot.Label`, `Snapshot.Body` — the parts of a text, each with its `text`.
* `Snapshot.IsElement`, `Snapshot.Body.Fits` — what the parts of a text have to be like.
* `Snapshot.Body.pruned`, `Snapshot.Body.deletedFrom` — the text without its broken elements, and
  how many those were.

## Main results

* `Snapshot.IsElement.exists_readSlot` — one element.
* `Snapshot.exists_readArray_arrayText` — one array.
* `Snapshot.Body.agrees_pruned` — all members of a text.
* `Snapshot.load_pruned` — what is loaded.
-/

namespace Teamwork.Snapshot

open Text

/-! ### The parts of a text -/

/-- An element of an array, with the blanks around it. -/
structure Element where
  /-- The blanks in front. -/
  before : List Char
  /-- The element itself. -/
  text : List Char
  /-- The blanks behind. -/
  after : List Char
  deriving DecidableEq, Repr

/-- Whether a text is read as a record, to its end. -/
def isWhole (text : List Char) : Bool :=
  match readRecord text with
  | .ok (_, []) => true
  | _ => false

/-- What stands behind an element of an array: the elements after it, each with a comma in front,
the closing bracket, and the rest of the text. -/
def elementsBehind : List Element → List Char → List Char
  | [], rest => ']' :: rest
  | e :: es, rest => ',' :: (e.before ++ (e.text ++ (e.after ++ elementsBehind es rest)))

/-- An array with blanks behind its opening bracket, and the rest of the text. -/
def arrayText (inner : List Char) : List Element → List Char → List Char
  | [], rest => '[' :: (inner ++ ']' :: rest)
  | e :: es, rest =>
    '[' :: ((inner ++ e.before) ++ (e.text ++ (e.after ++ elementsBehind es rest)))

/-- The key of a member, with the blanks around it and around the colon. -/
structure Label where
  /-- The blanks in front. -/
  before : List Char
  /-- The key as it is written. -/
  key : List Char
  /-- The key as it is read. -/
  name : String
  /-- The blanks in front of the colon. -/
  gap : List Char
  /-- The blanks behind the colon. -/
  gap' : List Char
  deriving DecidableEq, Repr

/-- A key and a colon, and the rest of the text. -/
def Label.text (label : Label) (rest : List Char) : List Char :=
  label.before ++ (label.key ++ (label.gap ++ ':' :: (label.gap' ++ rest)))

/-- The text of an object from behind its opening brace on. -/
inductive Body where
  /-- The end of the text, with no more arrays in it. -/
  | rest (cs : List Char)
  /-- An array without a comma behind it. -/
  | last (label : Label) (inner : List Char) (elements : List Element) (behind : List Char)
  /-- An array and a comma, with more behind. -/
  | more (label : Label) (inner : List Char) (elements : List Element) (after : List Char)
      (body : Body)
  /-- Another member and a comma, with more behind. -/
  | other (label : Label) (value after : List Char) (body : Body)
  deriving DecidableEq, Repr

namespace Body

/-- The characters of a body. -/
def text : Body → List Char
  | rest cs => cs
  | last label inner elements behind => label.text (arrayText inner elements behind)
  | more label inner elements after body =>
    label.text (arrayText inner elements (after ++ ',' :: body.text))
  | other label value after body => label.text (value ++ (after ++ ',' :: body.text))

/-- The body without the elements of arrays that are no whole records. -/
def pruned : Body → Body
  | rest cs => rest cs
  | last label inner elements behind =>
    last label inner (elements.filter (isWhole ·.text)) behind
  | more label inner elements after body =>
    more label inner (elements.filter (isWhole ·.text)) after body.pruned
  | other label value after body => other label value after body.pruned

/-- How many elements each array has too many, by the keys of its members. -/
def deleted : Body → List (String × Option Nat)
  | rest _ => []
  | last label _ elements _ => [(label.name, some (elements.countP (!isWhole ·.text)))]
  | more label _ elements _ body =>
    (label.name, some (elements.countP (!isWhole ·.text))) :: body.deleted
  | other label _ _ body => (label.name, none) :: body.deleted

/-- How many elements are deleted from the array that is read: the last of the first name that has
any. -/
def deletedFrom (body : Body) (names : List String) : Nat :=
  (names.findSome? (lastValue body.deleted)).getD 0

end Body

/-- A text that starts with an object of this body. -/
def document (lead : List Char) (body : Body) : String :=
  String.ofList (lead ++ '\x7b' :: body.text)

/-! ### What the parts have to be like -/

/-- The text may stand as an element of an array, with this text behind it. It is a whole record, a
record that is broken but balanced, or one value of another kind. -/
inductive IsElement (text behind : List Char) : Prop where
  /-- A text that is read as a record. -/
  | whole : isWhole text = true → IsElement text behind
  /-- A balanced text that starts with a brace and is not read as a record where it stands. -/
  | broken : text.head? = some '\x7b' → skipBalanced 0 text = .ok [] →
      (readRecord (text ++ behind)).isOk = false → IsElement text behind
  /-- A string between quotes. -/
  | quoted : skipString text = .ok [] → IsElement text behind
  /-- A run of characters without brackets, quotes, commas and blanks. -/
  | bare : text ≠ [] → text.all isScalar = true → IsElement text behind
  /-- A balanced text that starts with a square bracket. -/
  | bracketed : text.head? = some '[' → skipBalanced 0 text = .ok [] → IsElement text behind

/-- All elements of an array may stand where they do. -/
def ElementsFit : List Element → List Char → Prop
  | [], _ => True
  | e :: es, rest => Blank e.before ∧ Blank e.after ∧
      IsElement e.text (e.after ++ elementsBehind es rest) ∧ ElementsFit es rest

/-- The key is read as the name, and there are only blanks around it. -/
structure Label.Fits (label : Label) : Prop where
  before : Blank label.before
  key : readString label.key = .ok (label.name, [])
  gap : Blank label.gap
  gap' : Blank label.gap'

/-- All parts of a body are what they are meant to be. -/
def Body.Fits : Body → Prop
  | rest cs => ∀ found behind, (member arrayOrSkip).items '\x7d' [] cs = .ok (found, behind) →
      ∀ p ∈ found, p.2 = none
  | last label inner elements behind => label.Fits ∧ Blank inner ∧ ElementsFit elements behind ∧
      (skipBlanks behind).head? ≠ some ','
  | more label inner elements after body => label.Fits ∧ Blank inner ∧
      ElementsFit elements (after ++ ',' :: body.text) ∧ Blank after ∧ body.Fits
  | other label value after body => label.Fits ∧ value.head? ≠ some '[' ∧
      skipValue value = .ok [] ∧ Blank after ∧ body.Fits

/-! ### Elements -/

theorem isWhole_iff {text : List Char} :
    isWhole text = true ↔ ∃ fields, readRecord text = .ok (fields, []) := by
  rw [isWhole]
  split
  · next fields h => simp [h]
  · next h => simpa using fun fields hread => h fields hread

theorem head?_of_readRecord {text : List Char} {p : Fields × List Char}
    (h : readRecord text = .ok p) : text.head? = some '\x7b' := by
  obtain ⟨fields, rest⟩ := p
  obtain ⟨inner, members, rfl, -⟩ := readRecord_eq_ok_iff.1 h
  rfl

theorem exists_of_skipString {text rest : List Char} (h : skipString text = .ok rest) :
    ∃ body, text = '"' :: body ∧ skipBody body = .ok rest := by
  rw [skipString] at h
  cases hquote : expect '"' text with
  | error fault => simp [hquote] at h
  | ok body => exact ⟨body, expect_eq_ok_iff.1 hquote, by simpa [hquote] using h⟩

/-- What an element stands for: a record, or else a fault. -/
def Stands (text : List Char) (slot : Slot) : Prop :=
  (∃ fields, readRecord text = .ok (fields, []) ∧ slot = .ok fields) ∨
    isWhole text = false ∧ slot.isOk = false

/-- A value of another kind stands for a fault, and the reader goes on behind it. -/
theorem exists_readSlot_of_skipValue {text behind : List Char} (hne : text ≠ [])
    (hhead : text.head? ≠ some '\x7b') (hskip : skipValue (text ++ behind) = .ok behind) :
    ∃ s, readSlot (text ++ behind) = .ok (s, behind) ∧ Stands text s := by
  have hwhole : isWhole text = false := by
    rw [Bool.eq_false_iff, Ne, isWhole_iff]
    rintro ⟨fields, hread⟩
    exact hhead (head?_of_readRecord hread)
  rw [readSlot, List.head?_append_of_ne_nil _ hne, if_neg hhead, hskip]
  exact ⟨_, rfl, .inr ⟨hwhole, rfl⟩⟩

/-- **An element stands for a record or a fault by itself**, and the reader goes on behind it. -/
theorem IsElement.exists_readSlot {text behind : List Char} (h : IsElement text behind)
    (hends : Ends behind) :
    ∃ s, readSlot (text ++ behind) = .ok (s, behind) ∧ Stands text s := by
  cases h with
  | whole hwhole =>
    obtain ⟨fields, hread⟩ := isWhole_iff.1 hwhole
    have hhead := head?_of_readRecord hread
    rw [readSlot, List.head?_append_of_ne_nil _ (ne_nil_of_head? hhead), if_pos hhead,
      readRecord_append hread]
    exact ⟨_, rfl, .inl ⟨fields, hread, rfl⟩⟩
  | broken hhead hskip hread =>
    have hwhole : isWhole text = false := by
      rw [Bool.eq_false_iff, Ne, isWhole_iff]
      rintro ⟨fields, hok⟩
      rw [readRecord_append hok] at hread
      cases hread
    rw [readSlot, List.head?_append_of_ne_nil _ (ne_nil_of_head? hhead), if_pos hhead,
      skipBalanced_append hskip]
    cases hr : readRecord (text ++ behind) with
    | ok p =>
      rw [hr] at hread
      cases hread
    | error fault => exact ⟨.error fault, rfl, .inr ⟨hwhole, rfl⟩⟩
  | quoted hskip =>
    obtain ⟨body, rfl, hbody⟩ := exists_of_skipString hskip
    refine exists_readSlot_of_skipValue (List.cons_ne_nil _ _) (by simp) ?_
    exact skipBody_append hbody behind
  | bare hne hall =>
    obtain ⟨c, cs, rfl⟩ := List.exists_cons_of_ne_nil hne
    have hopen := (isScalar_iff.1 (List.all_eq_true.1 hall c List.mem_cons_self)).2.1
    refine exists_readSlot_of_skipValue hne ?_ (skipValue_bare hne hall hends)
    rintro ⟨⟩
    exact absurd hopen (by decide)
  | bracketed hhead hskip =>
    obtain ⟨cs, rfl⟩ := List.head?_eq_some_iff.1 hhead
    refine exists_readSlot_of_skipValue (List.cons_ne_nil _ _) (by simp) ?_
    exact skipBalanced_append hskip behind

/-- An element starts with a character that is neither blank nor a closing bracket. -/
theorem IsElement.startsItem {text behind : List Char} (h : IsElement text behind) :
    StartsItem ']' text := by
  have hstarts : ∀ {c : Char}, text.head? = some c → isBlank c = false → c ≠ ']' →
      StartsItem ']' text := by
    intro c hhead hc hclose
    obtain ⟨cs, rfl⟩ := List.head?_eq_some_iff.1 hhead
    exact ⟨c, cs, rfl, hc, hclose⟩
  cases h with
  | whole hwhole =>
    obtain ⟨fields, hread⟩ := isWhole_iff.1 hwhole
    exact hstarts (head?_of_readRecord hread) (by decide) (by decide)
  | broken hhead | bracketed hhead => exact hstarts hhead (by decide) (by decide)
  | quoted hskip =>
    obtain ⟨body, rfl, -⟩ := exists_of_skipString hskip
    exact hstarts rfl (by decide) (by decide)
  | bare hne hall =>
    obtain ⟨c, cs, rfl⟩ := List.exists_cons_of_ne_nil hne
    have hscalar := List.all_eq_true.1 hall c List.mem_cons_self
    have hheads : Heads .null c := hscalar
    exact ⟨c, cs, rfl, hheads.startsItem (by decide)⟩

/-! ### Arrays -/

theorem ends_elementsBehind (es : List Element) (rest : List Char) :
    Ends (elementsBehind es rest) := by
  cases es with
  | nil => exact ends_cons (by decide) _
  | cons e es => exact ends_cons (by decide) _

/-- The loop over an array finds one slot for each element. -/
theorem exists_items_elements {rest : List Char} {e : Element} {es : List Element}
    (h : ElementsFit (e :: es) rest) {gap : List Char} (hgap : Blank gap) (acc : List Slot) :
    ∃ slots, List.Forall₂ (fun e s => Stands e.text s) (e :: es) slots ∧
      slot.items ']' acc (gap ++ (e.text ++ (e.after ++ elementsBehind es rest))) =
        .ok (acc.reverse ++ slots, rest) := by
  induction es generalizing e gap acc with
  | nil =>
    obtain ⟨-, hafter, helement, -⟩ := h
    obtain ⟨s, hread, hs⟩ :=
      helement.exists_readSlot (ends_append hafter (ends_elementsBehind [] rest))
    refine ⟨[s], .cons hs .nil, ?_⟩
    rw [← List.reverse_cons]
    exact slot.items_last (by decide) (by decide) hgap hafter helement.startsItem hread acc
  | cons e' es ih =>
    obtain ⟨-, hafter, helement, hrest⟩ := h
    obtain ⟨s, hread, hs⟩ :=
      helement.exists_readSlot (ends_append hafter (ends_elementsBehind (e' :: es) rest))
    obtain ⟨slots, hslots, hitems⟩ := ih hrest hrest.1 (s :: acc)
    refine ⟨s :: slots, .cons hs hslots, ?_⟩
    rw [elementsBehind, slot.items_more hgap hafter helement.startsItem hread, hitems,
      List.reverse_cons, List.append_assoc, List.singleton_append]

/-- **An array is read with one slot for each element.** -/
theorem exists_readArray_arrayText {inner rest : List Char} {es : List Element}
    (hinner : Blank inner) (h : ElementsFit es rest) :
    ∃ slots, List.Forall₂ (fun e s => Stands e.text s) es slots ∧
      readArray (arrayText inner es rest) = .ok (slots, rest) := by
  cases es with
  | nil =>
    refine ⟨[], .nil, ?_⟩
    rw [arrayText, readArray, expect_eq_ok_iff.2 rfl]
    exact slot.items_close (by decide) hinner [] rest
  | cons e es =>
    obtain ⟨slots, hslots, hitems⟩ := exists_items_elements h (hinner.append h.1) []
    refine ⟨slots, hslots, ?_⟩
    rw [arrayText, readArray, expect_eq_ok_iff.2 rfl]
    exact hitems

/-- Whole records may stand anywhere. -/
theorem ElementsFit.filter {es : List Element} {rest : List Char} (h : ElementsFit es rest)
    (rest' : List Char) : ElementsFit (es.filter (isWhole ·.text)) rest' := by
  induction es with
  | nil => trivial
  | cons e es ih =>
    obtain ⟨hbefore, hafter, -, hrest⟩ := h
    rw [List.filter_cons]
    split
    · next hwhole => exact ⟨hbefore, hafter, .whole hwhole, ih hrest⟩
    · exact ih hrest

theorem Stands.isOk_eq {text : List Char} {s : Slot} (h : Stands text s) :
    s.isOk = isWhole text := by
  rcases h with ⟨fields, hread, rfl⟩ | ⟨hwhole, hs⟩
  · exact (isWhole_iff.2 ⟨fields, hread⟩).symm
  · rw [hwhole, hs]

/-- Without the broken elements of an array the survivors are left. -/
theorem eq_survivors {es : List Element} {slots slots' : List Slot}
    (h : List.Forall₂ (fun e s => Stands e.text s) es slots)
    (h' : List.Forall₂ (fun e s => Stands e.text s) (es.filter (isWhole ·.text)) slots') :
    slots' = survivors slots := by
  induction h generalizing slots' with
  | nil =>
    cases h'
    rfl
  | @cons e s es slots hs _ ih =>
    rw [survivors, List.filter_cons, hs.isOk_eq]
    rw [List.filter_cons] at h'
    split at h'
    · next hwhole =>
      rw [if_pos hwhole]
      cases h' with
      | @cons _ s' _ slots' hs' hslots' =>
        have hsame : s' = s := by
          obtain ⟨fields, hread⟩ := isWhole_iff.1 hwhole
          have honly : ∀ {s : Slot}, Stands e.text s → s = .ok fields := by
            intro s hs
            rcases hs with ⟨fields', hread', rfl⟩ | ⟨hnot, -⟩
            · rw [hread] at hread'
              rw [(Prod.mk.inj (Except.ok.inj hread')).1]
            · rw [hwhole] at hnot
              cases hnot
          rw [honly hs', honly hs]
        rw [hsame, ih hslots', survivors]
    · next hwhole =>
      rw [if_neg hwhole]
      exact ih h'

theorem countFaults_eq {es : List Element} {slots : List Slot}
    (h : List.Forall₂ (fun e s => Stands e.text s) es slots) :
    countFaults slots = es.countP (!isWhole ·.text) := by
  induction h with
  | nil => rfl
  | cons hs _ ih =>
    rw [countFaults, List.countP_cons, List.countP_cons, ← ih, hs.isOk_eq, countFaults]

/-! ### Members -/

/-- A turn of the loop over members reads a key, a colon and a value, and looks behind it. -/
theorem items_label {α : Type} {value : Production α} {label : Label} (h : label.Fits)
    {cs rest : List Char} {a : α} (hread : value.read (skipBlanks cs) = .ok (a, rest))
    (acc : List (String × α)) :
    (member value).items '\x7d' acc (label.text cs) =
      if (skipBlanks rest).head? = some ',' then
        (member value).items '\x7d' ((label.name, a) :: acc) (skipBlanks rest).tail
      else
        (expect '\x7d' (skipBlanks rest)).map fun rest =>
          (((label.name, a) :: acc).reverse, rest) := by
  have hstart : StartsItem '\x7d' label.key := by
    obtain ⟨body, hkey, -⟩ := readString_eq_ok_iff.1 h.key
    exact ⟨'"', body, hkey, by decide, by decide⟩
  have hskip := hstart.skipBlanks_append h.before (label.gap ++ ':' :: (label.gap' ++ cs))
  have hmember : (member value).read (label.key ++ (label.gap ++ ':' :: (label.gap' ++ cs))) =
      .ok ((label.name, a), rest) := by
    refine readMember_eq_ok_iff.2 ⟨_, label.gap' ++ cs, readString_append h.key _, ?_, ?_⟩
    · rw [List.nil_append, h.gap.skipBlanks_append_cons (by decide)]
    · rw [skipBlanks_append h.gap']
      exact hread
  rw [Label.text, Production.items_turn _ (by rw [hskip]; exact hstart.head?_ne _), hskip, hmember]

/-- The loop over members goes on behind a value and a comma. -/
theorem items_label_more {α : Type} {value : Production α} {label : Label} (h : label.Fits)
    {cs after rest : List Char} (hafter : Blank after) {a : α}
    (hread : value.read (skipBlanks cs) = .ok (a, after ++ ',' :: rest))
    (acc : List (String × α)) :
    (member value).items '\x7d' acc (label.text cs) =
      (member value).items '\x7d' ((label.name, a) :: acc) rest := by
  have hskip := hafter.skipBlanks_append_cons (show isBlank ',' = false by decide) rest
  rw [items_label h hread, hskip, if_pos List.head?_cons, List.tail_cons]

theorem exists_read_arrayText {inner rest : List Char} {es : List Element} (hinner : Blank inner)
    (h : ElementsFit es rest) : ∃ slots, List.Forall₂ (fun e s => Stands e.text s) es slots ∧
      arrayOrSkip.read (skipBlanks (arrayText inner es rest)) = .ok (some slots, rest) := by
  obtain ⟨slots, hslots, hread⟩ := exists_readArray_arrayText hinner h
  obtain ⟨cs, hcs⟩ : ∃ cs, arrayText inner es rest = '[' :: cs := by
    cases es <;> exact ⟨_, rfl⟩
  refine ⟨slots, hslots, ?_⟩
  rw [hcs] at hread ⊢
  rw [skipBlanks_cons_of_not (by decide)]
  change readArrayOrSkip ('[' :: cs) = .ok (some slots, rest)
  rw [readArrayOrSkip, if_pos List.head?_cons, hread]
  rfl

theorem not_isBlank_of_skipValue {c : Char} {cs rest : List Char}
    (h : skipValue (c :: cs) = .ok rest) : isBlank c = false := by
  simp only [skipValue] at h
  split at h
  · next hquote =>
    rw [hquote]
    decide
  · split at h
    · next hopen =>
      simp only [isOpening, Bool.or_eq_true, decide_eq_true_eq] at hopen
      rcases hopen with rfl | rfl <;> decide
    · split at h
      · next hbare =>
        simp only [isBare, Bool.not_eq_true', Bool.or_eq_false_iff] at hbare
        exact hbare.2
      · simp at h

/-- A value that is no array is passed over. -/
theorem read_other {value rest : List Char} (hhead : value.head? ≠ some '[')
    (hskip : skipValue value = .ok []) (hrest : Ends rest) :
    arrayOrSkip.read (skipBlanks (value ++ rest)) = .ok (none, rest) := by
  have happend := skipValue_append hskip (.inr hrest)
  cases value with
  | nil => simp [skipValue] at hskip
  | cons c cs =>
    rw [List.cons_append] at happend ⊢
    rw [List.head?_cons] at hhead
    rw [skipBlanks_cons_of_not (not_isBlank_of_skipValue hskip)]
    change readArrayOrSkip (c :: (cs ++ rest)) = .ok (none, rest)
    rw [readArrayOrSkip, List.head?_cons, if_neg hhead, happend]
    rfl

/-! ### Whole texts -/

/-- Members as they are found in a text, and in the text without broken elements. -/
abbrev Members := List (String × Option (List Slot))

/-- The members without the faults in their arrays. -/
def Members.survivors (members : Members) : Members :=
  members.map fun p => (p.1, p.2.map Snapshot.survivors)

/-- Two readings of the members of a text go the same way: both fail, or both find members, the
first these and the second their survivors, and after them the same others without arrays. -/
def Agree (result result' : Except Fault (Members × List Char)) (before before' found : Members) :
    Prop :=
  (∃ fault fault', result = .error fault ∧ result' = .error fault') ∨
    ∃ others behind, (∀ p ∈ others, p.2 = none) ∧
      result = .ok (before ++ (found ++ others), behind) ∧
      result' = .ok (before' ++ (found.survivors ++ others), behind)

theorem agree_cons {acc acc' found : Members} {p : String × Option (List Slot)}
    {result result' : Except Fault (Members × List Char)}
    (h : Agree result result' (p :: acc).reverse
      ((p.1, p.2.map survivors) :: acc').reverse found) :
    Agree result result' acc.reverse acc'.reverse (p :: found) := by
  rcases h with h | ⟨others, behind, hothers, h, h'⟩
  · exact .inl h
  · refine .inr ⟨others, behind, hothers, ?_, ?_⟩
    · simpa using h
    · simpa [Members.survivors] using h'

/-- **The members of a text are found in the same way without broken elements.** -/
theorem Body.agrees_pruned (body : Body) (h : body.Fits) :
    ∃ found : Members, body.deleted = (found.map fun p => (p.1, p.2.map countFaults)) ∧
      ∀ acc acc', Agree ((member arrayOrSkip).items '\x7d' acc body.text)
        ((member arrayOrSkip).items '\x7d' acc' body.pruned.text) acc.reverse acc'.reverse
        found := by
  induction body with
  | rest cs =>
    refine ⟨[], rfl, ?_⟩
    intro acc acc'
    have hitems := (member arrayOrSkip).items_acc '\x7d' acc [] cs
    have hitems' := (member arrayOrSkip).items_acc '\x7d' acc' [] cs
    rw [List.nil_append] at hitems hitems'
    rw [Body.pruned, Body.text, hitems, hitems']
    cases hread : (member arrayOrSkip).items '\x7d' [] cs with
    | error fault => exact .inl ⟨fault, fault, rfl, rfl⟩
    | ok p => exact .inr ⟨p.1, p.2, h p.1 p.2 hread, rfl, rfl⟩
  | last label inner es behind =>
    obtain ⟨hlabel, hinner, hes, hcomma⟩ := h
    obtain ⟨slots, hslots, hread⟩ := exists_read_arrayText hinner hes
    obtain ⟨slots', hslots', hread'⟩ := exists_read_arrayText hinner (hes.filter behind)
    obtain rfl := eq_survivors hslots hslots'
    refine ⟨[(label.name, some slots)], ?_, ?_⟩
    · rw [Body.deleted, ← countFaults_eq hslots]
      rfl
    · intro acc acc'
      rw [Body.pruned, Body.text, Body.text, items_label hlabel hread, items_label hlabel hread',
        if_neg hcomma, if_neg hcomma]
      refine agree_cons ?_
      cases hclose : expect '\x7d' (skipBlanks behind) with
      | error fault => exact .inl ⟨fault, fault, rfl, rfl⟩
      | ok rest =>
        refine .inr ⟨[], rest, by simp, ?_, ?_⟩
        · simp [Except.map]
        · simp [Except.map, Members.survivors]
  | more label inner es after body ih =>
    obtain ⟨hlabel, hinner, hes, hafter, hbody⟩ := h
    obtain ⟨slots, hslots, hread⟩ := exists_read_arrayText hinner hes
    obtain ⟨slots', hslots', hread'⟩ :=
      exists_read_arrayText hinner (hes.filter (after ++ ',' :: body.pruned.text))
    obtain rfl := eq_survivors hslots hslots'
    obtain ⟨found, hdeleted, hagree⟩ := ih hbody
    refine ⟨(label.name, some slots) :: found, ?_, ?_⟩
    · rw [Body.deleted, ← countFaults_eq hslots, hdeleted]
      rfl
    · intro acc acc'
      rw [Body.pruned, Body.text, Body.text, items_label_more hlabel hafter hread,
        items_label_more hlabel hafter hread']
      exact agree_cons (hagree _ _)
  | other label value after body ih =>
    obtain ⟨hlabel, hhead, hskip, hafter, hbody⟩ := h
    obtain ⟨found, hdeleted, hagree⟩ := ih hbody
    have hread : ∀ rest, arrayOrSkip.read (skipBlanks (value ++ (after ++ ',' :: rest))) =
        .ok (none, after ++ ',' :: rest) :=
      fun rest => read_other hhead hskip (ends_append hafter (ends_cons (by decide) rest))
    refine ⟨(label.name, none) :: found, ?_, ?_⟩
    · rw [Body.deleted, hdeleted]
      rfl
    · intro acc acc'
      rw [Body.pruned, Body.text, Body.text, items_label_more hlabel hafter (hread _),
        items_label_more hlabel hafter (hread _)]
      exact agree_cons (hagree _ _)

/-- Under each name there is an array with its survivors in the text without broken elements, if
there is one in the text. -/
theorem readArrays_document {lead : List Char} (hlead : Blank lead) {body : Body}
    (h : body.Fits) :
    (∃ fault fault', readArrays (document lead body).toList = .error fault ∧
      readArrays (document lead body.pruned).toList = .error fault') ∨
    ∃ arrays arrays', readArrays (document lead body).toList = .ok arrays ∧
      readArrays (document lead body.pruned).toList = .ok arrays' ∧ ∀ name,
        arrays'[name]? = arrays[name]?.map survivors ∧
          lastValue body.deleted name = arrays[name]?.map countFaults := by
  have hread : ∀ body : Body, readArrays (document lead body).toList =
      ((member arrayOrSkip).items '\x7d' [] body.text).map fun p => collect p.1 := by
    intro body
    rw [document, String.toList_ofList, readArrays, hlead.skipBlanks_append_cons (by decide),
      expect_eq_ok_iff.2 rfl]
  obtain ⟨found, hdeleted, hagree⟩ := body.agrees_pruned h
  rw [hread, hread]
  rcases hagree [] [] with ⟨fault, fault', herror, herror'⟩ | ⟨others, behind, hothers, hok, hok'⟩
  · rw [herror, herror']
    exact .inl ⟨fault, fault', rfl, rfl⟩
  · rw [hok, hok']
    refine .inr ⟨_, _, rfl, rfl, ?_⟩
    intro name
    rw [getElem?_collect, getElem?_collect, hdeleted, List.reverse_nil, List.nil_append,
      List.nil_append, lastValue_append_none _ hothers, lastValue_append_none _ hothers,
      Members.survivors, lastValue_map, lastValue_map]
    exact ⟨rfl, rfl⟩

theorem findSome?_pair {α β : Type} (f : α → Option β) (a b : α) :
    [a, b].findSome? f = (f a).or (f b) := by
  cases h : f a <;> simp [h]

/-- The arrays that are loaded are the survivors of those of the whole text. -/
theorem hasArrays_pruned {lead : List Char} (hlead : Blank lead) {body : Body} (h : body.Fits)
    {employees identities interactions : List Slot}
    (harrays : HasArrays (document lead body) employees identities interactions) :
    HasArrays (document lead body.pruned) (survivors employees) (survivors identities)
        (survivors interactions) ∧
      body.deletedFrom [Names.employees] = countFaults employees ∧
      body.deletedFrom [Names.identities, Names.oldIdentities] = countFaults identities ∧
      body.deletedFrom [Names.interactions] = countFaults interactions := by
  obtain ⟨arrays, hread, he, hi, ht⟩ := harrays
  rcases readArrays_document hlead h with
    ⟨fault, fault', herror, -⟩ | ⟨found, found', hfound, hfound', hname⟩
  · rw [hread] at herror
    cases herror
  · obtain rfl : arrays = found := Except.ok.inj (hread.symm.trans hfound)
    have hsurvivors := fun name => (hname name).1
    have hdeleted := fun name => (hname name).2
    refine ⟨⟨found', hfound', ?_, ?_, ?_⟩, ?_, ?_, ?_⟩
    · rw [hsurvivors, he, Option.map_some]
    · rw [hsurvivors, hsurvivors, ← Option.map_or, hi, Option.map_some]
    · rw [hsurvivors, ht, Option.map_some]
    · rw [Body.deletedFrom, List.findSome?_singleton, hdeleted, he]
      rfl
    · rw [Body.deletedFrom, findSome?_pair, hdeleted, hdeleted, ← Option.map_or, hi]
      rfl
    · rw [Body.deletedFrom, List.findSome?_singleton, hdeleted, ht]
      rfl

/-- A text has the arrays that are loaded if it has them without its broken elements. -/
theorem exists_hasArrays_of_pruned {lead : List Char} (hlead : Blank lead) {body : Body}
    (h : body.Fits) {employees' identities' interactions' : List Slot}
    (harrays : HasArrays (document lead body.pruned) employees' identities' interactions') :
    ∃ employees identities interactions,
      HasArrays (document lead body) employees identities interactions := by
  obtain ⟨arrays', hread', he', hi', ht'⟩ := harrays
  rcases readArrays_document hlead h with
    ⟨fault, fault', -, herror'⟩ | ⟨found, found', hfound, hfound', hname⟩
  · rw [hread'] at herror'
    cases herror'
  · obtain rfl : arrays' = found' := Except.ok.inj (hread'.symm.trans hfound')
    have hsurvivors := fun name => (hname name).1
    rw [hsurvivors] at he' ht'
    rw [hsurvivors, hsurvivors, ← Option.map_or] at hi'
    obtain ⟨employees, he, -⟩ := Option.map_eq_some_iff.1 he'
    obtain ⟨identities, hi, -⟩ := Option.map_eq_some_iff.1 hi'
    obtain ⟨interactions, ht, -⟩ := Option.map_eq_some_iff.1 ht'
    exact ⟨employees, identities, interactions, found, hfound, he, hi, ht⟩

/-- **A broken record costs only itself.** A text loads if and only if it loads without the elements
of its arrays that are no whole records. Both ways the graph is the same and the same number of
elements is entered, and of each array as many more are left out as were deleted from it. -/
theorem load_pruned {lead : List Char} (hlead : Blank lead) {body : Body} (h : body.Fits) :
    ((∃ loaded, load (document lead body) = .ok loaded) ↔
      ∃ loaded', load (document lead body.pruned) = .ok loaded') ∧
    ∀ loaded loaded', load (document lead body) = .ok loaded →
      load (document lead body.pruned) = .ok loaded' →
      loaded.Exceeds loaded' (body.deletedFrom [Names.employees])
        (body.deletedFrom [Names.identities, Names.oldIdentities])
        (body.deletedFrom [Names.interactions]) := by
  refine ⟨⟨?_, ?_⟩, ?_⟩
  · rintro ⟨_, hload⟩
    obtain ⟨_, _, _, harrays, -⟩ := load_eq_ok_iff.1 hload
    obtain ⟨harrays', -⟩ := hasArrays_pruned hlead h harrays
    exact ⟨_, load_eq_ok_iff.2 ⟨_, _, _, harrays', rfl⟩⟩
  · rintro ⟨_, hload'⟩
    obtain ⟨_, _, _, harrays', -⟩ := load_eq_ok_iff.1 hload'
    obtain ⟨_, _, _, harrays⟩ := exists_hasArrays_of_pruned hlead h harrays'
    exact ⟨_, load_eq_ok_iff.2 ⟨_, _, _, harrays, rfl⟩⟩
  · intro loaded loaded' hload hload'
    obtain ⟨employees, identities, interactions, harrays, rfl⟩ := load_eq_ok_iff.1 hload
    obtain ⟨harrays', he, hi, ht⟩ := hasArrays_pruned hlead h harrays
    obtain rfl : enterArrays (survivors employees) (survivors identities)
        (survivors interactions) = loaded' :=
      Except.ok.inj ((load_eq_ok_iff.2 ⟨_, _, _, harrays', rfl⟩).symm.trans hload')
    rw [he, hi, ht]
    exact enterArrays_survivors employees identities interactions

/-- A key between quotes, with one blank behind the colon. -/
def plainLabel (name : String) : Label :=
  ⟨[], ('"' :: name.toList) ++ ['"'], name, [], [' ']⟩

/-- An element with one blank in front. -/
def plainElement (text : String) : Element :=
  ⟨[' '], text.toList, []⟩

/-- The body of a snapshot with one whole record and one element of each other kind. The record that
is broken has a closing brace between quotes. -/
def spoiltBody : Body :=
  .other (plainLabel "version") ['1'] [] <|
  .more (plainLabel Names.employees) []
    [plainElement "\x7b\"id\" 7, \"\x7d\"\x7d", plainElement "\x7b\"id\": \"a\"\x7d",
      plainElement "null"] [] <|
  .more (plainLabel Names.oldIdentities) [] [plainElement "[\x7b, ]\x7d"] [] <|
  .last (plainLabel Names.interactions) [' '] [plainElement "\"a, b\""] ['\x7d']

theorem blank_space : Blank [' '] := by
  intro c hc
  rw [List.mem_singleton.1 hc]
  decide

theorem fits_spoiltBody : spoiltBody.Fits := by
  have hlabel : ∀ {name : String}, readString ('"' :: name.toList ++ ['"']) = .ok (name, []) →
      (plainLabel name).Fits :=
    fun hread => ⟨Blank.nil, hread, Blank.nil, blank_space⟩
  refine ⟨hlabel (by decide +kernel), by decide, by decide +kernel, Blank.nil, ?_⟩
  refine ⟨hlabel (by decide +kernel), Blank.nil, ?employees, Blank.nil, ?_⟩
  case employees =>
    refine ⟨blank_space, Blank.nil, .broken rfl (by decide +kernel) (by decide +kernel), ?_⟩
    refine ⟨blank_space, Blank.nil, .whole (by decide +kernel), ?_⟩
    exact ⟨blank_space, Blank.nil, .bare (by decide) (by decide +kernel), trivial⟩
  refine ⟨hlabel (by decide +kernel), Blank.nil, ?identities, Blank.nil, ?_⟩
  case identities => exact ⟨blank_space, Blank.nil, .bracketed rfl (by decide +kernel), trivial⟩
  refine ⟨hlabel (by decide +kernel), blank_space, ?interactions, by decide +kernel⟩
  case interactions => exact ⟨blank_space, Blank.nil, .quoted (by decide +kernel), trivial⟩

theorem load_pruned_spoiltBody :
    Blank [' '] ∧ spoiltBody.Fits ∧ ∃ loaded loaded',
      load (document [' '] spoiltBody) = .ok loaded ∧
      load (document [' '] spoiltBody.pruned) = .ok loaded' ∧ loaded.Exceeds loaded' 2 1 1 := by
  have hsome : (load (document [' '] spoiltBody)).toOption.isSome = true := by decide +kernel
  obtain ⟨loaded, hload⟩ := isSome_toOption_iff.1 hsome
  obtain ⟨hiff, hexceeds⟩ := load_pruned blank_space fits_spoiltBody
  obtain ⟨loaded', hload'⟩ := hiff.1 ⟨loaded, hload⟩
  have hcounts := hexceeds loaded loaded' hload hload'
  have he : spoiltBody.deletedFrom [Names.employees] = 2 := by decide +kernel
  have hi : spoiltBody.deletedFrom [Names.identities, Names.oldIdentities] = 1 := by decide +kernel
  have ht : spoiltBody.deletedFrom [Names.interactions] = 1 := by decide +kernel
  rw [he, hi, ht] at hcounts
  exact ⟨blank_space, fits_spoiltBody, loaded, loaded', hload, hload', hcounts⟩

end Teamwork.Snapshot
