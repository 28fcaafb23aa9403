import Teamwork.Proofs.Snapshot.Entering
import Teamwork.Proofs.Snapshot.Records

/-!
# JSON texts as snapshots

Every JSON object is read, whatever it holds, as long as its keys stand for texts. Under each name
the reader has one slot for each element of the last array of that name; `IsSlotOf` says what an
element stands for, without a word about reading. A text can therefore fail to load for one reason
only: an array is missing.

## Main definitions

* `Snapshot.IsSlotOf` — what an element of an array stands for.
* `Snapshot.HasArray` — objects with an array of some name.

## Main results

* `Snapshot.finds_readArray` — arrays of records.
* `Snapshot.exists_readArrays_append`, `Snapshot.exists_readArrays` — whole texts.
* `Snapshot.reads_every_object` — what is read of a text, and when it does not load.
-/

namespace Teamwork.Snapshot

open Text

/-! ### Arrays of records -/

/-- What an element of an array stands for: a legible object for a record of its strings, anything
else for a fault. -/
def IsSlotOf : Json.Tree → Slot → Prop
  | .object members, .ok fields =>
    Legible members ∧ ∀ name, fields[name]? = lastNamed textOf members name
  | .object members, .error _ => ¬Legible members
  | _, .ok _ => False
  | _, .error _ => True

/-- An element of an array is always found, and the reader goes on behind it. -/
theorem finds_slot {cs : List Char} {t : Json.Tree} (h : Json.IsTree cs t) (rest : List Char)
    (hrest : Ends rest) : Finds (slot.read (cs ++ rest)) (IsSlotOf t) rest := by
  have hskip := skipValue_of_isTree h hrest
  obtain ⟨c, cs', rfl, hc⟩ := heads_of_isTree h
  rw [List.cons_append] at hskip ⊢
  change Finds (readSlot (c :: (cs' ++ rest))) _ rest
  rw [readSlot]
  rw [List.head?_cons]
  cases t with
  | object members =>
    obtain rfl : c = '\x7b' := hc
    rw [if_pos rfl]
    rcases finds_readRecord h rest with ⟨fields, hfields, hread⟩ | ⟨hnone, fault, hread⟩
    · rw [← List.cons_append, hread]
      exact .inl ⟨.ok fields, hfields, rfl⟩
    · rw [← List.cons_append, hread]
      refine .inl ⟨.error fault, ?_, ?_⟩
      · intro hlegible
        obtain ⟨fields, hfields⟩ := hlegible.exists_fields
        exact hnone fields ⟨hlegible, hfields⟩
      · rw [skipBalanced_of_isTree h rest]
        rfl
  | string | array =>
    obtain rfl := hc
    rw [if_neg (by decide), hskip]
    exact .inl ⟨.error ⟨.expectedRecord _, _⟩, trivial, rfl⟩
  | null | boolean | number =>
    have hopen : c ≠ '\x7b' := by
      rintro rfl
      exact absurd (isScalar_iff.1 hc).2.1 (by decide)
    rw [if_neg (fun h => hopen (Option.some.inj h)), hskip]
    exact .inl ⟨.error ⟨.expectedRecord _, _⟩, trivial, rfl⟩

/-- An array is read with one slot for each of its elements. -/
theorem finds_readArray {cs : List Char} {elements : List Json.Tree}
    (h : Json.IsTree cs (.array elements)) (rest : List Char) :
    Finds (readArray (cs ++ rest)) (List.Forall₂ IsSlotOf elements) rest := by
  cases h with
  | array hl =>
    simp only [List.cons_append, List.append_assoc, List.nil_append, readArray,
      expect_eq_ok_iff.2 rfl]
    have := slot.finds_items (P := Json.IsTree) (R := IsSlotOf) (show isBlank ']' = false by decide)
      (by decide) (by decide) (fun h => startsItem_of_isTree h (by decide)) finds_slot hl [] rest
    simpa using this

/-! ### Whole texts -/

/-- The elements of an array. -/
def elementsOf : Json.Tree → Option (List Json.Tree)
  | .array elements => some elements
  | _ => none

/-- A value of a snapshot as it is found: the slots of an array, or nothing. -/
def IsArrayOf (t : Json.Tree) (v : Option (List Slot)) : Prop :=
  Option.Rel (List.Forall₂ IsSlotOf) (elementsOf t) v

/-- Every tree stands for a slot. -/
theorem exists_isSlotOf (t : Json.Tree) : ∃ slot, IsSlotOf t slot := by
  have fault : Fault := ⟨.unbalanced, []⟩
  cases t with
  | object members =>
    by_cases h : Legible members
    · obtain ⟨fields, hfields⟩ := h.exists_fields
      exact ⟨.ok fields, h, hfields⟩
    · exact ⟨.error fault, h⟩
  | _ => exact ⟨.error fault, trivial⟩

theorem exists_isArrayOf (t : Json.Tree) : ∃ v, IsArrayOf t v := by
  have slots : ∀ elements, ∃ slots, List.Forall₂ IsSlotOf elements slots := by
    intro elements
    induction elements with
    | nil => exact ⟨[], .nil⟩
    | cons t elements ih =>
      obtain ⟨slots, hslots⟩ := ih
      obtain ⟨slot, hslot⟩ := exists_isSlotOf t
      exact ⟨slot :: slots, .cons hslot hslots⟩
  cases t with
  | array elements =>
    obtain ⟨slots, hslots⟩ := slots elements
    exact ⟨some slots, .some hslots⟩
  | _ => exact ⟨none, .none⟩

theorem finds_arrayOrSkip {cs : List Char} {t : Json.Tree} (h : Json.IsTree cs t)
    (rest : List Char) (hrest : Ends rest) :
    Finds (arrayOrSkip.read (cs ++ rest)) (IsArrayOf t) rest := by
  have hskip := skipValue_of_isTree h hrest
  obtain ⟨c, cs', rfl, hc⟩ := heads_of_isTree h
  rw [List.cons_append] at hskip ⊢
  change Finds (readArrayOrSkip (c :: (cs' ++ rest))) _ rest
  rw [readArrayOrSkip]
  rw [List.head?_cons]
  cases t with
  | array elements =>
    obtain rfl : c = '[' := hc
    rw [if_pos rfl, ← List.cons_append]
    refine (finds_readArray h rest).map ?_ ?_
    · intro slots hslots
      exact .some hslots
    · rintro _ ⟨hslots⟩
      exact ⟨_, hslots⟩
  | string | object =>
    obtain rfl := hc
    rw [if_neg (by decide), hskip]
    exact .inl ⟨none, .none, rfl⟩
  | null | boolean | number =>
    have hopen : c ≠ '[' := by
      rintro rfl
      exact absurd (isScalar_iff.1 hc).2.1 (by decide)
    rw [if_neg (fun h => hopen (Option.some.inj h)), hskip]
    exact .inl ⟨none, .none, rfl⟩

/-- **A JSON object with legible keys is read**, and the array found under a name has one slot for
each element of the last array of that name. What follows the object is not looked at. -/
theorem exists_readArrays_append {gap cs : List Char} {members : List (List Nat × Json.Tree)}
    (hgap : Json.IsGap gap) (h : Json.IsTree cs (.object members))
    (hkeys : ∀ m ∈ members, ∃ key, Json.decode m.1 = some key) (rest : List Char) :
    ∃ arrays, readArrays (gap ++ cs ++ rest) = .ok arrays ∧ ∀ name,
      Option.Rel (List.Forall₂ IsSlotOf) (lastNamed elementsOf members name) arrays[name]? := by
  cases h with
  | @object cs _ hl =>
    have hskip : skipBlanks (gap ++ ('\x7b' :: cs ++ ['\x7d']) ++ rest) =
        '\x7b' :: (cs ++ '\x7d' :: rest) := by
      rw [List.append_assoc, skipBlanks_append (blank_of_isGap hgap), List.cons_append,
        List.cons_append, skipBlanks_cons_of_not (by decide), List.append_assoc,
        List.singleton_append]
    rw [readArrays, hskip, expect_eq_ok_iff.2 rfl]
    dsimp only
    rcases finds_members finds_arrayOrSkip hl rest with ⟨found, hfound, hread⟩ | ⟨hnone, -⟩
    · refine ⟨collect found, by rw [hread]; rfl, ?_⟩
      intro name
      rw [getElem?_collect]
      exact rel_lastValue id hfound name
    · -- every member can be found, as its key is legible
      exfalso
      suffices hfound : ∃ found, List.Forall₂ (IsMemberOf IsArrayOf) members found by
        obtain ⟨found, hfound⟩ := hfound
        exact hnone found hfound
      clear hl hskip hnone
      induction members with
      | nil => exact ⟨[], .nil⟩
      | cons m members ih =>
        obtain ⟨⟨key, hkey⟩, hkeys⟩ := List.forall_mem_cons.1 hkeys
        obtain ⟨found, hfound⟩ := ih hkeys
        obtain ⟨v, hv⟩ := exists_isArrayOf m.2
        refine ⟨(String.ofList key, v) :: found, .cons ⟨?_, hv⟩ hfound⟩
        rw [hkey, String.toList_ofList]

theorem exists_readArrays {cs : List Char} {members : List (List Nat × Json.Tree)}
    (h : Json.IsText cs (.object members))
    (hkeys : ∀ m ∈ members, ∃ key, Json.decode m.1 = some key) :
    ∃ arrays, readArrays cs = .ok arrays ∧ ∀ name,
      Option.Rel (List.Forall₂ IsSlotOf) (lastNamed elementsOf members name) arrays[name]? := by
  obtain @⟨gap, cs, gap', _, hgap, htree, -⟩ := h
  exact exists_readArrays_append hgap htree hkeys gap'

/-! ### When a text loads -/

/-- The object has a member of this name that is an array. -/
def HasArray (members : List (List Nat × Json.Tree)) (name : String) : Prop :=
  ∃ key elements, (key, .array elements) ∈ members ∧ Json.decode key = some name.toList

theorem lastNamed_eq_none_iff {α : Type} {holds : Json.Tree → Option α}
    {members : List (List Nat × Json.Tree)} {name : String} :
    lastNamed holds members name = none ↔
      ∀ m ∈ members, Json.decode m.1 = some name.toList → holds m.2 = none := by
  simp only [lastNamed, List.findSome?_eq_none_iff, List.mem_reverse, ite_eq_right_iff]

theorem lastNamed_elementsOf_eq_none_iff {members : List (List Nat × Json.Tree)} {name : String} :
    lastNamed elementsOf members name = none ↔ ¬HasArray members name := by
  rw [lastNamed_eq_none_iff]
  constructor
  · rintro h ⟨key, elements, hmem, hkey⟩
    exact absurd (h _ hmem hkey) (by simp [elementsOf])
  · intro h m hm hkey
    obtain ⟨key, t⟩ := m
    cases t with
    | array elements => exact absurd ⟨key, elements, hm, hkey⟩ h
    | _ => rfl

theorem rel_none_iff {α β : Type} {S : α → β → Prop} {a : Option α} {b : Option β}
    (h : Option.Rel S a b) : a = none ↔ b = none := by
  cases h <;> simp

/-- A text whose arrays are read does not load exactly if one of the three arrays is missing. -/
theorem load_eq_error_iff {text : String} {arrays : Arrays}
    (hread : readArrays text.toList = .ok arrays) :
    (∃ e, load text = .error e) ↔ arrays[Names.employees]? = none ∨
      arrays[Names.interactions]? = none ∨
      arrays[Names.identities]? = none ∧ arrays[Names.oldIdentities]? = none := by
  have hok : (∃ loaded, load text = .ok loaded) ↔ arrays[Names.employees]? ≠ none ∧
      arrays[Names.interactions]? ≠ none ∧
      arrays[Names.identities]?.or arrays[Names.oldIdentities]? ≠ none := by
    simp only [load_eq_ok_iff, HasArrays, hread, Except.ok.injEq, exists_eq_left',
      Option.ne_none_iff_exists']
    constructor
    · rintro ⟨loaded, employees, identities, interactions, ⟨he, hi, ht⟩, -⟩
      exact ⟨⟨employees, he⟩, ⟨interactions, ht⟩, ⟨identities, hi⟩⟩
    · rintro ⟨⟨employees, he⟩, ⟨interactions, ht⟩, ⟨identities, hi⟩⟩
      exact ⟨_, employees, identities, interactions, ⟨he, hi, ht⟩, rfl⟩
  have herror : (∃ e, load text = .error e) ↔ ¬∃ loaded, load text = .ok loaded := by
    cases load text <;> simp
  rw [herror, hok, ← Option.or_eq_none_iff]
  simp only [ne_eq, not_and_or, Classical.not_not]

/-- **All of JSON is read.** An object whose keys stand for texts is read, with one slot for each
element of the last array of each name, and it does not load exactly if one of the three arrays is
missing under all of its names. -/
theorem reads_every_object {text : String} {members : List (List Nat × Json.Tree)}
    (h : Json.IsText text.toList (.object members))
    (hkeys : ∀ m ∈ members, ∃ key, Json.decode m.1 = some key) :
    (∃ arrays, readArrays text.toList = .ok arrays ∧ ∀ name,
      Option.Rel (List.Forall₂ IsSlotOf) (lastNamed elementsOf members name) arrays[name]?) ∧
    ((∃ e, load text = .error e) ↔
      ¬HasArray members Names.employees ∨ ¬HasArray members Names.interactions ∨
        ¬HasArray members Names.identities ∧ ¬HasArray members Names.oldIdentities) := by
  obtain ⟨arrays, hread, harrays⟩ := exists_readArrays h hkeys
  have hnone : ∀ name, arrays[name]? = none ↔ ¬HasArray members name := by
    intro name
    rw [← lastNamed_elementsOf_eq_none_iff, rel_none_iff (harrays name)]
  refine ⟨⟨arrays, hread, harrays⟩, ?_⟩
  rw [load_eq_error_iff hread, hnone, hnone, hnone, hnone]

/-- A text with blanks, nesting, a surrogate pair and elements of four kinds, but without the arrays
that a snapshot needs. In one of the elements a member occurs three times, the last time without a
string; another one has a string with half of a surrogate pair. -/
def nestedText : String :=
  joined [" \x7b\"a\": [7, \x7b\x7d, ", "\x7b\"k\":\"x\",\"k\":\"y\",\"k\":7\x7d, ",
    "\x7b\"k\":\"\\uD83d\"\x7d], ", "\"\\uD83d\\uDe00\":\"x\"\x7d "]

/-- The members of that text. -/
def nestedMembers : List (List Nat × Json.Tree) :=
  [([0x61], .array [.number ['7'], .object [],
      .object [([0x6B], .string [0x78]), ([0x6B], .string [0x79]), ([0x6B], .number ['7'])],
      .object [([0x6B], .string [0xD83D])]]),
    ([0xD83D, 0xDE00], .string [0x78])]

theorem isText_nestedText : Json.IsText nestedText.toList (.object nestedMembers) := by
  have hgap := Json.isGap_nil
  have hblank : Json.IsGap [' '] := by simp [Json.IsGap]
  have hletter : ∀ {c : Char}, ' ' ≤ c ∧ c ≠ '"' ∧ c ≠ '\\' →
      Json.IsString ('"' :: [c] ++ ['"']) [c.toNat] := by
    rintro c ⟨hge, hquote, hslash⟩
    exact .mk (.char hge hquote hslash .nil)
  have hhigh : ∀ {cs : List Char} {codes : List Nat}, Json.IsBody cs codes →
      Json.IsBody ('\\' :: 'u' :: 'D' :: '8' :: '3' :: 'd' :: cs) (0xD83D :: codes) :=
    .unicode (show ('D', 0xD) ∈ Json.hexDigits by decide) (show ('8', 8) ∈ Json.hexDigits by decide)
      (show ('3', 3) ∈ Json.hexDigits by decide) (show ('d', 0xD) ∈ Json.hexDigits by decide)
  have hlow : Json.IsBody ['\\', 'u', 'D', 'e', '0', '0'] [0xDE00] :=
    .unicode (show ('D', 0xD) ∈ Json.hexDigits by decide)
      (show ('e', 0xE) ∈ Json.hexDigits by decide) (show ('0', 0) ∈ Json.hexDigits by decide)
      (show ('0', 0) ∈ Json.hexDigits by decide) .nil
  have hseven : Json.IsTree ['7'] (.number ['7']) :=
    .number (show Json.IsNumber ([] ++ ['7'] ++ [] ++ []) from
      .mk (by decide) (.positive (by decide) (by decide) (List.forall_mem_nil _)) .absent .absent)
  have hobject : Json.IsTree ['\x7b', '\x7d'] (.object []) := .object (.empty hgap)
  have hunder : ∀ {cs : List Char} {t : Json.Tree}, Json.IsTree cs t →
      Json.IsMember Json.IsTree ('"' :: ['k'] ++ ['"'] ++ [] ++ ':' :: [] ++ cs) ([0x6B], t) :=
    .mk (hletter (show ' ' ≤ 'k' ∧ _ by decide)) hgap hgap
  have hx := Json.IsTree.string (hletter (show ' ' ≤ 'x' ∧ _ by decide))
  have hy := Json.IsTree.string (hletter (show ' ' ≤ 'y' ∧ _ by decide))
  have hrecord := Json.IsTree.object (.more hgap (hunder hx) hgap
    (.more hgap (hunder hy) hgap (.last hgap (hunder hseven) hgap)))
  have hhalf := Json.IsTree.object (.last hgap (hunder (.string (.mk (hhigh .nil)))) hgap)
  have harray := Json.IsTree.array (.more hgap hseven hgap (.more hblank hobject hgap
    (.more hblank hrecord hgap (.last hblank hhalf hgap))))
  have hfirst := Json.IsMember.mk (hletter (show ' ' ≤ 'a' ∧ _ by decide)) hgap hblank harray
  have hsecond := Json.IsMember.mk (.mk (hhigh hlow)) hgap hgap hx
  have htext := Json.IsText.mk hblank
    (.object (.more hgap hfirst hgap (.last hblank hsecond hgap))) hblank
  rw [nestedText, joined, String.toList_ofList]
  exact htext

theorem reads_every_object_nestedText :
    Json.IsText nestedText.toList (.object nestedMembers) ∧
      (∀ m ∈ nestedMembers, ∃ key, Json.decode m.1 = some key) ∧
      (∃ arrays, readArrays nestedText.toList = .ok arrays ∧
        (∀ name, Option.Rel (List.Forall₂ IsSlotOf) (lastNamed elementsOf nestedMembers name)
          arrays[name]?) ∧
        arrays["a"]?.map (·.map fun slot => slot.toOption.map (·["k"]?)) =
          some [none, some none, some (some "y"), none]) ∧
      ∃ e, load nestedText = .error e := by
  have hkeys : ∀ m ∈ nestedMembers, ∃ key, Json.decode m.1 = some key := by
    have hsome : ∀ m ∈ nestedMembers, (Json.decode m.1).isSome = true := by
      simp only [nestedMembers, List.forall_mem_cons]
      decide
    exact fun m hm => Option.isSome_iff_exists.1 (hsome m hm)
  have hmissing : ¬HasArray nestedMembers Names.employees := by
    rintro ⟨key, elements, hmem, hkey⟩
    simp only [nestedMembers, List.mem_cons, Prod.mk.injEq, List.not_mem_nil, or_false] at hmem
    rcases hmem with ⟨rfl, -⟩ | ⟨rfl, -⟩ <;> exact absurd hkey (by decide)
  have hslots : (readArrays nestedText.toList).toOption.map (fun arrays =>
      arrays["a"]?.map (·.map fun slot => slot.toOption.map (·["k"]?))) =
      some (some [none, some none, some (some "y"), none]) := by
    rw [nestedText, joined, String.toList_ofList]
    decide +kernel
  obtain ⟨⟨arrays, hread, harrays⟩, herror⟩ := reads_every_object isText_nestedText hkeys
  obtain ⟨arrays', hread', hfields⟩ := map_toOption_eq_some_iff.1 hslots
  obtain rfl : arrays = arrays' := Except.ok.inj (hread.symm.trans hread')
  exact ⟨isText_nestedText, hkeys, ⟨arrays, hread, harrays, hfields⟩, herror.2 (.inl hmissing)⟩

end Teamwork.Snapshot
