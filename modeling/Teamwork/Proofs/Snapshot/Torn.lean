import Teamwork.Proofs.Snapshot.Extension
import Teamwork.Proofs.Snapshot.RoundTrip

/-!
# A snapshot that breaks off

A file may be cut off in the middle of being written. Then it must not load: a shorter snapshot
would pass for a smaller graph. The danger is in the recovery from broken records, which goes
through a text again and takes any balanced stretch of it for an element. It never takes the torn
end of one, because a text that breaks off within brackets is not balanced.

The proof follows the grammar and not the place of the cut. Of a value that is torn, a reader either
reads nothing, or uses up all there is, as a bare value does that is cut short; `Drains` says so. A
loop that reads a torn item finds no comma and no closing bracket behind it and fails, and the torn
end of an outer list lies in one of its items or in the gaps between them. Strings, records and
bracketed values are not followed inside: they are read in the same way when the missing part is
put back, and then would have to end where they break off.

Behind its closing brace, on the other hand, nothing of a snapshot matters.

## Main definitions

* `Snapshot.Drains` — a result that leaves nothing to read, or no result at all.

## Main results

* `Snapshot.Production.exists_items_of_torn` — torn lists.
* `Snapshot.exists_readArrays_of_torn` — torn objects.
* `Snapshot.load_of_append` — written snapshots with more text behind.
* `Snapshot.torn_reached` — both, for every reachable graph.
-/

namespace Teamwork.Snapshot

open Text
open Teamwork.Graph (Operation reached)

/-! ### Parts of a text -/

/-- A text that breaks off does so within the first of two parts or behind it. -/
theorem prefix_append_cases {α : Type} {p a b : List α} (h : p <+: a ++ b) :
    p <+: a ∧ p ≠ a ∨ ∃ q, p = a ++ q ∧ q <+: b := by
  rcases List.prefix_or_prefix_of_prefix h (List.prefix_append a b) with hp | ⟨q, rfl⟩
  · by_cases heq : p = a
    · exact .inr ⟨[], by rw [heq, List.append_nil], List.nil_prefix⟩
    · exact .inl ⟨hp, heq⟩
  · exact .inr ⟨q, rfl, (List.prefix_append_right_inj a).1 h⟩

/-! ### Blanks and the start of an item -/

theorem Blank.of_torn {cs gap : List Char} (hgap : Blank gap) (h : cs <+: gap) : Blank cs :=
  fun c hc => hgap c (h.subset hc)

theorem StartsItem.of_torn {close : Char} {cs p : List Char} (h : StartsItem close cs)
    (hp : p <+: cs) (hne : p ≠ []) : StartsItem close p := by
  obtain ⟨c, cs', rfl, hc⟩ := h
  rcases List.prefix_cons_iff.1 hp with rfl | ⟨p', rfl, -⟩
  · exact absurd rfl hne
  · exact ⟨c, p', rfl, hc⟩

/-! ### Results that leave nothing -/

/-- Nothing but blanks is left behind what was read, if anything was. -/
def Drains {α : Type} (result : Except Fault (α × List Char)) : Prop :=
  ∀ a rest, result = .ok (a, rest) → Blank rest

theorem Drains.of_error {α : Type} {result : Except Fault (α × List Char)} {fault : Fault}
    (h : result = .error fault) : Drains result := by
  intro a rest hok
  rw [h] at hok
  cases hok

theorem Finds.drains {α : Type} {result : Except Fault (α × List Char)} {P : α → Prop}
    {rest : List Char} (h : Finds result P rest) (hrest : Blank rest) : Drains result := by
  intro a rest' hok
  rcases h with ⟨a', -, hread⟩ | ⟨-, fault, hread⟩
  · rw [hread] at hok
    obtain ⟨-, rfl⟩ := Prod.mk.inj (Except.ok.inj hok)
    exact hrest
  · rw [hread] at hok
    cases hok

namespace Production

variable {α β : Type} (item : Production β) {close : Char}

theorem exists_read_nil : ∃ fault, item.read [] = .error fault := by
  cases h : item.read [] with
  | error fault => exact ⟨fault, rfl⟩
  | ok p => exact absurd rfl (item.ne_nil_of_read h)

/-- A loop fails at an item that leaves nothing, because the closing bracket is missed behind it. -/
theorem exists_items_of_drains {cs : List Char} (hclose : (skipBlanks cs).head? ≠ some close)
    (h : Drains (item.read (skipBlanks cs))) (acc : List β) :
    ∃ fault, item.items close acc cs = .error fault := by
  rw [items_turn item hclose]
  cases hread : item.read (skipBlanks cs) with
  | error fault => exact ⟨fault, rfl⟩
  | ok p =>
    have hskip : skipBlanks p.2 = [] := (h p.1 p.2 hread).skipBlanks_eq
    simp [hskip, expect, Except.map]

theorem exists_items_of_blank {cs : List Char} (h : Blank cs) (acc : List β) :
    ∃ fault, item.items close acc cs = .error fault := by
  obtain ⟨fault, hread⟩ := item.exists_read_nil
  refine item.exists_items_of_drains ?_ ?_ acc
  · rw [h.skipBlanks_eq]
    exact fun h => nomatch h
  · rw [h.skipBlanks_eq]
    exact .of_error hread

/-- A loop fails on every part of an item and the blanks around it. -/
theorem exists_items_of_torn_item {R : α → β → Prop} {a : α} {gap cs gap' : List Char}
    (hgap : Blank gap) (hgap' : Blank gap') (hstart : StartsItem close cs)
    (hread : ∀ rest, Ends rest → Finds (item.read (cs ++ rest)) (R a) rest)
    (htorn : ∀ {p}, p <+: cs → p ≠ cs → Drains (item.read p)) {p : List Char}
    (hp : p <+: gap ++ (cs ++ gap')) (acc : List β) :
    ∃ fault, item.items close acc p = .error fault := by
  rcases prefix_append_cases hp with ⟨hblank, -⟩ | ⟨q, rfl, hq⟩
  · exact item.exists_items_of_blank (hgap.of_torn hblank) acc
  rcases prefix_append_cases hq with ⟨hcs, hne⟩ | ⟨r, rfl, hr⟩
  · by_cases hnil : q = []
    · rw [hnil, List.append_nil]
      exact item.exists_items_of_blank hgap acc
    · have hskip := (hstart.of_torn hcs hnil).skipBlanks_append hgap []
      have hhead := (hstart.of_torn hcs hnil).head?_ne []
      rw [List.append_nil] at hskip hhead
      refine item.exists_items_of_drains ?_ ?_ acc
      · rw [hskip]
        exact hhead
      · rw [hskip]
        exact htorn hcs hne
  · have hskip := hstart.skipBlanks_append hgap r
    have hblank := hgap'.of_torn hr
    refine item.exists_items_of_drains ?_ ?_ acc
    · rw [hskip]
      exact hstart.head?_ne _
    · rw [hskip]
      exact (hread r hblank.ends).drains hblank

/-- **A torn list is refused.** Each item of the list is found as a whole, and of a torn one either
nothing is read or all there is. -/
theorem exists_items_of_torn {P : List Char → α → Prop} {R : α → β → Prop}
    (hstart : ∀ {cs a}, P cs a → StartsItem close cs)
    (hread : ∀ {cs a}, P cs a → ∀ rest, Ends rest → Finds (item.read (cs ++ rest)) (R a) rest)
    (htorn : ∀ {cs a}, P cs a → ∀ {p}, p <+: cs → p ≠ cs → Drains (item.read p))
    {cs : List Char} {as : List α} (h : Json.IsList P cs as) {p : List Char} (hp : p <+: cs)
    (acc : List β) : ∃ fault, item.items close acc p = .error fault := by
  induction h generalizing p acc with
  | empty hgap => exact item.exists_items_of_blank ((blank_of_isGap hgap).of_torn hp) acc
  | last hgap hcs hgap' =>
    rw [List.append_assoc] at hp
    exact item.exists_items_of_torn_item (blank_of_isGap hgap) (blank_of_isGap hgap') (hstart hcs)
      (hread hcs) (htorn hcs) hp acc
  | @more gap cs gap' rest a b as hgap hcs hgap' _ ih =>
    have hfirst : ∀ {p}, p <+: gap ++ cs ++ gap' →
        ∃ fault, item.items close acc p = .error fault := by
      intro p hp
      rw [List.append_assoc] at hp
      exact item.exists_items_of_torn_item (blank_of_isGap hgap) (blank_of_isGap hgap') (hstart hcs)
        (hread hcs) (htorn hcs) hp acc
    rcases prefix_append_cases hp with ⟨hbefore, -⟩ | ⟨q, rfl, hq⟩
    · exact hfirst hbefore
    rcases List.prefix_cons_iff.1 hq with rfl | ⟨r, rfl, hr⟩
    · rw [List.append_nil]
      exact hfirst List.prefix_rfl
    · have hends : Ends (gap' ++ ',' :: r) :=
        ends_append (blank_of_isGap hgap') (ends_cons (by decide) _)
      simp only [List.append_assoc]
      rcases hread hcs _ hends with ⟨b, -, hok⟩ | ⟨-, fault, herror⟩
      · rw [item.items_more (blank_of_isGap hgap) (blank_of_isGap hgap') (hstart hcs) hok]
        exact ih hr _
      · exact ⟨fault, item.items_error (blank_of_isGap hgap) (hstart hcs) herror acc⟩

end Production

/-! ### Torn values -/

/-- Between brackets, a text breaks off in front of the first, or in front of the last. -/
theorem prefix_brackets_cases {first last : Char} {inner p : List Char}
    (hp : p <+: first :: inner ++ [last]) (hne : p ≠ first :: inner ++ [last]) :
    p = [] ∨ ∃ q, p = first :: q ∧ q <+: inner := by
  rcases List.prefix_cons_iff.1 hp with rfl | ⟨q, rfl, hq⟩
  · exact .inl rfl
  · rcases List.prefix_concat_iff.1 hq with rfl | hq
    · exact absurd rfl hne
    · exact .inr ⟨q, rfl, hq⟩

/-- Passing over a part of a value uses it up. Otherwise it would stop at the same place in the
whole value. -/
theorem eq_nil_of_skipValue_torn {cs : List Char} {t : Json.Tree} (h : Json.IsTree cs t)
    {p rest : List Char} (hp : p <+: cs) (hskip : skipValue p = .ok rest) : rest = [] := by
  by_contra hne
  obtain ⟨q, rfl⟩ := hp
  have hwhole := skipValue_of_isTree h .nil
  rw [List.append_nil, skipValue_append hskip (.inl hne)] at hwhole
  exact hne (List.append_eq_nil_iff.1 (Except.ok.inj hwhole)).1

/-- The recovery from a broken record does not take the part of an object for a record. -/
theorem exists_skipBalanced_of_torn {cs : List Char} {members : List (List Nat × Json.Tree)}
    (h : Json.IsTree cs (.object members)) {p : List Char} (hp : p <+: cs) (hne : p ≠ cs) :
    ∃ fault, skipBalanced 0 p = .error fault := by
  obtain ⟨q, rfl⟩ := hp
  cases hskip : skipBalanced 0 p with
  | error fault => exact ⟨fault, rfl⟩
  | ok rest =>
    have hwhole := skipBalanced_of_isTree h []
    rw [List.append_nil, skipBalanced_append hskip] at hwhole
    have hq := (List.append_eq_nil_iff.1 (Except.ok.inj hwhole)).2
    exact absurd (by rw [hq, List.append_nil]) hne

/-- A reader that uses up a text, and never minds what stands behind, reads nothing of a part of
it. -/
theorem exists_error_of_torn {α : Type} {read : List Char → Except Fault (α × List Char)}
    (happend : ∀ {cs : List Char} {a : α} {rest : List Char}, read cs = .ok (a, rest) →
      ∀ more, read (cs ++ more) = .ok (a, rest ++ more))
    {P : α → Prop} {cs : List Char} (hwhole : Finds (read cs) P []) {p : List Char} (hp : p <+: cs)
    (hne : p ≠ cs) : ∃ fault, read p = .error fault := by
  obtain ⟨q, rfl⟩ := hp
  cases hread : read p with
  | error fault => exact ⟨fault, rfl⟩
  | ok r =>
    have hlong := happend hread q
    rcases hwhole with ⟨a, -, hwhole⟩ | ⟨-, fault, hwhole⟩
    · rw [hlong] at hwhole
      have hrest := (Prod.mk.inj (Except.ok.inj hwhole)).2
      exact absurd (by rw [(List.append_eq_nil_iff.1 hrest).2, List.append_nil]) hne
    · rw [hlong] at hwhole
      cases hwhole

theorem drains_map {α β : Type} {result : Except Fault α} {f : α → β × List Char}
    (h : ∀ a, result = .ok a → (f a).2 = []) : Drains (result.map f) := by
  intro b rest hok
  obtain ⟨a, ha, hf⟩ := map_eq_ok_iff.1 hok
  have hnil : rest = [] := by simpa [hf] using h a ha
  rw [hnil]
  exact Blank.nil

theorem head?_of_torn {α : Type} {p l : List α} {a : α} (hp : p <+: l) (h : p.head? = some a) :
    l.head? = some a := by
  obtain ⟨q, rfl⟩ := hp
  rw [List.head?_append_of_ne_nil _ (ne_nil_of_head? h), h]

theorem Heads.of_isOpening {t : Json.Tree} {c : Char} (h : Heads t c) (ho : isOpening c = true) :
    (∃ elements, t = .array elements ∧ c = '[') ∨ ∃ members, t = .object members ∧ c = '\x7b' := by
  cases t with
  | array elements => exact .inl ⟨elements, rfl, h⟩
  | object members => exact .inr ⟨members, rfl, h⟩
  | string =>
    obtain rfl := h
    exact absurd ho (by decide)
  | null | boolean | number => exact absurd ho (by simp [(isScalar_iff.1 h).2.1])

/-- A part of a value that starts with an opening bracket is part of an array or of an object. -/
theorem exists_brackets_of_torn {cs : List Char} {t : Json.Tree} (h : Json.IsTree cs t)
    {p : List Char} (hp : p <+: cs) {c : Char} (hhead : p.head? = some c)
    (ho : isOpening c = true) :
    (∃ elements, t = .array elements ∧ c = '[') ∨ ∃ members, t = .object members ∧ c = '\x7b' := by
  obtain ⟨d, cs', rfl, hd⟩ := heads_of_isTree h
  obtain rfl : d = c := Option.some.inj (head?_of_torn hp hhead)
  exact hd.of_isOpening ho

/-- The torn element of an array is never kept as a fault with something behind it. -/
theorem drains_slot_of_torn {cs : List Char} {t : Json.Tree} (h : Json.IsTree cs t) {p : List Char}
    (hp : p <+: cs) (hne : p ≠ cs) : Drains (slot.read p) := by
  change Drains (readSlot p)
  rw [readSlot]
  split
  · next hopen =>
    obtain ⟨members, rfl⟩ : ∃ members, t = .object members := by
      rcases exists_brackets_of_torn h hp hopen (by decide) with ⟨_, -, hc⟩ | ⟨members, ht, -⟩
      · exact absurd hc (by decide)
      · exact ⟨members, ht⟩
    have hwhole := finds_readRecord h []
    rw [List.append_nil] at hwhole
    obtain ⟨fault, hread⟩ := exists_error_of_torn readRecord_append hwhole hp hne
    obtain ⟨fault', hskip⟩ := exists_skipBalanced_of_torn h hp hne
    rw [hread, hskip]
    exact .of_error rfl
  · exact drains_map fun rest hskip => eq_nil_of_skipValue_torn h hp hskip

theorem exists_readArray_of_torn {cs : List Char} {elements : List Json.Tree}
    (h : Json.IsTree cs (.array elements)) {p : List Char} (hp : p <+: cs) (hne : p ≠ cs) :
    ∃ fault, readArray p = .error fault := by
  cases h with
  | array hl =>
    rcases prefix_brackets_cases hp hne with rfl | ⟨q, rfl, hq⟩
    · exact ⟨_, rfl⟩
    · exact slot.exists_items_of_torn (P := Json.IsTree) (R := IsSlotOf)
        (fun h => startsItem_of_isTree h (by decide)) finds_slot drains_slot_of_torn hl hq []

theorem drains_arrayOrSkip_of_torn {cs : List Char} {t : Json.Tree} (h : Json.IsTree cs t)
    {p : List Char} (hp : p <+: cs) (hne : p ≠ cs) : Drains (arrayOrSkip.read p) := by
  change Drains (readArrayOrSkip p)
  rw [readArrayOrSkip]
  split
  · next hopen =>
    obtain ⟨elements, rfl⟩ : ∃ elements, t = .array elements := by
      rcases exists_brackets_of_torn h hp hopen (by decide) with ⟨elements, ht, -⟩ | ⟨_, -, hc⟩
      · exact ⟨elements, ht⟩
      · exact absurd hc (by decide)
    obtain ⟨fault, hread⟩ := exists_readArray_of_torn h hp hne
    rw [hread]
    exact .of_error rfl
  · exact drains_map fun rest hskip => eq_nil_of_skipValue_torn h hp hskip

theorem drains_member_of_torn {α : Type} {value : Production α}
    (hvalue : ∀ {cs t}, Json.IsTree cs t → ∀ {p}, p <+: cs → p ≠ cs → Drains (value.read p))
    {cs : List Char} {m : List Nat × Json.Tree} (h : Json.IsMember Json.IsTree cs m)
    {p : List Char} (hp : p <+: cs) (hne : p ≠ cs) : Drains ((member value).read p) := by
  obtain @⟨key, gap, gap', cs, codes, t, hkey, hgap, hgap', hcs⟩ := h
  rintro ⟨name, a⟩ rest hread
  obtain ⟨behindKey, behindColon, hname, hcolon, hrest⟩ := readMember_eq_ok_iff.1 hread
  rw [show key ++ gap ++ ':' :: gap' ++ cs = key ++ (gap ++ (':' :: gap' ++ cs)) by simp] at hp hne
  -- only a member that breaks off within its value is read at all
  rcases prefix_append_cases hp with ⟨hp, hne⟩ | ⟨q, rfl, hq⟩
  · have hwhole := finds_readString hkey []
    rw [List.append_nil] at hwhole
    obtain ⟨fault, herror⟩ := exists_error_of_torn readString_append hwhole hp hne
    rw [herror] at hname
    cases hname
  obtain rfl : behindKey = q := by
    rcases finds_readString hkey q with ⟨s, -, hs⟩ | ⟨-, fault, hs⟩
    · rw [hs] at hname
      exact (Prod.mk.inj (Except.ok.inj hname)).2.symm
    · rw [hs] at hname
      cases hname
  rcases prefix_append_cases hq with ⟨hgap'', -⟩ | ⟨r, rfl, hr⟩
  · rw [((blank_of_isGap hgap).of_torn hgap'').skipBlanks_eq] at hcolon
    cases hcolon
  rw [skipBlanks_append (blank_of_isGap hgap)] at hcolon
  rcases List.prefix_cons_iff.1 hr with rfl | ⟨u, rfl, hu⟩
  · cases hcolon
  rw [skipBlanks_cons_of_not (by decide)] at hcolon
  obtain rfl : u = behindColon := (List.cons.inj hcolon).2
  rcases prefix_append_cases hu with ⟨hgap'', -⟩ | ⟨v, rfl, hv⟩
  · rw [((blank_of_isGap hgap').of_torn hgap'').skipBlanks_eq] at hrest
    exact absurd rfl (value.ne_nil_of_read hrest)
  have hne : v ≠ cs := by
    rintro rfl
    exact hne (by simp)
  by_cases hnil : v = []
  · rw [hnil, List.append_nil, (blank_of_isGap hgap').skipBlanks_eq] at hrest
    exact absurd rfl (value.ne_nil_of_read hrest)
  · have hstart : StartsItem ']' cs := startsItem_of_isTree hcs (by decide)
    have hskip := (hstart.of_torn hv hnil).skipBlanks_append (blank_of_isGap hgap') []
    rw [List.append_nil] at hskip
    rw [hskip] at hrest
    exact hvalue hcs hv hne a rest hrest

/-- **A torn object is refused.** -/
theorem exists_readArrays_of_torn {cs : List Char} {members : List (List Nat × Json.Tree)}
    (h : Json.IsTree cs (.object members)) {p : List Char} (hp : p <+: cs) (hne : p ≠ cs) :
    ∃ fault, readArrays p = .error fault := by
  cases h with
  | object hl =>
    rcases prefix_brackets_cases hp hne with rfl | ⟨q, rfl, hq⟩
    · exact ⟨_, rfl⟩
    · obtain ⟨fault, hitems⟩ := (member arrayOrSkip).exists_items_of_torn
        (P := Json.IsMember Json.IsTree) (R := IsMemberOf IsArrayOf) startsItem_of_isMember
        (finds_member finds_arrayOrSkip) (drains_member_of_torn drains_arrayOrSkip_of_torn) hl hq []
      refine ⟨fault, ?_⟩
      rw [readArrays, skipBlanks_cons_of_not (by decide), expect_eq_ok_iff.2 rfl]
      dsimp only
      rw [hitems]
      rfl

/-! ### Written snapshots -/

/-- A written record leaves the reader no choice. -/
theorem eq_of_isSlotOf_recordTree {fields : List (String × String)} {slot slot' : Slot}
    (h : IsSlotOf (recordTree fields) slot) (h' : IsSlotOf (recordTree fields) slot') :
    slot = slot' := by
  obtain ⟨record, rfl, hrecord⟩ := exists_hasFields h
  obtain ⟨record', rfl, hrecord'⟩ := exists_hasFields h'
  refine congrArg Except.ok (Std.ExtTreeMap.ext_getElem? fun {name} => ?_)
  rw [hrecord name, hrecord' name]

theorem eq_of_forall₂_recordTree {records : List (List (String × String))}
    {slots slots' : List Slot} (h : List.Forall₂ IsSlotOf (records.map recordTree) slots)
    (h' : List.Forall₂ IsSlotOf (records.map recordTree) slots') : slots = slots' := by
  induction records generalizing slots slots' with
  | nil =>
    cases h
    cases h'
    rfl
  | cons fields records ih =>
    cases h with
    | cons hslot hslots =>
      cases h' with
      | cons hslot' hslots' =>
        rw [eq_of_isSlotOf_recordTree hslot hslot', ih hslots hslots']

/-- All arrays of a written snapshot are arrays of written records. -/
theorem exists_records_of_lastNamed {g : Graph} {name : String} {elements : List Json.Tree}
    (h : lastNamed elementsOf (writtenMembers g) name = some elements) :
    ∃ records : List (List (String × String)), elements = records.map recordTree := by
  obtain ⟨⟨key, t⟩, hm, hholds⟩ := List.exists_of_findSome?_eq_some h
  have ht : ∃ records : List (List (String × String)), t = .array (records.map recordTree) := by
    simp only [writtenMembers, List.mem_reverse, List.mem_cons, List.not_mem_nil, or_false,
      arrayMember, Prod.mk.injEq] at hm
    rcases hm with ⟨-, rfl⟩ | ⟨-, rfl⟩ | ⟨-, rfl⟩ <;> exact ⟨_, rfl⟩
  obtain ⟨records, rfl⟩ := ht
  dsimp only at hholds
  split at hholds
  · exact ⟨records, (Option.some.inj hholds).symm⟩
  · cases hholds

/-- **What stands behind the closing brace of a written snapshot does not matter.** -/
theorem load_of_append {g : Graph} {inner : List Char}
    (h : Json.IsList (Json.IsMember Json.IsTree) inner (writtenMembers g))
    (rest rest' : List Char) :
    load (String.ofList ('\x7b' :: inner ++ ['\x7d'] ++ rest)) =
      load (String.ofList ('\x7b' :: inner ++ ['\x7d'] ++ rest')) := by
  have hkeys : ∀ m ∈ writtenMembers g, ∃ key, Json.decode m.1 = some key := by
    simp [writtenMembers, arrayMember, Json.decode_codesOf]
  obtain ⟨arrays, hread, harrays⟩ := exists_readArrays_append Json.isGap_nil (.object h) hkeys rest
  obtain ⟨arrays', hread', harrays'⟩ :=
    exists_readArrays_append Json.isGap_nil (.object h) hkeys rest'
  have heq : arrays = arrays' := by
    refine Std.ExtTreeMap.ext_getElem? fun {name} => ?_
    have hname := harrays name
    have hname' := harrays' name
    cases hlast : lastNamed elementsOf (writtenMembers g) name with
    | none =>
      rw [hlast] at hname hname'
      rw [(rel_none_iff hname).1 rfl, (rel_none_iff hname').1 rfl]
    | some elements =>
      obtain ⟨records, rfl⟩ := exists_records_of_lastNamed hlast
      rw [hlast] at hname hname'
      obtain ⟨slots, hslots, hrel⟩ := exists_of_rel_some hname
      obtain ⟨slots', hslots', hrel'⟩ := exists_of_rel_some hname'
      rw [hslots, hslots', eq_of_forall₂_recordTree hrel hrel']
  rw [List.nil_append] at hread hread'
  rw [load, load, String.toList_ofList, String.toList_ofList, loadChars, loadChars, hread, hread',
    heq]

/-- **A torn snapshot never loads as a smaller graph.** Every text that breaks off before the
closing brace of a written snapshot is refused as malformed, and every text that goes on behind the
brace loads as the snapshot itself does, with the same account of its records. -/
theorem torn_reached (ops : List Operation) :
    ∃ body, (write (reached ops)).toList = body ++ ['\x7d', '\n'] ∧
      (∀ cut, cut <+: body → ∃ fault, load (String.ofList cut) = .error (.syntactic fault)) ∧
      (∃ loaded, load (write (reached ops)) = .ok loaded) ∧
      ∀ rest, load (String.ofList (body ++ '\x7d' :: rest)) = load (write (reached ops)) := by
  obtain ⟨inner, hwrite, hinner⟩ := exists_writeChars (reached ops)
  refine ⟨'\x7b' :: inner, ?_, ?_, ?_, ?_⟩
  · rw [write, String.toList_ofList, hwrite]
  · intro cut hcut
    have hne : cut ≠ '\x7b' :: inner ++ ['\x7d'] := by
      rintro rfl
      have hlen := hcut.length_le
      simp only [List.length_append, List.length_cons] at hlen
      omega
    obtain ⟨fault, hread⟩ :=
      exists_readArrays_of_torn (.object hinner) (hcut.trans (List.prefix_append _ _)) hne
    refine ⟨fault, ?_⟩
    rw [load, String.toList_ofList, loadChars, hread]
    rfl
  · obtain ⟨employees, identities, interactions, harrays, -⟩ :=
      exists_hasArrays_write (reached ops)
    exact ⟨_, load_eq_ok_iff.2 ⟨employees, identities, interactions, harrays, rfl⟩⟩
  · intro rest
    have happend := load_of_append hinner rest ['\n']
    rw [write, hwrite]
    simpa using happend

end Teamwork.Snapshot
