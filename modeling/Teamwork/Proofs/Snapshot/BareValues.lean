import Teamwork.Proofs.Snapshot.Broken

/-!
# Where a record ends

Reading a record and passing over it find its end in two ways, and an array can only be read if they
agree. They agree on strings and on bracketed values. They need not agree on bare values: such a
value is read up to the next comma, closing bracket or blank, whatever it is made of, while a quote
or an opening bracket in it counts for whoever passes over the record.

So a balanced text in which a bare value holds a quote or an opening bracket may be read as a record
that ends too early, and what is left of the text is a fault in the array around it. Nothing else
can go wrong. If there is no such value, a record that can be read at all is read to the end of its
text, whatever stands behind it.

The values are found here without reading anything. The members of a text are passed over one by
one, as far as they go on as members do.

## Main definitions

* `Snapshot.bareRun`, `Snapshot.bareValues` — the bare values among the members of a record.
* `Snapshot.Delimited` — texts whose ends are found.

## Main results

* `Snapshot.skipValue_of_readField` — a value that is read is passed over to the same place.
* `Snapshot.exists_skipBalanced_add` — brackets are closed from the inside.
* `Snapshot.rest_of_readRecord` — a record is read to the end of its text.
* `Snapshot.exists_readArray_intercalate` — an array is read with one slot for each record.
-/

namespace Teamwork.Snapshot

open Text

/-! ### Values of fields -/

theorem skipValue_of_readField {cs : List Char} {a : Option String} {rest : List Char}
    (h : readField cs = .ok (a, rest)) : skipValue cs = .ok rest := by
  rw [readField] at h
  split at h
  · obtain ⟨⟨s, rest'⟩, hread, hp⟩ := map_eq_ok_iff.1 h
    obtain ⟨-, rfl⟩ := Prod.mk.inj hp
    obtain ⟨body, rfl, hbody⟩ := exists_of_skipString (skipString_of_readString hread)
    rw [skipValue, if_pos rfl, hbody]
  · obtain ⟨rest', hskip, hp⟩ := map_eq_ok_iff.1 h
    obtain ⟨-, rfl⟩ := Prod.mk.inj hp
    exact hskip

/-! ### Brackets -/

theorem exists_skipBody_of_skipBalanced {depth : Nat} {body rest : List Char}
    (h : skipBalanced depth ('"' :: body) = .ok rest) :
    ∃ behind, skipBody body = .ok behind ∧ skipBalanced depth behind = .ok rest := by
  cases hbody : skipBody body with
  | ok behind =>
    rw [skipBalanced_quote hbody] at h
    exact ⟨behind, rfl, h⟩
  | error fault =>
    rw [skipBalanced] at h
    split at h <;> simp_all

/-- Where several brackets are closed, the inner ones are closed first. -/
theorem exists_skipBalanced_add {inner outer : Nat} (hinner : 1 ≤ inner) (houter : 1 ≤ outer)
    {cs rest : List Char} (h : skipBalanced (inner + outer) cs = .ok rest) :
    ∃ behind, skipBalanced inner cs = .ok behind ∧ skipBalanced outer behind = .ok rest := by
  generalize hdepth : inner + outer = depth at h
  -- a bracket that is opened on the way counts as one more inner one
  fun_induction skipBalanced depth cs generalizing inner with
  | case1 => simp at h
  | case2 => simp at h
  | case3 depth cs rest' hbody ih =>
    rw [skipBalanced_quote hbody]
    exact ih hinner hdepth h
  | case4 depth c cs hquote hopen ih =>
    rw [skipBalanced_opening hopen]
    exact ih (Nat.le_add_right_of_le hinner) (by omega) h
  | case5 depth c cs hquote hopen hclose hdepth => omega
  | case6 depth c cs hquote hopen hclose hmore ih =>
    rw [skipBalanced_closing hclose]
    split
    · exact ⟨cs, rfl, by rw [← h]; congr 1; omega⟩
    · exact ih (by omega) (by omega) h
  | case7 depth c cs hquote hopen hclose ih =>
    rw [skipBalanced_plain (by simp_all [isPlain])]
    exact ih hinner hdepth h

theorem skipBalanced_skipBlanks (depth : Nat) (cs : List Char) :
    skipBalanced depth (skipBlanks cs) = skipBalanced depth cs := by
  induction cs with
  | nil => rfl
  | cons c cs ih =>
    by_cases hc : isBlank c = true
    · have hskip : skipBlanks (c :: cs) = skipBlanks cs := List.dropWhile_cons_of_pos hc
      rw [hskip, ih, skipBalanced_plain (isPlain_of_isBlank hc)]
    · rw [skipBlanks_cons_of_not (by simpa using hc)]

theorem ne_nil_of_skipBalanced {depth : Nat} {cs rest : List Char}
    (h : skipBalanced depth cs = .ok rest) : cs ≠ [] :=
  List.ne_nil_of_length_pos (Nat.zero_lt_of_lt (length_skipBalanced_lt h))

/-! ### Members that are passed over -/

/-- What follows the key at the start of a text and the colon behind it. -/
def skipLabel (cs : List Char) : Except Fault (List Char) :=
  match skipString (skipBlanks cs) with
  | .error fault => .error fault
  | .ok rest => expect ':' (skipBlanks rest)

/-- The characters of the value at the start of a text if that is a bare one. -/
def bareRun (cs : List Char) : List Char :=
  if cs.head?.any fun c => c = '"' || isOpening c then [] else cs.takeWhile isBare

theorem skipLabel_eq_ok_iff {cs rest : List Char} :
    skipLabel cs = .ok rest ↔
      ∃ behindKey, skipString (skipBlanks cs) = .ok behindKey ∧
        skipBlanks behindKey = ':' :: rest := by
  rw [skipLabel]
  cases skipString (skipBlanks cs) with
  | error fault => simp
  | ok behindKey => simp [expect_eq_ok_iff]

theorem length_skipLabel_lt {cs rest : List Char} (h : skipLabel cs = .ok rest) :
    rest.length < cs.length := by
  obtain ⟨behindKey, hkey, hcolon⟩ := skipLabel_eq_ok_iff.1 h
  have h1 := length_skipString_lt hkey
  have h2 := length_skipBlanks_le cs
  have h3 := length_skipBlanks_le behindKey
  rw [hcolon, List.length_cons] at h3
  omega

/-- The bare values of the members of an object, from behind its opening brace on and as far as the
text goes on as members do. There is an empty text for a value of another kind. -/
def bareValues (cs : List Char) : List (List Char) :=
  match _hlabel : skipLabel cs with
  | .error _ => []
  | .ok value =>
    match _hvalue : skipValue (skipBlanks value) with
    | .error _ => []
    | .ok rest =>
      bareRun (skipBlanks value) ::
        if (skipBlanks rest).head? = some ',' then bareValues (skipBlanks rest).tail else []
termination_by cs.length
decreasing_by
  have h1 := length_skipLabel_lt _hlabel
  have h2 := length_skipValue_lt _hvalue
  have h3 := length_skipBlanks_le value
  have h4 := length_skipBlanks_le rest
  simp only [List.length_tail]
  omega

theorem bareValues_of_skipValue {cs value rest : List Char} (hlabel : skipLabel cs = .ok value)
    (hvalue : skipValue (skipBlanks value) = .ok rest) :
    bareValues cs = bareRun (skipBlanks value) ::
      if (skipBlanks rest).head? = some ',' then bareValues (skipBlanks rest).tail else [] := by
  rw [bareValues]
  split
  · next h =>
    rw [hlabel] at h
    cases h
  · next value' h =>
    obtain rfl : value = value' := Except.ok.inj (hlabel.symm.trans h)
    split
    · next h =>
      rw [hvalue] at h
      cases h
    · next rest' h =>
      obtain rfl : rest = rest' := Except.ok.inj (hvalue.symm.trans h)
      rfl

/-! ### One record -/

theorem exists_skipString_append {cs behind rest : List Char} (h : skipBalanced 1 cs = .ok [])
    (hskip : skipString (cs ++ behind) = .ok rest) : ∃ rest', skipString cs = .ok rest' ∧
      skipBalanced 1 rest' = .ok [] ∧ rest = rest' ++ behind := by
  cases cs with
  | nil => exact absurd rfl (ne_nil_of_skipBalanced h)
  | cons c body =>
    obtain ⟨body', hcs, hbody'⟩ := exists_of_skipString hskip
    rw [List.cons_append] at hcs
    obtain ⟨rfl, hbody⟩ := List.cons.inj hcs
    obtain ⟨rest', hrest, hrest'⟩ := exists_skipBody_of_skipBalanced h
    rw [← hbody, skipBody_append hrest] at hbody'
    exact ⟨rest', hrest, hrest', (Except.ok.inj hbody').symm⟩

theorem skipBlanks_append_of_skipBalanced {cs rest : List Char} (h : skipBalanced 1 cs = .ok rest)
    (behind : List Char) : skipBlanks (cs ++ behind) = skipBlanks cs ++ behind := by
  rw [← skipBalanced_skipBlanks] at h
  exact skipBlanks_append_of_ne_nil (ne_nil_of_skipBalanced h) behind

theorem exists_skipLabel_append {cs behind rest : List Char} (h : skipBalanced 1 cs = .ok [])
    (hskip : skipLabel (cs ++ behind) = .ok rest) : ∃ rest', skipLabel cs = .ok rest' ∧
      skipBalanced 1 rest' = .ok [] ∧ rest = rest' ++ behind := by
  obtain ⟨behindKey, hkey, hcolon⟩ := skipLabel_eq_ok_iff.1 hskip
  rw [skipBlanks_append_of_skipBalanced h] at hkey
  rw [← skipBalanced_skipBlanks] at h
  obtain ⟨behindKey', hkey', h', rfl⟩ := exists_skipString_append h hkey
  rw [skipBlanks_append_of_skipBalanced h'] at hcolon
  rw [← skipBalanced_skipBlanks] at h'
  cases hblanks : skipBlanks behindKey' with
  | nil => exact absurd hblanks (ne_nil_of_skipBalanced h')
  | cons c rest' =>
    rw [hblanks, List.cons_append] at hcolon
    obtain ⟨rfl, rfl⟩ := List.cons.inj hcolon
    rw [hblanks, skipBalanced_plain (by decide)] at h'
    exact ⟨rest', skipLabel_eq_ok_iff.2 ⟨behindKey', hkey', hblanks⟩, h', rfl⟩

/-- A value in a balanced text can be passed over there. What is left is balanced again, unless the
value is a bare one with a character in it that counts. -/
theorem exists_skipValue {cs behind rest : List Char} (h : skipBalanced 1 cs = .ok [])
    (hskip : skipValue (cs ++ behind) = .ok rest) :
    ∃ rest', skipValue cs = .ok rest' ∧
      ((bareRun cs).all isPlain = true → skipBalanced 1 rest' = .ok []) := by
  cases cs with
  | nil => exact absurd rfl (ne_nil_of_skipBalanced h)
  | cons c cs =>
    rw [List.cons_append] at hskip
    simp only [skipValue] at hskip ⊢
    by_cases hquote : c = '"'
    · subst hquote
      obtain ⟨rest', hbody, hrest'⟩ := exists_skipBody_of_skipBalanced h
      exact ⟨rest', by rw [if_pos rfl, hbody], fun _ => hrest'⟩
    · by_cases hopen : isOpening c = true
      · rw [skipBalanced_opening hopen] at h
        obtain ⟨rest', hinner, hrest'⟩ :=
          exists_skipBalanced_add (Nat.le_refl 1) (Nat.le_refl 1) h
        refine ⟨rest', ?_, fun _ => hrest'⟩
        rw [if_neg hquote, if_pos hopen, skipBalanced_opening hopen, hinner]
      · by_cases hbare : isBare c = true
        · -- the only case in which the count may differ behind the value
          refine ⟨cs.dropWhile isBare, by rw [if_neg hquote, if_neg hopen, if_pos hbare], ?_⟩
          intro hplain
          have hrun : bareRun (c :: cs) = c :: cs.takeWhile isBare := by
            simp [bareRun, hquote, hopen, hbare]
          rw [hrun] at hplain
          have hlevel := level_of_plain hplain 1 (cs.dropWhile isBare) (Nat.le_refl 1)
          rwa [List.cons_append, List.takeWhile_append_dropWhile, h, eq_comm] at hlevel
        · rw [if_neg hquote, if_neg hopen, if_neg hbare] at hskip
          cases hskip

theorem eq_nil_of_skipBalanced_closing {c : Char} (hc : isClosing c = true) {cs : List Char}
    (h : skipBalanced 1 (c :: cs) = .ok []) : cs = [] := by
  rw [skipBalanced_closing hc, if_pos (Nat.le_refl 1)] at h
  exact Except.ok.inj h

/-- A member that can be read is passed over to the same place. -/
theorem exists_skipLabel_of_read {cs rest : List Char} {m : String × Option String}
    (h : (member field).read (skipBlanks cs) = .ok (m, rest)) :
    ∃ value, skipLabel cs = .ok value ∧ skipValue (skipBlanks value) = .ok rest := by
  obtain ⟨behindKey, value, hkey, hcolon, hvalue⟩ := readMember_eq_ok_iff.1 h
  exact ⟨value, skipLabel_eq_ok_iff.2 ⟨behindKey, skipString_of_readString hkey, hcolon⟩,
    skipValue_of_readField hvalue⟩

/-- One member. What is left of a balanced text behind a member is balanced again. -/
theorem exists_rest_of_read {cs behind rest : List Char} {m : String × Option String}
    (h : skipBalanced 1 cs = .ok []) (hbare : ∀ run ∈ bareValues cs, run.all isPlain = true)
    (hread : (member field).read (skipBlanks (cs ++ behind)) = .ok (m, rest)) :
    ∃ rest', rest = rest' ++ behind ∧ skipBalanced 1 rest' = .ok [] ∧ rest'.length < cs.length ∧
      ((skipBlanks rest').head? = some ',' →
        ∀ run ∈ bareValues (skipBlanks rest').tail, run.all isPlain = true) := by
  obtain ⟨value₀, hlabel₀, hvalue₀⟩ := exists_skipLabel_of_read hread
  obtain ⟨value, hlabel, hinside, rfl⟩ := exists_skipLabel_append h hlabel₀
  rw [skipBlanks_append_of_skipBalanced hinside] at hvalue₀
  obtain ⟨rest', hvalue, hplain⟩ :=
    exists_skipValue ((skipBalanced_skipBlanks 1 value).trans hinside) hvalue₀
  rw [bareValues_of_skipValue hlabel hvalue, List.forall_mem_cons] at hbare
  have hrest' := hplain hbare.1
  rw [skipValue_append hvalue (.inl (ne_nil_of_skipBalanced hrest'))] at hvalue₀
  refine ⟨rest', (Except.ok.inj hvalue₀).symm, hrest', ?_, ?_⟩
  · have h1 := length_skipLabel_lt hlabel
    have h2 := length_skipValue_lt hvalue
    have h3 := length_skipBlanks_le value
    omega
  · intro hcomma
    rw [if_pos hcomma] at hbare
    exact hbare.2

/-- The loop over the members of a record ends where the text of the record does. -/
theorem rest_of_items {cs : List Char} (h : skipBalanced 1 cs = .ok [])
    (hbare : ∀ run ∈ bareValues cs, run.all isPlain = true) {behind rest : List Char}
    {acc members : List (String × Option String)}
    (hitems : (member field).items '\x7d' acc (cs ++ behind) = .ok (members, rest)) :
    rest = behind := by
  have hblanks := skipBlanks_append_of_skipBalanced h behind
  have hcs := (skipBalanced_skipBlanks 1 cs).trans h
  by_cases hclose : (skipBlanks cs).head? = some '\x7d'
  · obtain ⟨tail, htail⟩ := List.head?_eq_some_iff.1 hclose
    rw [htail] at hcs hblanks
    obtain rfl := eq_nil_of_skipBalanced_closing (by decide) hcs
    rw [Production.items, hblanks, if_pos (by rfl)] at hitems
    exact (Prod.mk.inj (Except.ok.inj hitems)).2.symm
  · rw [← List.head?_append_of_ne_nil _ (ne_nil_of_skipBalanced hcs), ← hblanks] at hclose
    rw [Production.items_turn (member field) hclose] at hitems
    cases hread : (member field).read (skipBlanks (cs ++ behind)) with
    | error fault => simp [hread] at hitems
    | ok p =>
      obtain ⟨m, rest₀⟩ := p
      obtain ⟨rest', rfl, hrest', hlength, hmore⟩ := exists_rest_of_read h hbare hread
      simp only [hread, skipBlanks_append_of_skipBalanced hrest'] at hitems
      have hlength' := length_skipBlanks_le rest'
      have hnext := (skipBalanced_skipBlanks 1 rest').trans hrest'
      cases hskip : skipBlanks rest' with
      | nil => exact absurd hskip (ne_nil_of_skipBalanced hnext)
      | cons c tail =>
        rw [hskip] at hnext hitems hmore hlength'
        rw [List.cons_append, List.head?_cons, List.tail_cons] at hitems
        by_cases hcomma : c = ','
        · -- the loop goes on behind the comma, with less text
          subst hcomma
          rw [if_pos rfl] at hitems
          rw [skipBalanced_plain (by decide)] at hnext
          have hshorter : tail.length < cs.length := by
            rw [List.length_cons] at hlength'
            omega
          exact rest_of_items hnext (hmore rfl) hitems
        · rw [if_neg (by simpa using hcomma)] at hitems
          obtain ⟨rest₂, hexpect, hp⟩ := map_eq_ok_iff.1 hitems
          obtain ⟨rfl, rfl⟩ := List.cons.inj (expect_eq_ok_iff.1 hexpect)
          obtain rfl := eq_nil_of_skipBalanced_closing (by decide) hnext
          exact (Prod.mk.inj hp).2.symm
termination_by cs.length

/-- **A record is read to the end of its text**, or not at all, if the text is balanced and none of
its bare values holds a quote or a bracket. -/
theorem rest_of_readRecord {text behind rest : List Char} {fields : Fields}
    (hskip : skipBalanced 0 text = .ok [])
    (hbare : ∀ run ∈ bareValues text.tail, run.all isPlain = true)
    (hread : readRecord (text ++ behind) = .ok (fields, rest)) : rest = behind := by
  obtain ⟨inner, members, htext, hitems, -⟩ := readRecord_eq_ok_iff.1 hread
  cases text with
  | nil => exact absurd rfl (ne_nil_of_skipBalanced hskip)
  | cons c cs =>
    obtain ⟨rfl, rfl⟩ := List.cons.inj htext
    rw [skipBalanced_opening (by decide)] at hskip
    exact rest_of_items hskip hbare hitems

/-! ### Arrays -/

/-- A text that stands for a record, or for a fault in its place, wherever it is found. -/
theorem exists_readSlot_of_skipBalanced {text : List Char} (hhead : text.head? = some '\x7b')
    (hskip : skipBalanced 0 text = .ok [])
    (hbare : ∀ run ∈ bareValues text.tail, run.all isPlain = true) (behind : List Char) :
    ∃ s, readSlot (text ++ behind) = .ok (s, behind) := by
  rw [readSlot, List.head?_append_of_ne_nil _ (ne_nil_of_head? hhead), if_pos hhead]
  cases hread : readRecord (text ++ behind) with
  | error fault =>
    rw [skipBalanced_append hskip]
    exact ⟨.error fault, rfl⟩
  | ok p =>
    obtain ⟨fields, rest⟩ := p
    obtain rfl := rest_of_readRecord hskip hbare hread
    exact ⟨.ok fields, rfl⟩

/-- Each of the texts is found in place of an element, as a record or a fault, and to its end. -/
def Delimited (texts : List (List Char)) : Prop :=
  ∀ text ∈ texts, text.head? = some '\x7b' ∧
    ∀ behind, ∃ s, readSlot (text ++ behind) = .ok (s, behind)

/-- The loop over the elements of an array finds one slot for each text. -/
theorem exists_items_intercalate {text : List Char} {texts : List (List Char)}
    (h : Delimited (text :: texts)) (acc : List Slot) (rest : List Char) :
    ∃ slots, slots.length = (text :: texts).length ∧
      slot.items ']' acc ([','].intercalate (text :: texts) ++ ']' :: rest) =
        .ok (acc.reverse ++ slots, rest) := by
  have hstart : ∀ {text : List Char}, text.head? = some '\x7b' → StartsItem ']' text := by
    intro text hhead
    obtain ⟨cs, rfl⟩ := List.head?_eq_some_iff.1 hhead
    exact ⟨_, cs, rfl, by decide, by decide⟩
  induction texts generalizing text acc with
  | nil =>
    obtain ⟨hhead, hread⟩ := h text List.mem_cons_self
    obtain ⟨s, hs⟩ := hread (']' :: rest)
    refine ⟨[s], rfl, ?_⟩
    rw [List.intercalate_singleton, ← List.reverse_cons]
    exact slot.items_last (by decide) (by decide) Blank.nil Blank.nil (hstart hhead) hs acc
  | cons text' texts ih =>
    obtain ⟨⟨hhead, hread⟩, htexts⟩ := List.forall_mem_cons.1 h
    obtain ⟨s, hs⟩ := hread (',' :: ([','].intercalate (text' :: texts) ++ ']' :: rest))
    obtain ⟨slots, hlength, hitems⟩ := ih htexts (s :: acc)
    refine ⟨s :: slots, by simp [hlength], ?_⟩
    have hmore := slot.items_more Blank.nil Blank.nil (hstart hhead) hs acc
    rw [List.intercalate_cons_cons, List.append_assoc, List.append_assoc]
    exact hmore.trans (hitems.trans (by simp))

/-- **The content of records is not fatal.** An array of balanced texts, each from an opening brace
on, is read with one slot for each of them, up to its closing bracket, if no bare value of a member
holds a quote or a bracket. Then a record that can be read ends where it would end if it were passed
over. -/
theorem exists_readArray_intercalate {texts : List (List Char)}
    (htexts : ∀ text ∈ texts, text.head? = some '\x7b' ∧ skipBalanced 0 text = .ok [])
    (hbare : ∀ text ∈ texts, ∀ run ∈ bareValues text.tail, run.all isPlain = true)
    (rest : List Char) :
    (∃ slots, slots.length = texts.length ∧
      readArray ('[' :: ([','].intercalate texts ++ ']' :: rest)) = .ok (slots, rest)) ∧
    ∀ text ∈ texts, ∀ behind, skipBalanced 0 (text ++ behind) = .ok behind ∧
      ∀ fields rest', readRecord (text ++ behind) = .ok (fields, rest') → rest' = behind := by
  refine ⟨?_, ?_⟩
  · have hdelimited : Delimited texts := by
      intro text htext
      obtain ⟨hhead, hskip⟩ := htexts text htext
      exact ⟨hhead, exists_readSlot_of_skipBalanced hhead hskip (hbare text htext)⟩
    rw [readArray, expect_eq_ok_iff.2 rfl]
    dsimp only
    cases texts with
    | nil => exact ⟨[], rfl, slot.items_close (by decide) Blank.nil [] rest⟩
    | cons text texts => exact exists_items_intercalate hdelimited [] rest
  · intro text htext behind
    obtain ⟨-, hskip⟩ := htexts text htext
    exact ⟨skipBalanced_append hskip behind,
      fun fields rest' hread => rest_of_readRecord hskip (hbare text htext) hread⟩

/-- Records with a bare value, with a string in place of one, with a fault, and with brackets inside
a value. -/
def oddRecords : List (List Char) :=
  ["\x7b\"id\": 7, \"x\": \"\x7d\"\x7d".toList, "\x7b\"id\" \"\x7d\"\x7d".toList,
    "\x7b\"id\": [\x7b\"\x7d\"]]\x7d".toList]

theorem exists_readArray_oddRecords :
    (∀ text ∈ oddRecords, text.head? = some '\x7b' ∧ skipBalanced 0 text = .ok []) ∧
    (∀ text ∈ oddRecords, ∀ run ∈ bareValues text.tail, run.all isPlain = true) ∧
    ∃ slots, slots.length = 3 ∧
      readArray ('[' :: ([','].intercalate oddRecords ++ ']' :: ['\x7d'])) =
        .ok (slots, ['\x7d']) := by
  have htexts : ∀ text ∈ oddRecords,
      text.head? = some '\x7b' ∧ skipBalanced 0 text = .ok [] := by decide +kernel
  have hbare : ∀ text ∈ oddRecords, ∀ run ∈ bareValues text.tail, run.all isPlain = true := by
    decide +kernel
  exact ⟨htexts, hbare, (exists_readArray_intercalate htexts hbare ['\x7d']).1⟩

/-- A balanced text whose bare value has a quote in it ends the record too early. What is left is
then met in place of a comma. -/
theorem not_all_balanced_arrays_read :
    ¬∀ texts : List (List Char),
      (∀ text ∈ texts, text.head? = some '\x7b' ∧ skipBalanced 0 text = .ok []) →
      ∀ rest, ∃ slots, slots.length = texts.length ∧
        readArray ('[' :: ([','].intercalate texts ++ ']' :: rest)) = .ok (slots, rest) := by
  intro h
  have htexts : ∀ text ∈ ["\x7b\"a\":x\"\x7d\"\x7d".toList],
      text.head? = some '\x7b' ∧ skipBalanced 0 text = .ok [] := by decide +kernel
  obtain ⟨slots, -, hread⟩ := h _ htexts []
  have hfault : (readArray ('[' :: ([','].intercalate ["\x7b\"a\":x\"\x7d\"\x7d".toList] ++
      [']']))).isOk = false := by decide +kernel
  rw [hread] at hfault
  cases hfault

end Teamwork.Snapshot
