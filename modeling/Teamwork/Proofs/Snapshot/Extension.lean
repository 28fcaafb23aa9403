import Teamwork.Proofs.Snapshot.Brackets
import Teamwork.Proofs.Snapshot.Spelling

/-!
# Reading with more text behind

The readers of snapshots never look back and hardly look ahead, so what they have read stays read
when more text follows. For strings, records and bracketed values there is nothing more to say: each
of them says by itself where it ends. A bare value does not. It ends where the text ends, and would
go on in a longer one. So a reader that may meet a bare value is only asked to be `Steady`, which is
the same for all but the last thing in a text; the loop over items needs no more, because it has
seen the closing bracket when it is done.

A fault is another matter. A string without an end may get one, and a record that could not be read
may turn into one that can. Nothing is said of faults here.

## Main definitions

* `Snapshot.Steady` — readers whose result does not change when more text follows, unless nothing
  followed it before.

## Main results

* `Snapshot.readString_append`, `Snapshot.skipBody_append`, `Snapshot.skipBalanced_append` — strings
  and bracketed values.
* `Snapshot.Production.items_append` — lists of items.
* `Snapshot.readRecord_append` — records.
-/

namespace Teamwork.Snapshot

open Text

/-! ### Single characters -/

theorem expect_append {mark : Char} {cs rest : List Char} (h : expect mark cs = .ok rest)
    (more : List Char) : expect mark (cs ++ more) = .ok (rest ++ more) := by
  rw [expect_eq_ok_iff] at h ⊢
  rw [h, List.cons_append]

/-! ### Strings -/

theorem readString_append {cs : List Char} {s : String} {rest : List Char}
    (h : readString cs = .ok (s, rest)) (more : List Char) :
    readString (cs ++ more) = .ok (s, rest ++ more) := by
  obtain ⟨body, hbody, rfl⟩ := readString_eq_ok_iff_isSpelling.1 h
  exact readString_eq_ok_iff_isSpelling.2 ⟨body, hbody, by simp⟩

theorem skipBody_append {cs rest : List Char} (h : skipBody cs = .ok rest) (more : List Char) :
    skipBody (cs ++ more) = .ok (rest ++ more) := by
  fun_induction skipBody cs with
  | case1 => simp at h
  | case2 =>
    obtain rfl := Except.ok.inj h
    rfl
  | case3 => simp at h
  | case4 _ _ ih => exact ih h
  | case5 c cs hquote hlast hslash ih =>
    have hne : c ≠ '\\' := by
      intro hc
      cases cs with
      | nil => exact hlast hc rfl
      | cons d cs => exact hslash d cs hc rfl
    rw [List.cons_append, skipBody_cons hquote hne]
    exact ih h

/-! ### Values that are passed over -/

theorem skipBalanced_append {depth : Nat} {cs rest : List Char}
    (h : skipBalanced depth cs = .ok rest) (more : List Char) :
    skipBalanced depth (cs ++ more) = .ok (rest ++ more) := by
  fun_induction skipBalanced depth cs with
  | case1 => simp at h
  | case2 => simp at h
  | case3 depth cs rest' hbody ih =>
    rw [List.cons_append, skipBalanced_quote (skipBody_append hbody more)]
    exact ih h
  | case4 depth c cs hquote hopen ih =>
    rw [List.cons_append, skipBalanced_opening hopen]
    exact ih h
  | case5 depth c cs hquote hopen hclose hdepth =>
    rw [List.cons_append, skipBalanced_closing hclose, if_pos hdepth, Except.ok.inj h]
  | case6 depth c cs hquote hopen hclose hdepth ih =>
    rw [List.cons_append, skipBalanced_closing hclose, if_neg hdepth]
    exact ih h
  | case7 depth c cs hquote hopen hclose ih =>
    rw [List.cons_append, skipBalanced_plain (by simp_all [isPlain])]
    exact ih h

/-- A run of characters that ends within a text ends at the same place in a longer one. -/
theorem dropWhile_append_of_ne_nil {p : Char → Bool} {cs : List Char} (h : cs.dropWhile p ≠ [])
    (more : List Char) : (cs ++ more).dropWhile p = cs.dropWhile p ++ more := by
  rw [List.dropWhile_append, if_neg fun hnil => h (List.isEmpty_iff.1 hnil)]

/-- So does a bare value, and one that is the whole text if it would end there anyway. -/
theorem dropWhile_isBare_append {cs more : List Char}
    (h : cs.dropWhile isBare ≠ [] ∨ Ends more) :
    (cs ++ more).dropWhile isBare = cs.dropWhile isBare ++ more := by
  by_cases hne : cs.dropWhile isBare = []
  · have hends := h.resolve_left fun hnot => hnot hne
    rw [List.dropWhile_append, if_pos (List.isEmpty_iff.2 hne), hends.dropWhile_eq, hne,
      List.nil_append]
  · exact dropWhile_append_of_ne_nil hne more

/-- A value is passed over in the same way in a longer text, unless it is a bare one that would go
on there. -/
theorem skipValue_append {cs rest : List Char} (h : skipValue cs = .ok rest) {more : List Char}
    (hmore : rest ≠ [] ∨ Ends more) : skipValue (cs ++ more) = .ok (rest ++ more) := by
  cases cs with
  | nil => simp [skipValue] at h
  | cons c cs =>
    rw [List.cons_append]
    simp only [skipValue] at h ⊢
    split at h
    · next hquote => rw [if_pos hquote, skipBody_append h]
    · next hquote =>
      rw [if_neg hquote]
      split at h
      · next hopen =>
        rw [if_pos hopen]
        exact skipBalanced_append h more
      · next hopen =>
        rw [if_neg hopen]
        split at h
        · next hbare =>
          obtain rfl := Except.ok.inj h
          rw [if_pos hbare, dropWhile_isBare_append hmore]
        · simp at h

/-! ### Lists of items -/

/-- What is read does not change when more text follows, unless nothing followed it before. -/
def Steady {α : Type} (read : List Char → Except Fault (α × List Char)) : Prop :=
  ∀ {cs : List Char} {a : α} {rest : List Char}, read cs = .ok (a, rest) → rest ≠ [] →
    ∀ more, read (cs ++ more) = .ok (a, rest ++ more)

theorem ne_nil_of_head? {α : Type} {a : α} {l : List α} (h : l.head? = some a) : l ≠ [] := by
  rintro rfl
  cases h

theorem skipBlanks_append_of_ne_nil {cs : List Char} (h : skipBlanks cs ≠ []) (more : List Char) :
    skipBlanks (cs ++ more) = skipBlanks cs ++ more :=
  dropWhile_append_of_ne_nil h more

namespace Production

variable {α : Type} {item : Production α}

theorem ne_nil_of_read (item : Production α) {cs : List Char} {a : α} {rest : List Char}
    (h : item.read cs = .ok (a, rest)) : cs ≠ [] :=
  List.ne_nil_of_length_pos (Nat.zero_lt_of_lt (item.shorter h))

/-- A turn of the loop that reads an item, and finds something behind it, does the same in a longer
text. -/
theorem turn_append (hitem : Steady item.read) {cs rest : List Char} {a : α}
    (hread : item.read (skipBlanks cs) = .ok (a, rest)) (hrest : skipBlanks rest ≠ [])
    (more : List Char) :
    (skipBlanks (cs ++ more)).head? = (skipBlanks cs).head? ∧
      item.read (skipBlanks (cs ++ more)) = .ok (a, rest ++ more) := by
  have hcs := item.ne_nil_of_read hread
  have hne : rest ≠ [] := by
    rintro rfl
    exact hrest rfl
  rw [skipBlanks_append_of_ne_nil hcs]
  exact ⟨List.head?_append_of_ne_nil _ hcs, hitem hread hne more⟩

/-- **A list of items is read in the same way when more text follows.** -/
theorem items_append (hitem : Steady item.read) {close : Char} {acc : List α} {cs : List Char}
    {as : List α} {rest : List Char} (h : item.items close acc cs = .ok (as, rest))
    (more : List Char) : item.items close acc (cs ++ more) = .ok (as, rest ++ more) := by
  fun_induction Production.items item close acc cs with
  | case1 acc cs hclose =>
    have hskip := skipBlanks_append_of_ne_nil (ne_nil_of_head? hclose) more
    obtain ⟨rfl, rfl⟩ := Prod.mk.inj (Except.ok.inj h)
    obtain ⟨cs', hcs⟩ := List.head?_eq_some_iff.1 hclose
    rw [items, hskip, if_pos (by rw [hcs]; rfl), hcs]
    rfl
  | case2 => simp at h
  | case3 acc cs hclose a rest' hread hcomma ih =>
    have hrest := ne_nil_of_head? hcomma
    obtain ⟨hhead, hread'⟩ := turn_append hitem hread hrest more
    obtain ⟨tail, htail⟩ := List.head?_eq_some_iff.1 hcomma
    rw [items_turn item (by rwa [hhead]), hread']
    dsimp only
    rw [skipBlanks_append_of_ne_nil hrest, htail, List.cons_append, List.head?_cons, if_pos rfl,
      List.tail_cons]
    rw [htail] at ih h
    exact ih h
  | case4 => simp at h
  | case5 acc cs hclose a rest' hread hcomma rest'' hexpect =>
    have hrest : skipBlanks rest' ≠ [] := by
      rw [expect_eq_ok_iff.1 hexpect]
      exact List.cons_ne_nil _ _
    obtain ⟨hhead, hread'⟩ := turn_append hitem hread hrest more
    obtain ⟨rfl, rfl⟩ := Prod.mk.inj (Except.ok.inj h)
    rw [items_turn item (by rwa [hhead]), hread']
    dsimp only
    rw [skipBlanks_append_of_ne_nil hrest, List.head?_append_of_ne_nil _ hrest, if_neg hcomma,
      expect_append hexpect]
    rfl

end Production

/-! ### Records -/

/-- A member is read from its key on, over the colon, to the end of its value. -/
theorem readMember_eq_ok_iff {α : Type} {value : List Char → Except Fault (α × List Char)}
    {cs : List Char} {key : String} {a : α} {rest : List Char} :
    readMember value cs = .ok ((key, a), rest) ↔
      ∃ behindKey behindColon, readString cs = .ok (key, behindKey) ∧
        skipBlanks behindKey = ':' :: behindColon ∧
        value (skipBlanks behindColon) = .ok (a, rest) := by
  rw [readMember]
  constructor
  · intro h
    cases hkey : readString cs with
    | error fault => simp [hkey] at h
    | ok p =>
      cases hcolon : expect ':' (skipBlanks p.2) with
      | error fault => simp [hkey, hcolon] at h
      | ok r =>
        simp only [hkey, hcolon, map_eq_ok_iff, Prod.mk.injEq] at h
        obtain ⟨⟨a', rest'⟩, hvalue, ⟨rfl, rfl⟩, rfl⟩ := h
        exact ⟨_, r, rfl, expect_eq_ok_iff.1 hcolon, hvalue⟩
  · rintro ⟨behindKey, behindColon, hkey, hcolon, hvalue⟩
    simp only [hkey, expect_eq_ok_iff.2 hcolon, hvalue, Except.map]

theorem Steady.member {α : Type} {value : Production α} (h : Steady value.read) :
    Steady (member value).read := by
  intro cs p rest hp hne more
  obtain ⟨behindKey, behindColon, hkey, hcolon, hvalue⟩ := readMember_eq_ok_iff.1 hp
  have hbehindKey : skipBlanks behindKey ≠ [] := by
    rw [hcolon]
    exact List.cons_ne_nil _ _
  refine readMember_eq_ok_iff.2
    ⟨behindKey ++ more, behindColon ++ more, readString_append hkey more, ?_, ?_⟩
  · rw [skipBlanks_append_of_ne_nil hbehindKey, hcolon, List.cons_append]
  · rw [skipBlanks_append_of_ne_nil (value.ne_nil_of_read hvalue)]
    exact h hvalue hne more

theorem steady_field : Steady field.read := by
  intro cs v rest h hne more
  change readField cs = _ at h
  change readField (cs ++ more) = _
  have hcs : cs ≠ [] := field.ne_nil_of_read h
  rw [readField] at h ⊢
  rw [List.head?_append_of_ne_nil _ hcs]
  split at h
  · next hquote =>
    rw [if_pos hquote, map_eq_ok_iff]
    obtain ⟨p, hread, hp⟩ := map_eq_ok_iff.1 h
    obtain ⟨rfl, rfl⟩ := Prod.mk.inj hp
    exact ⟨_, readString_append hread more, rfl⟩
  · next hquote =>
    rw [if_neg hquote, map_eq_ok_iff]
    obtain ⟨r, hskip, hr⟩ := map_eq_ok_iff.1 h
    obtain ⟨rfl, rfl⟩ := Prod.mk.inj hr
    exact ⟨_, skipValue_append hskip (.inl hne), rfl⟩

/-- A record is read from its opening brace and the members behind it. -/
theorem readRecord_eq_ok_iff {cs : List Char} {fields : Fields} {rest : List Char} :
    readRecord cs = .ok (fields, rest) ↔
      ∃ inner members, cs = '\x7b' :: inner ∧
        (member field).items '\x7d' [] inner = .ok (members, rest) ∧ collect members = fields := by
  rw [readRecord]
  constructor
  · intro h
    cases hopen : expect '\x7b' cs with
    | error fault => simp [hopen] at h
    | ok inner =>
      simp only [hopen, map_eq_ok_iff, Prod.mk.injEq] at h
      obtain ⟨⟨members, rest'⟩, hitems, rfl, rfl⟩ := h
      exact ⟨inner, members, expect_eq_ok_iff.1 hopen, hitems, rfl⟩
  · rintro ⟨inner, members, rfl, hitems, rfl⟩
    simp only [expect_eq_ok_iff.2 rfl, hitems, Except.map]

/-- **A record is read in the same way when more text follows.** -/
theorem readRecord_append {cs : List Char} {fields : Fields} {rest : List Char}
    (h : readRecord cs = .ok (fields, rest)) (more : List Char) :
    readRecord (cs ++ more) = .ok (fields, rest ++ more) := by
  obtain ⟨inner, members, rfl, hitems, rfl⟩ := readRecord_eq_ok_iff.1 h
  exact readRecord_eq_ok_iff.2
    ⟨inner ++ more, members, rfl, Production.items_append steady_field.member hitems more, rfl⟩

end Teamwork.Snapshot
