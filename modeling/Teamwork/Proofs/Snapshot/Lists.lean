import Mathlib.Data.List.Forall2
import Teamwork.Proofs.Snapshot.Strings

/-!
# Lists of items in a snapshot

Members of objects and elements of arrays are read by one loop, `Production.items`. Here is what the
loop does at each of its turns, and from that what it does on a list of the JSON grammar: if every
item is found where it stands, the items are found in order, and if one cannot be read, the loop
fails.

## Main definitions

* `Snapshot.StartsItem`, `Snapshot.Ends` — what the loop needs of the text of an item and of the
  text behind it.

## Main results

* `Snapshot.Production.items_close`, `Snapshot.Production.items_last`,
  `Snapshot.Production.items_more`, `Snapshot.Production.items_error` — one turn of the loop.
* `Snapshot.Production.finds_items` — a whole list.
-/

namespace Teamwork.Snapshot

open Text

/-! ### Blanks between items -/

/-- A run of characters that the reader takes for blanks. -/
def Blank (cs : List Char) : Prop :=
  ∀ c ∈ cs, isBlank c = true

theorem Blank.nil : Blank [] := fun _ h => absurd h List.not_mem_nil

theorem Blank.append {cs cs' : List Char} (h : Blank cs) (h' : Blank cs') : Blank (cs ++ cs') :=
  fun c hc => (List.mem_append.1 hc).elim (h c) (h' c)

theorem blank_of_isGap {cs : List Char} (h : Json.IsGap cs) : Blank cs := by
  intro c hc
  have all : [' ', '\t', '\n', '\r'].all isBlank = true := by decide
  exact List.all_eq_true.1 all c (h c hc)

theorem skipBlanks_append {gap : List Char} (h : Blank gap) (cs : List Char) :
    skipBlanks (gap ++ cs) = skipBlanks cs :=
  List.dropWhile_append_of_pos h

theorem Blank.skipBlanks_append_cons {gap : List Char} (h : Blank gap) {c : Char}
    (hc : isBlank c = false) (rest : List Char) : skipBlanks (gap ++ c :: rest) = c :: rest := by
  rw [skipBlanks_append h, skipBlanks_cons_of_not hc]

/-- The text starts with a character that is neither blank nor the closing bracket. -/
def StartsItem (close : Char) (cs : List Char) : Prop :=
  ∃ c cs', cs = c :: cs' ∧ isBlank c = false ∧ c ≠ close

/-- A bare value ends in front of this text. -/
def Ends (rest : List Char) : Prop :=
  ∀ c ∈ rest.head?, isBare c = false

theorem Ends.nil : Ends [] := fun _ h => nomatch h

theorem ends_cons {c : Char} (h : isBare c = false) (rest : List Char) : Ends (c :: rest) :=
  fun _ hc => Option.some.inj hc ▸ h

theorem Ends.dropWhile_eq {rest : List Char} (h : Ends rest) : rest.dropWhile isBare = rest := by
  cases rest with
  | nil => rfl
  | cons c rest => simp [h c rfl]

theorem ends_append {gap : List Char} (hgap : Blank gap) {rest : List Char} (h : Ends rest) :
    Ends (gap ++ rest) := by
  cases gap with
  | nil => exact h
  | cons c gap => exact ends_cons (by simp [isBare, hgap c List.mem_cons_self]) _

theorem Blank.skipBlanks_eq {cs : List Char} (h : Blank cs) : skipBlanks cs = [] := by
  have := skipBlanks_append h []
  rwa [List.append_nil] at this

theorem Blank.ends {cs : List Char} (h : Blank cs) : Ends cs := by
  have := ends_append h .nil
  rwa [List.append_nil] at this

theorem StartsItem.skipBlanks_append {close : Char} {cs : List Char} (h : StartsItem close cs)
    {gap : List Char} (hgap : Blank gap) (rest : List Char) :
    skipBlanks (gap ++ (cs ++ rest)) = cs ++ rest := by
  obtain ⟨c, cs, rfl, hc, -⟩ := h
  exact hgap.skipBlanks_append_cons hc _

theorem StartsItem.head?_ne {close : Char} {cs : List Char} (h : StartsItem close cs)
    (rest : List Char) : (cs ++ rest).head? ≠ some close := by
  obtain ⟨c, cs, rfl, -, hc⟩ := h
  exact fun h => hc (Option.some.inj h)

/-! ### One turn of the loop -/

namespace Production

variable {α β : Type} (item : Production β) {close : Char}

theorem items_close (hclose : isBlank close = false) {gap : List Char} (hgap : Blank gap)
    (acc : List β) (rest : List Char) :
    item.items close acc (gap ++ close :: rest) = .ok (acc.reverse, rest) := by
  have hskip := hgap.skipBlanks_append_cons hclose rest
  rw [items, if_pos (by rw [hskip]; rfl), hskip]
  rfl

/-- A turn that does not find the closing bracket reads an item and looks behind it. -/
theorem items_turn {cs : List Char} (hclose : (skipBlanks cs).head? ≠ some close) (acc : List β) :
    item.items close acc cs =
      match item.read (skipBlanks cs) with
      | .error fault => .error fault
      | .ok (b, rest) =>
        if (skipBlanks rest).head? = some ',' then
          item.items close (b :: acc) (skipBlanks rest).tail
        else
          (expect close (skipBlanks rest)).map fun rest => ((b :: acc).reverse, rest) := by
  rw [items, if_neg hclose]
  split
  · next h => rw [h]
  · next b rest h =>
    rw [h]
    dsimp only
    split
    · rfl
    · cases expect close (skipBlanks rest) <;> rfl

theorem items_more {gap gap' cs rest : List Char} (hgap : Blank gap) (hgap' : Blank gap')
    (hstart : StartsItem close cs) {b : β}
    (hread : item.read (cs ++ (gap' ++ ',' :: rest)) = .ok (b, gap' ++ ',' :: rest))
    (acc : List β) :
    item.items close acc (gap ++ (cs ++ (gap' ++ ',' :: rest))) =
      item.items close (b :: acc) rest := by
  have hskip := hstart.skipBlanks_append hgap (gap' ++ ',' :: rest)
  have hskip' := hgap'.skipBlanks_append_cons (show isBlank ',' = false by decide) rest
  rw [items_turn item (by rw [hskip]; exact hstart.head?_ne _), hskip, hread]
  dsimp only
  rw [hskip', if_pos List.head?_cons, List.tail_cons]

theorem items_last (hclose : isBlank close = false) (hcomma : close ≠ ',')
    {gap gap' cs rest : List Char} (hgap : Blank gap) (hgap' : Blank gap')
    (hstart : StartsItem close cs) {b : β}
    (hread : item.read (cs ++ (gap' ++ close :: rest)) = .ok (b, gap' ++ close :: rest))
    (acc : List β) :
    item.items close acc (gap ++ (cs ++ (gap' ++ close :: rest))) =
      .ok ((b :: acc).reverse, rest) := by
  have hskip := hstart.skipBlanks_append hgap (gap' ++ close :: rest)
  have hskip' := hgap'.skipBlanks_append_cons hclose rest
  rw [items_turn item (by rw [hskip]; exact hstart.head?_ne _), hskip, hread]
  dsimp only
  rw [hskip', List.head?_cons, if_neg fun h => hcomma (Option.some.inj h),
    expect_eq_ok_iff.2 rfl]
  rfl

theorem items_error {gap cs rest : List Char} (hgap : Blank gap) (hstart : StartsItem close cs)
    {fault : Fault} (hread : item.read (cs ++ rest) = .error fault) (acc : List β) :
    item.items close acc (gap ++ (cs ++ rest)) = .error fault := by
  have hskip := hstart.skipBlanks_append hgap rest
  rw [items_turn item (by rw [hskip]; exact hstart.head?_ne _), hskip, hread]

/-- Items read before do not matter to the loop; they only stand in front of those it finds. -/
theorem items_acc (close : Char) (acc bs : List β) (cs : List Char) :
    item.items close (bs ++ acc) cs =
      (item.items close bs cs).map fun p => (acc.reverse ++ p.1, p.2) := by
  fun_induction items item close bs cs with
  | case1 bs cs hclose =>
    rw [items, if_pos hclose]
    simp [Except.map]
  | case2 bs cs hclose fault hread =>
    rw [items_turn item hclose, hread]
    rfl
  | case3 bs cs hclose b rest hread hcomma ih =>
    rw [items_turn item hclose, hread]
    dsimp only
    rw [if_pos hcomma, ← List.cons_append, ih]
  | case4 bs cs hclose b rest hread hcomma fault hexpect =>
    rw [items_turn item hclose, hread]
    dsimp only
    rw [if_neg hcomma, hexpect]
    rfl
  | case5 bs cs hclose b rest hread hcomma rest' hexpect =>
    rw [items_turn item hclose, hread]
    dsimp only
    rw [if_neg hcomma, hexpect]
    simp [Except.map]

/-! ### A whole list -/

/-- Nothing is found in a list if nothing is found in its first item. -/
theorem not_forall₂_cons {R : α → β → Prop} {a : α} (h : ∀ b, ¬R a b) {as : List α} {bs : List β} :
    ¬List.Forall₂ R (a :: as) bs := by
  intro hbs
  obtain ⟨b, _, hb, -, -⟩ := List.forall₂_cons_left_iff.1 hbs
  exact h b hb

/-- **The loop on a list of the grammar.** If each item is found where it stands, or cannot be read
because nothing is to be found there, then the same holds of the whole list. -/
theorem finds_items (hclose : isBlank close = false) (hcomma : close ≠ ',')
    (hbare : isBare close = false) {P : List Char → α → Prop} {R : α → β → Prop}
    (hstart : ∀ {cs a}, P cs a → StartsItem close cs)
    (hread : ∀ {cs a}, P cs a → ∀ rest, Ends rest → Finds (item.read (cs ++ rest)) (R a) rest)
    {cs : List Char} {as : List α} (h : Json.IsList P cs as) (acc : List β) (rest : List Char) :
    Finds (item.items close acc (cs ++ close :: rest))
      (fun bs => ∃ bs', List.Forall₂ R as bs' ∧ bs = acc.reverse ++ bs') rest := by
  induction h generalizing acc with
  | empty hgap =>
    exact .inl ⟨_, ⟨[], .nil, by simp⟩, item.items_close hclose (blank_of_isGap hgap) acc rest⟩
  | @last gap cs gap' a hgap hcs hgap' =>
    have hends : Ends (gap' ++ close :: rest) :=
      ends_append (blank_of_isGap hgap') (ends_cons hbare _)
    simp only [List.append_assoc]
    rcases hread hcs _ hends with ⟨b, hb, hr⟩ | ⟨hnone, fault, hr⟩
    · refine .inl ⟨_, ⟨[b], .cons hb .nil, List.reverse_cons⟩, ?_⟩
      exact item.items_last hclose hcomma (blank_of_isGap hgap) (blank_of_isGap hgap')
        (hstart hcs) hr acc
    · refine .inr ⟨?_, fault, item.items_error (blank_of_isGap hgap) (hstart hcs) hr acc⟩
      rintro bs ⟨bs', hbs, -⟩
      exact not_forall₂_cons hnone hbs
  | @more gap cs gap' cs' a a' as hgap hcs hgap' _ ih =>
    have hends : Ends (gap' ++ ',' :: (cs' ++ close :: rest)) :=
      ends_append (blank_of_isGap hgap') (ends_cons (by decide) _)
    simp only [List.append_assoc, List.cons_append]
    rcases hread hcs _ hends with ⟨b, hb, hr⟩ | ⟨hnone, fault, hr⟩
    · rw [item.items_more (blank_of_isGap hgap) (blank_of_isGap hgap') (hstart hcs) hr]
      rcases ih (b :: acc) with ⟨bs, ⟨bs', hbs, rfl⟩, hr'⟩ | ⟨hnone, fault, hr'⟩
      · exact .inl ⟨_, ⟨b :: bs', .cons hb hbs, by simp⟩, hr'⟩
      · refine .inr ⟨?_, fault, hr'⟩
        rintro bs ⟨_, hbs, -⟩
        obtain ⟨_, bs', -, hbs', -⟩ := List.forall₂_cons_left_iff.1 hbs
        exact hnone _ ⟨bs', hbs', rfl⟩
    · refine .inr ⟨?_, fault, item.items_error (blank_of_isGap hgap) (hstart hcs) hr acc⟩
      rintro bs ⟨_, hbs, -⟩
      exact not_forall₂_cons hnone hbs

end Production

end Teamwork.Snapshot
