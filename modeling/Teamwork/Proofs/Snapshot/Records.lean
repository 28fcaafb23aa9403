import Teamwork.Proofs.Snapshot.Trees

/-!
# Objects as records

What the reader of snapshots makes of an object of the JSON grammar. What there is to be found is
said in terms of trees alone: `lastNamed` says what the last member of a name holds, and `Legible`
which objects can be read at all. Neither knows how a text is read.

Members are found in the same way whether the reader looks for strings, as in a record, or for
arrays, as at the top of a snapshot. `finds_members` and `rel_lastValue` are therefore stated for
any reader of values and any notion `R` of what it makes of a tree.

## Main definitions

* `Snapshot.lastNamed` — what the last member of a name holds.
* `Snapshot.Legible` — objects whose keys and strings all stand for texts.
* `Snapshot.IsMemberOf`, `Snapshot.IsFieldOf` — a member, and a value of a record, as found.

## Main results

* `Snapshot.finds_members` — the members of an object.
* `Snapshot.rel_lastValue` — what is collected under a name.
* `Snapshot.finds_readRecord` — whole records.
-/

namespace Teamwork.Snapshot

open Text

/-! ### What is to be found in a tree -/

/-- The text of a string, if it stands for one. -/
def textOf : Json.Tree → Option String
  | .string codes => (Json.decode codes).map String.ofList
  | _ => none

/-- The keys of an object and its strings stand for texts: half of a surrogate pair is nowhere
without the other half. What is inside of arrays and objects does not matter. -/
def Legible (members : List (List Nat × Json.Tree)) : Prop :=
  ∀ m ∈ members, (∃ key, Json.decode m.1 = some key) ∧
    ∀ codes, m.2 = .string codes → ∃ text, Json.decode codes = some text

/-- What the last of the members with this name holds, members that hold nothing of the kind left
out. -/
def lastNamed {α : Type} (holds : Json.Tree → Option α) (members : List (List Nat × Json.Tree))
    (name : String) : Option α :=
  members.reverse.findSome? fun (key, t) =>
    if Json.decode key = some name.toList then holds t else none

/-! ### Members -/

theorem Finds.map {α β : Type} {result : Except Fault (α × List Char)} {P : α → Prop}
    {rest : List Char} (h : Finds result P rest) {Q : β → Prop} {f : α → β}
    (hf : ∀ a, P a → Q (f a)) (hQ : ∀ b, Q b → ∃ a, P a) :
    Finds (result.map fun (a, rest) => (f a, rest)) Q rest := by
  rcases h with ⟨a, ha, rfl⟩ | ⟨hnone, fault, rfl⟩
  · exact .inl ⟨f a, hf a ha, rfl⟩
  · refine .inr ⟨?_, fault, rfl⟩
    intro b hb
    obtain ⟨a, ha⟩ := hQ b hb
    exact hnone a ha

/-- A member as it is found: its key is a text, and its value is found as `R` says. -/
def IsMemberOf {α : Type} (R : Json.Tree → α → Prop) (m : List Nat × Json.Tree) (p : String × α) :
    Prop :=
  Json.decode m.1 = some p.1.toList ∧ R m.2 p.2

theorem startsItem_of_isMember {P : List Char → Json.Tree → Prop} {cs : List Char}
    {m : List Nat × Json.Tree} (h : Json.IsMember P cs m) : StartsItem '\x7d' cs := by
  obtain ⟨⟨_⟩, -, -, -⟩ := h
  exact ⟨'"', _, rfl, by decide, by decide⟩

/-- A member is found if its key is legible and its value is found. -/
theorem finds_member {α : Type} {value : Production α} {R : Json.Tree → α → Prop}
    (hvalue : ∀ {cs t}, Json.IsTree cs t → ∀ rest, Ends rest →
      Finds (value.read (cs ++ rest)) (R t) rest)
    {cs : List Char} {m : List Nat × Json.Tree} (h : Json.IsMember Json.IsTree cs m)
    (rest : List Char) (hrest : Ends rest) :
    Finds ((member value).read (cs ++ rest)) (IsMemberOf R m) rest := by
  obtain @⟨key, gap, gap', cs, codes, t, hkey, hgap, hgap', hcs⟩ := h
  have hskip :
      skipBlanks (gap ++ ':' :: (gap' ++ (cs ++ rest))) = ':' :: (gap' ++ (cs ++ rest)) :=
    (blank_of_isGap hgap).skipBlanks_append_cons (by decide) _
  have hskip' : skipBlanks (gap' ++ (cs ++ rest)) = cs ++ rest :=
    (startsItem_of_isTree hcs (by decide) : StartsItem ']' cs).skipBlanks_append
      (blank_of_isGap hgap') rest
  simp only [List.append_assoc, List.cons_append, member, readMember]
  rcases finds_readString hkey (gap ++ ':' :: (gap' ++ (cs ++ rest))) with
    ⟨s, hs, hread⟩ | ⟨hnone, fault, hread⟩
  · rw [hread]
    dsimp only
    rw [hskip, expect_eq_ok_iff.2 rfl]
    dsimp only
    rw [hskip']
    exact (hvalue hcs rest hrest).map (f := fun a => (s, a)) (fun a ha => ⟨hs, ha⟩)
      fun p hp => ⟨p.2, hp.2⟩
  · rw [hread]
    exact .inr ⟨fun p hp => hnone p.1 hp.1, fault, rfl⟩

/-- The members of an object are found if each of them is. -/
theorem finds_members {α : Type} {value : Production α} {R : Json.Tree → α → Prop}
    (hvalue : ∀ {cs t}, Json.IsTree cs t → ∀ rest, Ends rest →
      Finds (value.read (cs ++ rest)) (R t) rest)
    {cs : List Char} {members : List (List Nat × Json.Tree)}
    (h : Json.IsList (Json.IsMember Json.IsTree) cs members) (rest : List Char) :
    Finds ((member value).items '\x7d' [] (cs ++ '\x7d' :: rest))
      (List.Forall₂ (IsMemberOf R) members) rest := by
  have := (member value).finds_items (P := Json.IsMember Json.IsTree) (R := IsMemberOf R)
    (by decide) (by decide) (by decide) startsItem_of_isMember (finds_member hvalue) h [] rest
  simpa using this

/-! ### Collecting members -/

theorem lastNamed_cons {α : Type} (holds : Json.Tree → Option α) (m : List Nat × Json.Tree)
    (members : List (List Nat × Json.Tree)) (name : String) :
    lastNamed holds (m :: members) name =
      (lastNamed holds members name).or
        (if Json.decode m.1 = some name.toList then holds m.2 else none) := by
  rw [lastNamed, List.reverse_cons, List.findSome?_append, List.findSome?_singleton]
  rfl

/-- What the last of the members read under this name has, those without a value left out. -/
def lastValue {α : Type} (found : List (String × Option α)) (name : String) : Option α :=
  found.reverse.findSome? fun (key, v) => if key = name then v else none

theorem lastValue_cons {α : Type} (p : String × Option α) (found : List (String × Option α))
    (name : String) :
    lastValue (p :: found) name = (lastValue found name).or (if p.1 = name then p.2 else none) := by
  rw [lastValue, List.reverse_cons, List.findSome?_append, List.findSome?_singleton]
  rfl

theorem getElem?_collect {α : Type} (found : List (String × Option α)) (name : String) :
    (collect found)[name]? = lastValue found name := by
  have hempty : lastValue found name =
      (lastValue found name).or (∅ : Std.ExtTreeMap String α)[name]? := by
    rw [Std.ExtTreeMap.getElem?_empty, Option.or_none]
  rw [hempty, collect]
  clear hempty
  -- the members go into any map in the same way, and only so can the induction go through
  generalize (∅ : Std.ExtTreeMap String α) = init
  induction found generalizing init with
  | nil => rfl
  | cons p found ih =>
    rw [List.foldl_cons, ih, lastValue_cons, Option.or_assoc]
    congr 1
    obtain ⟨key, v⟩ := p
    cases v with
    | none => simp
    | some a =>
      dsimp only
      rw [Std.ExtTreeMap.getElem?_insert]
      by_cases hname : key = name <;> simp [hname]

theorem rel_or {α β : Type} {S : α → β → Prop} {a a' : Option α} {b b' : Option β}
    (h : Option.Rel S a b) (h' : Option.Rel S a' b') : Option.Rel S (a.or a') (b.or b') := by
  cases h with
  | some h => exact .some h
  | none => simpa using h'

theorem exists_of_rel_some {α β : Type} {S : α → β → Prop} {a : α} {b : Option β}
    (h : Option.Rel S (some a) b) : ∃ c, b = some c ∧ S a c := by
  cases h with
  | some h => exact ⟨_, rfl, h⟩

theorem eq_of_rel_eq {α : Type} {a b : Option α} (h : Option.Rel Eq a b) : a = b := by
  cases h with
  | some h => rw [h]
  | none => rfl

/-- What is read under a name is what the last member of the name holds. -/
theorem rel_lastValue {α β : Type} {R : Json.Tree → Option α → Prop} {holds : Json.Tree → Option β}
    {S : β → α → Prop} (hR : ∀ {t v}, R t v → Option.Rel S (holds t) v)
    {members : List (List Nat × Json.Tree)} {found : List (String × Option α)}
    (h : List.Forall₂ (IsMemberOf R) members found) (name : String) :
    Option.Rel S (lastNamed holds members name) (lastValue found name) := by
  induction h with
  | nil => exact .none
  | @cons m p members found hm _ ih =>
    rw [lastNamed_cons, lastValue_cons, hm.1]
    simp only [Option.some.injEq, String.toList_inj]
    refine rel_or ih ?_
    split
    · exact hR hm.2
    · exact .none

/-! ### Records -/

/-- A value of a record as it is found: the text of a string, or nothing. -/
def IsFieldOf (t : Json.Tree) (v : Option String) : Prop :=
  (∀ codes, t = .string codes → ∃ text, Json.decode codes = some text) ∧ v = textOf t

theorem finds_field {cs : List Char} {t : Json.Tree} (h : Json.IsTree cs t) (rest : List Char)
    (hrest : Ends rest) : Finds (field.read (cs ++ rest)) (IsFieldOf t) rest := by
  have hskip := skipValue_of_isTree h hrest
  obtain ⟨c, cs', rfl, hc⟩ := heads_of_isTree h
  rw [List.cons_append] at hskip ⊢
  change Finds (readField (c :: (cs' ++ rest))) _ rest
  rw [readField]
  rw [List.head?_cons]
  cases t with
  | string codes =>
    obtain rfl : c = '"' := hc
    cases h with
    | string hs =>
      rw [if_pos rfl, ← List.cons_append]
      refine (finds_readString hs rest).map ?_ ?_
      · intro s hs
        constructor
        · intro _ ht
          exact ⟨_, Json.Tree.string.inj ht ▸ hs⟩
        · rw [textOf, hs, Option.map_some, String.ofList_toList]
      · intro v hv
        obtain ⟨text, htext⟩ := hv.1 codes rfl
        exact ⟨String.ofList text, by rw [htext, String.toList_ofList]⟩
  | array | object =>
    obtain rfl := hc
    rw [if_neg (by decide), hskip]
    exact .inl ⟨none, ⟨fun _ ht => (nomatch ht), rfl⟩, rfl⟩
  | null | boolean | number =>
    rw [if_neg (fun h => (isScalar_iff.1 hc).2.2 (Option.some.inj h)), hskip]
    exact .inl ⟨none, ⟨fun _ ht => (nomatch ht), rfl⟩, rfl⟩

/-- The members of an object can be found exactly if it is legible. -/
theorem exists_members_iff {members : List (List Nat × Json.Tree)} :
    (∃ found, List.Forall₂ (IsMemberOf IsFieldOf) members found) ↔ Legible members := by
  constructor
  · rintro ⟨found, h⟩
    induction h with
    | nil => exact fun m hm => absurd hm List.not_mem_nil
    | cons hm _ ih => exact List.forall_mem_cons.2 ⟨⟨⟨_, hm.1⟩, hm.2.1⟩, ih⟩
  · intro h
    induction members with
    | nil => exact ⟨[], .nil⟩
    | cons m members ih =>
      obtain ⟨⟨⟨key, hkey⟩, htext⟩, hrest⟩ := List.forall_mem_cons.1 h
      obtain ⟨found, hfound⟩ := ih hrest
      refine ⟨(String.ofList key, textOf m.2) :: found, .cons ⟨?_, htext, rfl⟩ hfound⟩
      rw [hkey, String.toList_ofList]

theorem getElem?_collect_fields {members : List (List Nat × Json.Tree)}
    {found : List (String × Option String)}
    (h : List.Forall₂ (IsMemberOf IsFieldOf) members found) (name : String) :
    (collect found)[name]? = lastNamed textOf members name := by
  have hR : ∀ {t v}, IsFieldOf t v → Option.Rel Eq (textOf t) v := by
    intro t v hv
    rw [hv.2]
    cases textOf t with
    | none => exact .none
    | some s => exact .some rfl
  rw [getElem?_collect]
  exact (eq_of_rel_eq (rel_lastValue (R := IsFieldOf) hR h name)).symm

/-- A legible object stands for a record. -/
theorem Legible.exists_fields {members : List (List Nat × Json.Tree)} (h : Legible members) :
    ∃ fields : Fields, ∀ name, fields[name]? = lastNamed textOf members name := by
  obtain ⟨found, hfound⟩ := exists_members_iff.2 h
  exact ⟨collect found, getElem?_collect_fields hfound⟩

/-- A legible object is read as the record of its strings; any other object cannot be read. -/
theorem finds_readRecord {cs : List Char} {members : List (List Nat × Json.Tree)}
    (h : Json.IsTree cs (.object members)) (rest : List Char) :
    Finds (readRecord (cs ++ rest))
      (fun fields => Legible members ∧ ∀ name, fields[name]? = lastNamed textOf members name)
      rest := by
  cases h with
  | object hl =>
    simp only [List.cons_append, List.append_assoc, List.nil_append, readRecord,
      expect_eq_ok_iff.2 rfl]
    refine (finds_members finds_field hl rest).map ?_ ?_
    · intro found hfound
      exact ⟨exists_members_iff.1 ⟨found, hfound⟩, getElem?_collect_fields hfound⟩
    · rintro fields ⟨hlegible, -⟩
      exact exists_members_iff.2 hlegible

end Teamwork.Snapshot
