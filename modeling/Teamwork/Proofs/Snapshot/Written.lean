import Mathlib.Data.List.Forall2
import Teamwork.Proofs.Json.Grammar
import Teamwork.Snapshot.Writing

/-!
# A written snapshot is JSON

What the writer makes of a graph is a text of the JSON grammar, and this file says which tree it is.
Nothing here is about reading, so the tree can be used to say what any reader of JSON would find in
a snapshot; that our own reader finds the graph again is said elsewhere.

The writer puts its blanks and line breaks where the grammar allows them. Lists are written by
joining texts with a separator, and one lemma, `isList_joined`, turns a joined text into a list of
the grammar whatever the blanks are.

## Main definitions

* `Snapshot.recordTree`, `Snapshot.arrayMember`, `Snapshot.writtenMembers` — what is written, as
  trees.

## Main results

* `Snapshot.isString_writeString` — written strings.
* `Snapshot.exists_writeChars`, `Snapshot.isText_writeChars` — whole snapshots.
-/

namespace Teamwork.Snapshot

/-! ### Strings -/

/-- A control character is written with two zeros and its own two hexadecimal digits. -/
theorem escape_control : ∀ n < 32,
    (Nat.toDigits 16 n).leftpad 4 '0' = ['0', '0', (n / 16).digitChar, (n % 16).digitChar] := by
  decide

theorem digitChar_mem_hexDigits : ∀ d < 16, (d.digitChar, d) ∈ Json.hexDigits := by
  decide

/-- A written character stands for itself. -/
theorem isBody_escapeChar (c : Char) {cs : List Char} {codes : List Nat}
    (h : Json.IsBody cs codes) : Json.IsBody (escapeChar c ++ cs) (c.toNat :: codes) := by
  rw [escapeChar.eq_def]
  split
  · exact .short (by decide) h
  · exact .short (by decide) h
  · exact .short (by decide) h
  · exact .short (by decide) h
  · exact .short (by decide) h
  · next hslash hquote _ _ _ =>
    split
    · next hcontrol =>
      have hlt : c.toNat < 32 := hcontrol
      have hcode : c.toNat = ((0 * 16 + 0) * 16 + c.toNat / 16) * 16 + c.toNat % 16 := by omega
      rw [escape_control _ hlt]
      have hbody := Json.IsBody.unicode (digitChar_mem_hexDigits 0 (by decide))
        (digitChar_mem_hexDigits 0 (by decide))
        (digitChar_mem_hexDigits (c.toNat / 16) (by omega))
        (digitChar_mem_hexDigits (c.toNat % 16) (by omega)) h
      rw [← hcode] at hbody
      exact hbody
    · next hplain => exact .char (Char.not_lt.1 hplain) hquote hslash h

theorem isBody_escape (cs : List Char) :
    Json.IsBody (cs.flatMap escapeChar) (Json.codesOf cs) := by
  induction cs with
  | nil => exact .nil
  | cons c cs ih => exact isBody_escapeChar c ih

/-- A text is written as a string of its own codes. -/
theorem isString_writeString (s : String) :
    Json.IsString (writeString s) (Json.codesOf s.toList) :=
  .mk (isBody_escape s.toList)

/-! ### Lists -/

/-- Texts joined by a comma and blanks, with the same blanks before each of them, are a list of what
they say. -/
theorem isList_joined {α : Type} {item : List Char → α → Prop} {between before last : List Char}
    (hbetween : Json.IsGap between) (hbefore : Json.IsGap before) (hlast : Json.IsGap last)
    {texts : List (List Char)} {items : List α} (h : List.Forall₂ item texts items)
    (hne : texts ≠ []) {first : List Char} (hfirst : Json.IsGap first) :
    Json.IsList item
      (first ++ (',' :: between).intercalate (texts.map (before ++ ·)) ++ last) items := by
  have hgap : ∀ {gap}, Json.IsGap gap → Json.IsGap (gap ++ before) := fun hgap c hc =>
    (List.mem_append.1 hc).elim (hgap c) (hbefore c)
  induction h generalizing first with
  | nil => exact absurd rfl hne
  | @cons cs a texts items hitem hitems ih =>
    cases hitems with
    | nil =>
      rw [List.map_singleton, List.intercalate_singleton, ← List.append_assoc]
      exact .last (hgap hfirst) hitem hlast
    | @cons cs' a' texts items hitem' hitems =>
      have hrest := ih (List.cons_ne_nil _ _) hbetween
      have hmore := Json.IsList.more (hgap hfirst) hitem Json.isGap_nil hrest
      simpa [List.intercalate_cons_cons] using hmore

/-! ### Records, arrays and whole snapshots -/

/-- Fields as members of an object. -/
def fieldMembers (fields : List (String × String)) : List (List Nat × Json.Tree) :=
  fields.map fun (name, value) =>
    (Json.codesOf name.toList, .string (Json.codesOf value.toList))

/-- The tree of a record. -/
def recordTree (fields : List (String × String)) : Json.Tree :=
  .object (fieldMembers fields)

/-- The member of an array of records under its name. -/
def arrayMember (name : String) (records : List (List (String × String))) :
    List Nat × Json.Tree :=
  (Json.codesOf name.toList, .array (records.map recordTree))

/-- The members of a written snapshot. -/
def writtenMembers (g : Graph) : List (List Nat × Json.Tree) :=
  [arrayMember Names.employees (g.employees.values.map employeeFields),
    arrayMember Names.identities (g.identities.values.map identityFields),
    arrayMember Names.interactions (g.log.toList.map interactionFields)]

/-- A written record says what its fields are. -/
theorem isTree_writeRecord {fields : List (String × String)} (hne : fields ≠ []) :
    Json.IsTree (writeRecord fields) (recordTree fields) := by
  have hitems : List.Forall₂ (Json.IsMember Json.IsTree)
      (fields.map fun (name, value) => writeString name ++ ':' :: writeString value)
      (fieldMembers fields) := by
    rw [fieldMembers, List.forall₂_map_left_iff, List.forall₂_map_right_iff]
    refine List.forall₂_same.2 ?_
    intro field _
    have hmember := Json.IsMember.mk (isString_writeString field.1) Json.isGap_nil Json.isGap_nil
      (Json.IsTree.string (isString_writeString field.2))
    simpa using hmember
  have hlist := isList_joined Json.isGap_nil Json.isGap_nil Json.isGap_nil hitems
    (by simpa using hne) Json.isGap_nil
  simp only [List.nil_append, List.append_nil, List.map_id'] at hlist
  exact .object hlist

/-- A written array of records says what its records are, and stands behind two blanks. -/
theorem exists_writeArray {α : Type} (name : String) {fieldsOf : α → List (String × String)}
    (hne : ∀ a, fieldsOf a ≠ []) (as : List α) :
    ∃ cs, writeArray name (as.map fun a => writeRecord (fieldsOf a)) = [' ', ' '] ++ cs ∧
      Json.IsMember Json.IsTree cs (arrayMember name (as.map fieldsOf)) := by
  let records := as.map fun a => writeRecord (fieldsOf a)
  let inner := if records = [] then []
    else '\n' :: [',', '\n'].intercalate (records.map fun r => "    ".toList ++ r) ++
      ['\n', ' ', ' ']
  have hlist : Json.IsList Json.IsTree inner ((as.map fieldsOf).map recordTree) := by
    simp only [inner]
    split
    · next hnil =>
      rw [List.map_eq_nil_iff.1 hnil]
      exact .empty (by decide)
    · next hsome =>
      have hitems : List.Forall₂ Json.IsTree records ((as.map fieldsOf).map recordTree) := by
        rw [List.map_map, List.forall₂_map_left_iff, List.forall₂_map_right_iff]
        exact List.forall₂_same.2 fun a _ => isTree_writeRecord (hne a)
      exact isList_joined (show Json.IsGap ['\n'] by decide)
        (show Json.IsGap "    ".toList by decide) (show Json.IsGap ['\n', ' ', ' '] by decide)
        hitems hsome (show Json.IsGap ['\n'] by decide)
  have hmember := Json.IsMember.mk (isString_writeString name) Json.isGap_nil
    (show Json.IsGap [' '] by decide) (Json.IsTree.array hlist)
  refine ⟨_, ?_, hmember⟩
  simp [writeArray, inner, records]

/-- A written snapshot is an object and a line break behind it. -/
theorem exists_writeChars (g : Graph) :
    ∃ inner, writeChars g = '\x7b' :: inner ++ ['\x7d', '\n'] ∧
      Json.IsList (Json.IsMember Json.IsTree) inner (writtenMembers g) := by
  have hemployee : ∀ e, employeeFields e ≠ [] := fun _ => List.cons_ne_nil _ _
  have hidentity : ∀ i, identityFields i ≠ [] := fun _ => List.cons_ne_nil _ _
  have hinteraction : ∀ i, interactionFields i ≠ [] := fun _ => List.cons_ne_nil _ _
  obtain ⟨cs₁, hcs₁, h₁⟩ := exists_writeArray Names.employees hemployee g.employees.values
  obtain ⟨cs₂, hcs₂, h₂⟩ := exists_writeArray Names.identities hidentity g.identities.values
  obtain ⟨cs₃, hcs₃, h₃⟩ := exists_writeArray Names.interactions hinteraction g.log.toList
  have hitems : List.Forall₂ (Json.IsMember Json.IsTree) [cs₁, cs₂, cs₃] (writtenMembers g) :=
    .cons h₁ (.cons h₂ (.cons h₃ .nil))
  have hlist := isList_joined (show Json.IsGap ['\n'] by decide)
    (show Json.IsGap [' ', ' '] by decide) (show Json.IsGap ['\n'] by decide) hitems
    (List.cons_ne_nil _ _) (show Json.IsGap ['\n'] by decide)
  refine ⟨_, ?_, hlist⟩
  rw [writeChars, hcs₁, hcs₂, hcs₃]
  simp

/-- **A written snapshot is JSON.** -/
theorem isText_writeChars (g : Graph) :
    Json.IsText (writeChars g) (.object (writtenMembers g)) := by
  obtain ⟨inner, hwrite, hlist⟩ := exists_writeChars g
  have htext := Json.IsText.mk Json.isGap_nil (.object hlist)
    (show Json.IsGap ['\n'] by decide)
  rw [hwrite]
  simpa using htext

end Teamwork.Snapshot
