import Teamwork.Proofs.Snapshot.Records

/-!
# JSON texts say one thing

A text of the JSON grammar has one tree. The grammar itself gives no hint where a value ends, but a
reader does: it passes over a value by looking at its characters only, and always stops where the
grammar says that the value ends. Two values at the start of one text are therefore equally long,
and what they say can be compared part by part.

The comparison is the same for elements of arrays and for members of objects, so it is made for
lists of any items that are `Definite`.

## Main definitions

* `Snapshot.Definite` — items that are told apart by their texts, whatever follows.

## Main results

* `Snapshot.eq_of_isList` — lists of definite items.
* `Snapshot.eq_of_isTree`, `Snapshot.eq_of_isText` — trees and whole texts.
-/

namespace Teamwork.Snapshot

open Text

/-! ### Strings -/

theorem eq_of_mem_hexDigits {c : Char} {d d' : Nat} (h : (c, d) ∈ Json.hexDigits)
    (h' : (c, d') ∈ Json.hexDigits) : d = d' :=
  Option.some.inj ((hexDigit?_of_mem h).symm.trans (hexDigit?_of_mem h'))

theorem eq_of_mem_shortEscapes {letter c c' : Char} (h : (letter, c) ∈ Json.shortEscapes)
    (h' : (letter, c') ∈ Json.shortEscapes) : c = c' := by
  have hread := (readEscape_short h []).symm.trans (readEscape_short h' [])
  exact (Prod.mk.inj (Except.ok.inj hread)).1

/-- The codes of a string are determined by its characters. -/
theorem eq_of_isBody {cs : List Char} {codes codes' : List Nat} (h : Json.IsBody cs codes)
    (h' : Json.IsBody cs codes') : codes = codes' := by
  have hletter : ∀ p ∈ Json.shortEscapes, p.1 ≠ 'u' := by decide
  induction h generalizing codes' with
  | nil =>
    cases h'
    rfl
  | char _ _ hslash _ ih =>
    cases h' with
    | char _ _ _ h' => rw [ih h']
    | short | unicode => exact absurd rfl hslash
  | short hmem _ ih =>
    cases h' with
    | char _ _ hslash _ => exact absurd rfl hslash
    | short hmem' h' => rw [ih h', eq_of_mem_shortEscapes hmem hmem']
    | unicode => exact absurd rfl (hletter _ hmem)
  | unicode h₁ h₂ h₃ h₄ _ ih =>
    cases h' with
    | char _ _ hslash _ => exact absurd rfl hslash
    | short hmem' _ => exact absurd rfl (hletter _ hmem')
    | unicode h₁' h₂' h₃' h₄' h' =>
      rw [ih h', eq_of_mem_hexDigits h₁ h₁', eq_of_mem_hexDigits h₂ h₂',
        eq_of_mem_hexDigits h₃ h₃', eq_of_mem_hexDigits h₄ h₄']

/-- Two strings at the start of one text have the same codes and the same text behind them. -/
theorem eq_of_isString {cs cs' : List Char} {codes codes' : List Nat} (h : Json.IsString cs codes)
    (h' : Json.IsString cs' codes') {rest rest' : List Char} (heq : cs ++ rest = cs' ++ rest') :
    codes = codes' ∧ rest = rest' := by
  obtain ⟨h⟩ := h
  obtain ⟨h'⟩ := h'
  simp only [List.cons_append, List.append_assoc, List.nil_append, List.cons.injEq,
    true_and] at heq
  have hskip := skipBody_of_isBody h rest
  rw [heq, skipBody_of_isBody h' rest'] at hskip
  obtain rfl := Except.ok.inj hskip
  obtain rfl := List.append_cancel_right heq
  exact ⟨eq_of_isBody h h', rfl⟩

/-! ### Lists -/

/-- Two items at the start of one text say the same and have the same text behind them. -/
def Definite {α : Type} (P Q : List Char → α → Prop) : Prop :=
  ∀ {cs cs' : List Char} {a b : α} {rest rest' : List Char}, P cs a → Q cs' b → Ends rest →
    Ends rest' → cs ++ rest = cs' ++ rest' → a = b ∧ rest = rest'

theorem skipBlanks_of_isList_nil {α : Type} {P : List Char → α → Prop} {cs : List Char}
    (h : Json.IsList P cs []) : skipBlanks cs = [] := by
  cases h with
  | empty hgap => exact (blank_of_isGap hgap).skipBlanks_eq

/-- Behind the blanks at its start, a list is an item, and behind that item there is nothing or a
comma and the list of the others. -/
theorem exists_of_isList_cons {α : Type} {P : List Char → α → Prop} {close : Char}
    (hstart : ∀ {cs a}, P cs a → StartsItem close cs) {cs : List Char} {a : α} {as : List α}
    (h : Json.IsList P cs (a :: as)) :
    ∃ first tail, P first a ∧ Ends tail ∧ skipBlanks cs = first ++ tail ∧
      (skipBlanks tail = [] ∧ as = [] ∨ ∃ rest, skipBlanks tail = ',' :: rest ∧
        Json.IsList P rest as) := by
  cases h with
  | last hgap hcs hgap' =>
    have hblank := blank_of_isGap hgap'
    refine ⟨_, _, hcs, hblank.ends, ?_, .inl ⟨hblank.skipBlanks_eq, rfl⟩⟩
    rw [List.append_assoc, (hstart hcs).skipBlanks_append (blank_of_isGap hgap)]
  | @more gap first gap' rest _ _ _ hgap hcs hgap' hrest =>
    have hblank := blank_of_isGap hgap'
    have hskip := hblank.skipBlanks_append_cons (show isBlank ',' = false by decide) rest
    refine ⟨_, _, hcs, ends_append hblank (ends_cons (by decide) rest), ?_, .inr ⟨_, hskip, hrest⟩⟩
    rw [List.append_assoc, List.append_assoc,
      (hstart hcs).skipBlanks_append (blank_of_isGap hgap)]

/-- **Lists of definite items say one thing.** -/
theorem eq_of_isList {α : Type} {P Q : List Char → α → Prop} {close : Char}
    (hP : ∀ {cs a}, P cs a → StartsItem close cs) (hQ : ∀ {cs a}, Q cs a → StartsItem close cs)
    (hitem : Definite P Q) {cs : List Char} {as bs : List α} (h : Json.IsList P cs as)
    (h' : Json.IsList Q cs bs) : as = bs := by
  have hempty : ∀ {first tail : List Char}, StartsItem close first → first ++ tail ≠ [] := by
    rintro _ tail ⟨c, cs, rfl, -⟩
    exact List.cons_ne_nil _ _
  induction as generalizing cs bs with
  | nil =>
    cases bs with
    | nil => rfl
    | cons b bs =>
      obtain ⟨first, tail, hfirst, -, hskip, -⟩ := exists_of_isList_cons hQ h'
      exact absurd (hskip.symm.trans (skipBlanks_of_isList_nil h)) (hempty (hQ hfirst))
  | cons a as ih =>
    obtain ⟨first, tail, hfirst, hends, hskip, htail⟩ := exists_of_isList_cons hP h
    cases bs with
    | nil => exact absurd (hskip.symm.trans (skipBlanks_of_isList_nil h')) (hempty (hP hfirst))
    | cons b bs =>
      obtain ⟨first', tail', hfirst', hends', hskip', htail'⟩ := exists_of_isList_cons hQ h'
      obtain ⟨rfl, rfl⟩ := hitem hfirst hfirst' hends hends' (hskip.symm.trans hskip')
      rcases htail with ⟨hnil, rfl⟩ | ⟨rest, hcomma, hrest⟩
      · rcases htail' with ⟨-, rfl⟩ | ⟨rest', hcomma', -⟩
        · rfl
        · exact absurd (hnil.symm.trans hcomma') (List.cons_ne_nil _ _).symm
      · rcases htail' with ⟨hnil', -⟩ | ⟨rest', hcomma', hrest'⟩
        · exact absurd (hnil'.symm.trans hcomma) (List.cons_ne_nil _ _).symm
        · obtain rfl : rest = rest' := (List.cons.inj (hcomma.symm.trans hcomma')).2
          rw [ih hrest hrest']

/-- Members with definite values are definite. -/
theorem Definite.isMember {α : Type} {P Q : List Char → α → Prop} {close : Char}
    (hP : ∀ {cs a}, P cs a → StartsItem close cs) (hQ : ∀ {cs a}, Q cs a → StartsItem close cs)
    (h : Definite P Q) : Definite (Json.IsMember P) (Json.IsMember Q) := by
  have hcolon : ∀ {gap : List Char} (behind : List Char), Json.IsGap gap →
      skipBlanks (gap ++ ':' :: behind) = ':' :: behind :=
    fun behind hgap => (blank_of_isGap hgap).skipBlanks_append_cons (by decide) behind
  intro _ _ _ _ rest rest' hm hm' hends hends' heq
  obtain @⟨key, gap₁, gap₂, cs, codes, a, hkey, hgap₁, hgap₂, hcs⟩ := hm
  obtain @⟨key', gap₁', gap₂', cs', codes', b, hkey', hgap₁', hgap₂', hcs'⟩ := hm'
  simp only [List.append_assoc, List.cons_append] at heq
  obtain ⟨rfl, hbehindKey⟩ := eq_of_isString hkey hkey' heq
  have hbehindColon := congrArg skipBlanks hbehindKey
  rw [hcolon _ hgap₁, hcolon _ hgap₁', List.cons.injEq] at hbehindColon
  have hvalue := congrArg skipBlanks hbehindColon.2
  rw [(hP hcs).skipBlanks_append (blank_of_isGap hgap₂),
    (hQ hcs').skipBlanks_append (blank_of_isGap hgap₂')] at hvalue
  obtain ⟨rfl, rfl⟩ := h hcs hcs' hends hends' hvalue
  exact ⟨rfl, rfl⟩

/-! ### Trees -/

/-- What a value that is neither a string nor between brackets says. -/
def scalarTree (cs : List Char) : Json.Tree :=
  if cs = "null".toList then .null
  else if cs = "true".toList then .boolean true
  else if cs = "false".toList then .boolean false
  else .number cs

theorem eq_scalarTree {cs : List Char} {t : Json.Tree} (h : Json.IsTree cs t) {c : Char}
    (hhead : cs.head? = some c) (hc : isScalar c = true) : t = scalarTree cs := by
  cases h with
  | null | true | false => rfl
  | number hn =>
    have hword : ∀ {word : String} {letter : Char}, word.toList.head? = some letter →
        letter ∉ Json.numberChars → cs ≠ word.toList := by
      rintro word letter hletter hnot rfl
      exact hnot (Json.mem_numberChars hn (List.mem_of_mem_head? hletter))
    rw [scalarTree, if_neg (hword (show _ = some 'n' from rfl) (by decide)),
      if_neg (hword (show _ = some 't' from rfl) (by decide)),
      if_neg (hword (show _ = some 'f' from rfl) (by decide))]
  | string hs =>
    obtain ⟨_⟩ := hs
    obtain rfl := Option.some.inj hhead
    exact absurd hc (by decide)
  | array | object =>
    obtain rfl := Option.some.inj hhead
    exact absurd hc (by decide)

/-- The first character of a value says of what kind it is. -/
theorem heads_of_head? {cs : List Char} {t : Json.Tree} (h : Json.IsTree cs t) {c : Char}
    (hc : cs.head? = some c) : Heads t c := by
  obtain ⟨d, cs', rfl, hd⟩ := heads_of_isTree h
  exact Option.some.inj hc ▸ hd

theorem exists_isString_of_head? {cs : List Char} {t : Json.Tree} (h : Json.IsTree cs t)
    (hc : cs.head? = some '"') : ∃ codes, t = .string codes ∧ Json.IsString cs codes := by
  have hhead := heads_of_head? h hc
  cases h with
  | string hs => exact ⟨_, rfl, hs⟩
  | null | true | false | number => exact absurd (show isScalar '"' = true from hhead) (by decide)
  | array => exact absurd (show '"' = '[' from hhead) (by decide)
  | object => exact absurd (show '"' = '\x7b' from hhead) (by decide)

theorem exists_elements_of_head? {cs : List Char} {t : Json.Tree} (h : Json.IsTree cs t)
    (hc : cs.head? = some '[') : ∃ inner elements, cs = '[' :: inner ++ [']'] ∧
      t = .array elements ∧ Json.IsList Json.IsTree inner elements := by
  have hhead := heads_of_head? h hc
  cases h with
  | array hl => exact ⟨_, _, rfl, rfl, hl⟩
  | null | true | false | number => exact absurd (show isScalar '[' = true from hhead) (by decide)
  | string => exact absurd (show '[' = '"' from hhead) (by decide)
  | object => exact absurd (show '[' = '\x7b' from hhead) (by decide)

theorem exists_members_of_head? {cs : List Char} {t : Json.Tree} (h : Json.IsTree cs t)
    (hc : cs.head? = some '\x7b') : ∃ inner members, cs = '\x7b' :: inner ++ ['\x7d'] ∧
      t = .object members ∧ Json.IsList (Json.IsMember Json.IsTree) inner members := by
  have hhead := heads_of_head? h hc
  cases h with
  | object hl => exact ⟨_, _, rfl, rfl, hl⟩
  | null | true | false | number =>
    exact absurd (show isScalar '\x7b' = true from hhead) (by decide)
  | string => exact absurd (show '\x7b' = '"' from hhead) (by decide)
  | array => exact absurd (show '\x7b' = '[' from hhead) (by decide)

/-- Two values at the start of one text end at the same place. -/
theorem eq_of_isTree_append {cs cs' : List Char} {t t' : Json.Tree} (h : Json.IsTree cs t)
    (h' : Json.IsTree cs' t') {rest rest' : List Char} (hends : Ends rest) (hends' : Ends rest')
    (heq : cs ++ rest = cs' ++ rest') : cs = cs' ∧ rest = rest' := by
  have hskip := skipValue_of_isTree h hends
  rw [heq, skipValue_of_isTree h' hends'] at hskip
  obtain rfl := Except.ok.inj hskip
  exact ⟨List.append_cancel_right heq, rfl⟩

/-- A text that is a value and says one thing only. -/
def Sole (cs : List Char) (t : Json.Tree) : Prop :=
  Json.IsTree cs t ∧ ∀ t', Json.IsTree cs t' → t = t'

theorem definite_sole : Definite Sole Json.IsTree := by
  intro _ _ t t' rest rest' h h' hends hends' heq
  obtain ⟨rfl, hrest⟩ := eq_of_isTree_append h.1 h' hends hends' heq
  exact ⟨h.2 t' h', hrest⟩

theorem sole_of_isScalar {cs : List Char} {t : Json.Tree} (h : Json.IsTree cs t) {c : Char}
    (hhead : cs.head? = some c) (hc : isScalar c = true) : Sole cs t := by
  refine ⟨h, ?_⟩
  intro t' h'
  rw [eq_scalarTree h hhead hc, eq_scalarTree h' hhead hc]

/-- Every value says one thing only. -/
theorem sole_of_isTree {cs : List Char} {t : Json.Tree} (h : Json.IsTree cs t) : Sole cs t := by
  refine Json.IsTree.induct (motive := Sole) ?null ?true ?false ?number ?string ?array ?object h
  case null => exact sole_of_isScalar .null (show _ = some 'n' from rfl) (by decide)
  case true => exact sole_of_isScalar .true (show _ = some 't' from rfl) (by decide)
  case false => exact sole_of_isScalar .false (show _ = some 'f' from rfl) (by decide)
  case number =>
    intro cs hn
    have hall := isScalar_of_isNumber hn
    obtain ⟨c, cs, rfl⟩ := List.exists_cons_of_ne_nil hn.ne_nil
    exact sole_of_isScalar (.number hn) rfl (List.all_eq_true.1 hall c List.mem_cons_self)
  case string =>
    intro cs codes hs
    refine ⟨.string hs, ?_⟩
    intro t' h'
    obtain ⟨codes', rfl, hs'⟩ := exists_isString_of_head? h' (by obtain ⟨_⟩ := hs; rfl)
    rw [(eq_of_isString hs hs' (rfl : cs ++ [] = cs ++ [])).1]
  case array =>
    intro cs elements hl
    refine ⟨.array (hl.imp And.left), ?_⟩
    intro t' h'
    obtain ⟨inner, elements', hinner, rfl, hl'⟩ := exists_elements_of_head? h' rfl
    obtain rfl : cs = inner := by simpa using hinner
    have hstart : ∀ {cs t}, Json.IsTree cs t → StartsItem ']' cs :=
      fun h => startsItem_of_isTree h (by decide)
    rw [eq_of_isList (fun h => hstart h.1) hstart definite_sole hl hl']
  case object =>
    intro cs members hl
    refine ⟨.object (hl.imp fun h => h.imp And.left), ?_⟩
    intro t' h'
    obtain ⟨inner, members', hinner, rfl, hl'⟩ := exists_members_of_head? h' rfl
    obtain rfl : cs = inner := by simpa using hinner
    have hstart : ∀ {cs t}, Json.IsTree cs t → StartsItem ']' cs :=
      fun h => startsItem_of_isTree h (by decide)
    rw [eq_of_isList startsItem_of_isMember startsItem_of_isMember
      (definite_sole.isMember (fun h => hstart h.1) hstart) hl hl']

/-- **Values are determined by their texts.** -/
theorem eq_of_isTree {cs : List Char} {t t' : Json.Tree} (h : Json.IsTree cs t)
    (h' : Json.IsTree cs t') : t = t' :=
  (sole_of_isTree h).2 t' h'

/-- **A JSON text says one thing.** -/
theorem eq_of_isText {cs : List Char} {t t' : Json.Tree} (h : Json.IsText cs t)
    (h' : Json.IsText cs t') : t = t' := by
  obtain @⟨gap₁, cs, gap₂, t, hgap₁, hcs, hgap₂⟩ := h
  generalize hwhole : gap₁ ++ cs ++ gap₂ = whole at h'
  obtain @⟨gap₁', cs', gap₂', t', hgap₁', hcs', hgap₂'⟩ := h'
  have hstart : ∀ {cs t}, Json.IsTree cs t → StartsItem ']' cs :=
    fun h => startsItem_of_isTree h (by decide)
  have hskip := congrArg skipBlanks hwhole
  rw [List.append_assoc, List.append_assoc, (hstart hcs).skipBlanks_append (blank_of_isGap hgap₁),
    (hstart hcs').skipBlanks_append (blank_of_isGap hgap₁')] at hskip
  obtain ⟨rfl, -⟩ := eq_of_isTree_append hcs hcs' (blank_of_isGap hgap₂).ends
    (blank_of_isGap hgap₂').ends hskip
  exact eq_of_isTree hcs hcs'

end Teamwork.Snapshot
