import Teamwork.Proofs.Drawing.Quotes
import Teamwork.Settings

/-!
# The name of a graph in the header

An id of the DOT language is a word without quotes, made of letters, digits and underscores, or any
text between double quotes. A few words belong to the language itself, in any case, and are no ids
unless they are quoted.

A name that is not a word is quoted, and then it is an id whatever it consists of. A name that is a
word stands in the header as it is. Whether it is one of the words of the language is not asked, and
the check of the settings does not ask either. So the header has an id just if the name is none of
them. Nothing else can go wrong, since a name that needs quotes is never such a word.

## Main definitions

* `Dot.reserved` — the words of the language.
* `Dot.IsWord`, `Dot.IsQuoted`, `Dot.IsId` — the ids of the language.
* `Dot.headerId?` — what a header has in the place of an id.

## Main results

* `Dot.isQuoted_quote` — a quoted text is an id.
* `Dot.headerId?_draw` — a header has the name of the graph, quoted if it is not a word.
* `Dot.isId_headerId_iff` — a header has an id just if the name is not one of the words of the
  language.
-/

namespace Teamwork.Dot

open Drawing

/-! ### Ids of the language -/

/-- The words of the language, in lower case. -/
def reserved : List String :=
  ["node", "edge", "graph", "digraph", "subgraph", "strict"]

/-- A letter or an underscore, and then letters, digits and underscores. -/
def IsWord (cs : List Char) : Prop :=
  ∃ c rest, cs = c :: rest ∧ (c.isAlpha = true ∨ c = '_') ∧
    ∀ d ∈ rest, d.isAlphanum = true ∨ d = '_'

/-- A text in double quotes. -/
structure IsQuoted (cs : List Char) : Prop where
  /-- It starts and ends with a quote. -/
  enclosed : ∃ body, cs = '"' :: (body ++ ['"'])
  /-- Just the first and the last of its quotes are not escaped. -/
  escapesNext_eq_false_iff : ∀ before after, cs = before ++ '"' :: after →
    (escapesNext before = false ↔ before = [] ∨ after = [])

/-- An id of the language. -/
inductive IsId (cs : List Char) : Prop where
  /-- A word that is not one of the language, in whatever case. -/
  | word (h : IsWord cs) (hfree : Text.lower (String.ofList cs) ∉ reserved)
  /-- A quoted text. -/
  | quoted (h : IsQuoted cs)

theorem IsQuoted.not_isWord {cs : List Char} (h : IsQuoted cs) : ¬IsWord cs := by
  rintro ⟨c, rest, rfl, hc, -⟩
  obtain ⟨body, heq⟩ := h.enclosed
  rw [(List.cons.inj heq).1] at hc
  exact absurd hc (by decide)

theorem isId_iff_of_isWord {cs : List Char} (h : IsWord cs) :
    IsId cs ↔ Text.lower (String.ofList cs) ∉ reserved := by
  constructor
  · rintro (⟨-, hfree⟩ | hquoted)
    · exact hfree
    · exact absurd h hquoted.not_isWord
  · exact .word h

/-! ### Names -/

theorem isWord_of_isBare {name : String} (h : isBare name = true) : IsWord name.toList := by
  rw [isBare] at h
  split at h
  · cases h
  · next c cs hname =>
    simp only [Bool.and_eq_true, Bool.not_eq_true', List.all_cons, Bool.or_eq_true,
      decide_eq_true_eq, List.all_eq_true, Char.isAlphanum] at h
    obtain ⟨hdigit, hc, hcs⟩ := h
    refine ⟨c, cs, hname, ?_, fun d hd => ?_⟩
    · simpa [hdigit] using hc
    · simpa [Char.isAlphanum] using hcs d hd

/-- **A quoted text is an id**, whatever it consists of. -/
theorem isQuoted_quote (s : String) : IsQuoted (quote s) := by
  have hlabel : IsQuotable (label ['\\', 'n'] s) :=
    isQuotable_label (isQuotable_of_not_mem (by decide) (by decide)) s
  -- The first quote does not count for the backslashes in front of another.
  have hfirst (cs : List Char) : escapesNext ('"' :: cs) = escapesNext cs :=
    @escapesNext_append ['"'] rfl cs
  refine ⟨⟨_, rfl⟩, ?_⟩
  intro before after heq
  cases before with
  | nil => simp [escapesNext]
  | cons c before =>
    rw [quote, List.cons_append, List.cons_append, List.cons.injEq] at heq
    obtain ⟨rfl, heq⟩ := heq
    rw [hfirst]
    rcases List.eq_nil_or_concat' after with rfl | ⟨middle, d, rfl⟩
    · obtain ⟨hbody, -⟩ := List.append_inj' heq rfl
      simp [← hbody, hlabel.closed]
    · rw [← List.cons_append, ← List.append_assoc] at heq
      obtain ⟨hbody, -⟩ := List.append_inj' heq rfl
      simp [hlabel.escaped hbody]

/-- A letter in lower case comes from a letter. -/
theorem isAlpha_of_isLower_toLower {c : Char} (h : c.toLower.isLower = true) :
    c.isAlpha = true := by
  by_cases hupper : c.isUpper = true
  · exact Bool.or_eq_true_iff.2 (.inl hupper)
  · have hsame : c.toLower = c := dif_neg fun hrange => hupper (decide_eq_true hrange)
    rw [hsame] at h
    exact Bool.or_eq_true_iff.2 (.inr h)

theorem not_isDigit_of_isAlpha {c : Char} (h : c.isAlpha = true) : c.isDigit = false := by
  have hbounds : '9'.val.toNat = 57 ∧ 'A'.val.toNat = 65 ∧ 'a'.val.toNat = 97 := by decide
  have hletter : 'A'.val ≤ c.val ∨ 'a'.val ≤ c.val := by
    rcases Bool.or_eq_true_iff.1 h with hupper | hlower
    · exact .inl (of_decide_eq_true hupper).1
    · exact .inr (of_decide_eq_true (Bool.and_eq_true_iff.1 hlower).1)
  refine Bool.eq_false_iff.2 fun hdigit => ?_
  have hlast : c.val ≤ '9'.val := of_decide_eq_true (Bool.and_eq_true_iff.1 hdigit).2
  rw [UInt32.le_iff_toNat_le] at hlast
  rw [UInt32.le_iff_toNat_le, UInt32.le_iff_toNat_le] at hletter
  omega

/-- The words of the language need no quotes. -/
theorem isBare_of_mem_reserved {name : String} (h : Text.lower name ∈ reserved) :
    isBare name = true := by
  have hreserved : ∀ w ∈ reserved, w.toList ≠ [] ∧ w.toList.all Char.isLower = true := by decide
  obtain ⟨hne, hlower⟩ := hreserved _ h
  rw [List.all_eq_true] at hlower
  rw [Text.lower, String.toList_ofList] at hne hlower
  have halpha : ∀ c ∈ name.toList, c.isAlpha = true := fun c hc =>
    isAlpha_of_isLower_toLower (hlower _ (List.mem_map_of_mem hc))
  rw [isBare]
  cases hname : name.toList with
  | nil => exact absurd (by rw [hname, List.map_nil]) hne
  | cons c cs =>
    rw [hname] at halpha
    have hdigit := not_isDigit_of_isAlpha (halpha c List.mem_cons_self)
    simp only [hdigit, Bool.not_false, Bool.true_and, List.all_eq_true]
    intro d hd
    simp [Char.isAlphanum, halpha d hd]

/-! ### Headers -/

/-- What stands between `graph` and the opening brace in the first line of a text. -/
def headerId? (text : String) : Option (List Char) := do
  let rest ← "graph ".toList.isPrefixOf? (text.toList.takeWhile (· ≠ '\n'))
  [' ', '\x7b'].isSuffixOf? rest

/-- The first line of a text goes on to the first line feed. -/
theorem takeWhile_textOfLines {line : List Char} (h : '\n' ∉ line) (lines : List (List Char)) :
    (textOfLines (line :: lines)).toList.takeWhile (· ≠ '\n') = line := by
  have hline : ∀ c ∈ line, decide (c ≠ '\n') = true := by
    intro c hc
    rw [decide_eq_true_eq]
    rintro rfl
    exact h hc
  rw [textOfLines, String.toList_ofList, List.flatMap_cons, List.append_assoc,
    List.singleton_append, List.takeWhile_append_of_pos hline,
    List.takeWhile_cons_of_neg (by decide), List.append_nil]

theorem graphId_cases (name : String) :
    IsWord name.toList ∧ graphId name = name.toList ∨
      Text.lower name ∉ reserved ∧ IsQuoted (graphId name) := by
  rw [graphId]
  split
  · next h => exact .inl ⟨isWord_of_isBare h, rfl⟩
  · next h => exact .inr ⟨fun hmem => h (isBare_of_mem_reserved hmem), isQuoted_quote name⟩

theorem not_mem_graphId (name : String) : '\n' ∉ graphId name := by
  rw [graphId]
  split
  · next h =>
    intro hmem
    obtain ⟨c, rest, heq, hc, hrest⟩ := isWord_of_isBare h
    rw [heq] at hmem
    rcases List.mem_cons.1 hmem with rfl | hmem
    · exact absurd hc (by decide)
    · exact absurd (hrest _ hmem) (by decide)
  · simp [quote, not_mem_label (.inl rfl)]

/-- **A header has the name of the graph**, quoted if it is not a word. -/
theorem headerId?_draw (style : Style) (staff : Staff) (ties : Ties) :
    headerId? (draw style staff ties) = some (graphId style.graphName) := by
  obtain ⟨others, hlines⟩ : ∃ others, lines style staff ties =
      ("graph ".toList ++ graphId style.graphName ++ [' ', '\x7b']) :: others := by
    rw [lines, List.append_assoc, List.append_assoc, List.append_assoc]
    exact ⟨_, rfl⟩
  have hfeed : '\n' ∉ "graph ".toList ++ graphId style.graphName ++ [' ', '\x7b'] := by
    have hfixed : '\n' ∉ "graph ".toList ∧ '\n' ∉ [' ', '\x7b'] := by decide
    simp only [List.mem_append, not_or]
    exact ⟨⟨hfixed.1, not_mem_graphId style.graphName⟩, hfixed.2⟩
  rw [headerId?, draw, hlines, takeWhile_textOfLines hfeed, List.append_assoc, isPrefixOf?_append]
  exact List.isSuffixOf?_eq_some_iff_append_eq.2 rfl

/-- **When a header has an id.** It has one just if the name of the graph is not one of the words of
the language in some case. A name that is a word stands there as it is, and any other is quoted. -/
theorem isId_headerId_iff (style : Style) (staff : Staff) (ties : Ties) :
    ∃ id, headerId? (draw style staff ties) = some id ∧
      (IsWord id ∧ id = style.graphName.toList ∨ IsQuoted id) ∧
      (IsId id ↔ Text.lower style.graphName ∉ reserved) := by
  refine ⟨graphId style.graphName, headerId?_draw style staff ties, ?_⟩
  rcases graphId_cases style.graphName with ⟨hword, heq⟩ | ⟨hfree, hquoted⟩
  · rw [heq, isId_iff_of_isWord hword, String.ofList_toList]
    exact ⟨.inl ⟨hword, rfl⟩, Iff.rfl⟩
  · exact ⟨.inr hquoted, fun _ => hfree, fun _ => .quoted hquoted⟩

/-- A word of the language is accepted as the name of a graph, and then the header has no id. -/
theorem not_all_headers_have_ids :
    ¬∀ (settings : Settings) (staff : Staff) (ties : Ties), settings.flaw? = none →
      ∃ id, headerId? (draw ⟨settings.drawing.graphName, settings.drawing.nodeStyle⟩ staff ties) =
        some id ∧ IsId id := by
  intro hall
  let settings : Settings :=
    { Settings.standard with drawing := { Drawing.Settings.standard with graphName := "node" } }
  have hread : Settings.read "[export]\ndot_graph_name = \"node\"" = .ok settings := by
    decide +kernel
  obtain ⟨id, hheader, hid⟩ := hall settings ∅ ∅ (Settings.flaw?_of_read hread)
  rw [headerId?_draw] at hheader
  have hword : IsWord "node".toList := isWord_of_isBare (by decide)
  rw [← Option.some.inj hheader, show graphId "node" = "node".toList from by decide,
    isId_iff_of_isWord hword] at hid
  exact hid (by decide)

end Teamwork.Dot
