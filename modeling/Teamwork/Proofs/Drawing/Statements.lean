import Teamwork.Drawing.Dot
import Teamwork.Proofs.Drawing.Quotes
import Teamwork.Proofs.Keyed
import Teamwork.Proofs.Ties.Edges
import Teamwork.Text.Digits

/-!
# What a Graphviz drawing says

A drawing is read here as the language has it: line by line behind its header, each line a statement
about a node or an edge, with texts in double quotes. What is read in this way are the employees and
the ties that were drawn, one statement for each, whatever characters their ids, names and
departments consist of. So no text can end its line, add one, or make one kind of statement look
like the other.

Only carriage returns are lost. They are left out of every text before anything else is done, which
is why a drawing is described in two steps: first the statements, with texts that have no carriage
returns any more, and then their lines, from which the statements can be read back. Two drawings in
one style are equal just if their statements are.

The header is not read but compared. The attributes of nodes stand in it as they were given, so it
may look like anything, statements included.

## Main definitions

* `Dot.Statement`, `Dot.nodes`, `Dot.links` — what is said about employees and ties.
* `Dot.Statement.line`, `Dot.write` — statements as lines, and a drawing of statements.
* `Dot.readText`, `Dot.readStatement?`, `Dot.read?` — the reading of texts, lines and drawings.

## Main results

* `Dot.draw_eq_write` — the drawing of employees and ties is that of their statements.
* `Dot.read?_write` — statements are read back.
* `Dot.statements_of_drawing` — what a drawing says and when two drawings are equal.
-/

namespace Teamwork.Dot

open Drawing

/-! ### Statements -/

/-- A statement of a drawing. -/
inductive Statement where
  /-- There is a node with this label. -/
  | node (id label : List Char)
  /-- There is an edge with this weight. -/
  | edge (low high : List Char) (weight : Nat)
  deriving DecidableEq, Repr

/-- A text without its carriage returns. -/
def withoutReturns (s : String) : List Char :=
  s.toList.filter (· ≠ '\r')

/-- What is said about an employee: the label has the name and the department on two lines. -/
def nodeOf (e : Employee) : Statement :=
  .node (withoutReturns e.id) (withoutReturns e.name ++ '\n' :: withoutReturns e.department)

/-- What is said about a tie. -/
def linkOf (e : Edge) : Statement :=
  .edge (withoutReturns e.low) (withoutReturns e.high) e.weight.toNat

/-- What is said about all employees, in the order of their ids. -/
def nodes (staff : Staff) : List Statement :=
  staff.values.map nodeOf

/-- What is said about all ties, in the order of edges. -/
def links (ties : Ties) : List Statement :=
  ties.edges.map linkOf

/-- Whether the statement is one about a node. -/
def Statement.isNode : Statement → Bool
  | node _ _ => true
  | edge _ _ _ => false

/-- No text of the statement has a carriage return. -/
def Statement.IsPlain : Statement → Prop
  | node id label => '\r' ∉ id ∧ '\r' ∉ label
  | edge low high _ => '\r' ∉ low ∧ '\r' ∉ high

theorem not_mem_withoutReturns (s : String) : '\r' ∉ withoutReturns s := by
  simp [withoutReturns]

theorem isPlain_nodeOf (e : Employee) : (nodeOf e).IsPlain := by
  refine ⟨not_mem_withoutReturns e.id, ?_⟩
  rw [List.mem_append, List.mem_cons]
  rintro (h | h | h)
  · exact not_mem_withoutReturns e.name h
  · exact absurd h (by decide)
  · exact not_mem_withoutReturns e.department h

theorem isPlain_linkOf (e : Edge) : (linkOf e).IsPlain :=
  ⟨not_mem_withoutReturns e.low, not_mem_withoutReturns e.high⟩

/-! ### Lines -/

/-- How a text stands between quotes. -/
def escape (cs : List Char) : List Char :=
  cs.flatMap (labelChar ['\\', 'n'])

/-- What stands in front of the first text of a statement. -/
def indent : List Char := "  \"".toList

/-- What stands between the ends of an edge, after the quote that ends the first. -/
def dashes : List Char := " -- \"".toList

/-- What stands in front of a label, after the quote that ends the text before it. -/
def labelled : List Char := " [label=\"".toList

/-- What stands at the end of a statement, after the quote that ends the label. -/
def closing : List Char := "];".toList

/-- The line of a statement. -/
def Statement.line : Statement → List Char
  | node id label =>
    indent ++ escape id ++ '"' :: labelled ++ escape label ++ '"' :: closing
  | edge low high weight =>
    indent ++ escape low ++ '"' :: dashes ++ escape high ++ '"' :: labelled ++
      Nat.toDigits 10 weight ++ '"' :: closing

/-- The lines in front of the statements. -/
def header (style : Style) : List (List Char) :=
  ["graph ".toList ++ graphId style.graphName ++ [' ', '\x7b']] ++
    if style.nodeStyle = "" then []
    else ["  node [".toList ++ style.nodeStyle.toList ++ "];".toList]

/-- The drawing of statements. -/
def write (style : Style) (statements : List Statement) : String :=
  textOfLines (header style ++ (statements.map Statement.line ++ [['\x7d']]))

/-- A carriage return in a label leaves no trace. -/
theorem label_eq_escape (s : String) : label ['\\', 'n'] s = escape (withoutReturns s) := by
  rw [label, escape, withoutReturns]
  induction s.toList with
  | nil => rfl
  | cons c cs ih =>
    by_cases hc : c = '\r'
    · rw [List.flatMap_cons, ih, List.filter_cons_of_neg (by simpa using hc), hc]
      rfl
    · rw [List.flatMap_cons, ih, List.filter_cons_of_pos (by simpa using hc), List.flatMap_cons]

theorem nodeLine_eq (e : Employee) : nodeLine e = (nodeOf e).line := by
  have hlabel : escape (withoutReturns e.name ++ '\n' :: withoutReturns e.department) =
      escape (withoutReturns e.name) ++ ['\\', 'n'] ++ escape (withoutReturns e.department) := by
    simp [escape, labelChar]
  rw [nodeOf, Statement.line, hlabel]
  rw [nodeLine, quote, label_eq_escape, label_eq_escape, label_eq_escape]
  simp only [List.append_assoc, List.cons_append]
  rfl

theorem edgeLine_eq (e : Edge) : edgeLine e = (linkOf e).line := by
  rw [edgeLine, linkOf, Statement.line, quote, quote, label_eq_escape, label_eq_escape]
  simp only [List.append_assoc, List.cons_append]
  rfl

/-- **The drawing of employees and ties is that of their statements.** -/
theorem draw_eq_write (style : Style) (staff : Staff) (ties : Ties) :
    draw style staff ties = write style (nodes staff ++ links ties) := by
  have hlines : lines style staff ties =
      header style ++ ((nodes staff ++ links ties).map Statement.line ++ [['\x7d']]) := by
    rw [lines, nodes, links, List.map_append, List.map_map, List.map_map,
      funext nodeLine_eq, funext edgeLine_eq, header]
    simp only [List.append_assoc]
    rfl
  rw [draw, hlines, write]

/-! ### Reading -/

/-- The character that a backslash and this one stand for. -/
def escaped? : Char → Option Char
  | '\\' => some '\\'
  | '"' => some '"'
  | 'n' => some '\n'
  | _ => none

/-- A text up to the quote that ends it, and what comes after the quote. -/
def readText : List Char → Option (List Char × List Char)
  | [] => none
  | '"' :: rest => some ([], rest)
  | '\\' :: c :: rest => do
    let c ← escaped? c
    let (text, rest) ← readText rest
    return (c :: text, rest)
  | c :: rest => do
    let (text, rest) ← readText rest
    return (c :: text, rest)

/-- The statement of a line. -/
def readStatement? (line : List Char) : Option Statement := do
  let (first, rest) ← readText (← indent.isPrefixOf? line)
  match labelled.isPrefixOf? rest with
  | some rest =>
    let (label, rest) ← readText rest
    if rest = closing then some (.node first label) else none
  | none =>
    let (second, rest) ← readText (← dashes.isPrefixOf? rest)
    let rest ← labelled.isPrefixOf? rest
    let (weight, rest) ← Text.takeNumber rest.length rest
    if rest = '"' :: closing then some (.edge first second weight) else none

/-- The statements of lines up to the brace that ends a drawing, with nothing behind it but the end
of its line. -/
def readLines? : List (List Char) → Option (List Statement)
  | [] => none
  | line :: rest =>
    if line = ['\x7d'] then if rest = [[]] then some [] else none
    else do return (← readStatement? line) :: (← readLines? rest)

/-- The statements of a drawing in a style. -/
def read? (style : Style) (text : String) : Option (List Statement) := do
  let body ← (textOfLines (header style)).toList.isPrefixOf? text.toList
  readLines? (body.splitOn '\n')

/-! ### Reading what was written -/

/-- A character is read back, and then what comes after it. -/
theorem readText_labelChar {c : Char} (hc : c ≠ '\r') {rest text after : List Char}
    (hrest : readText rest = some (text, after)) :
    readText (labelChar ['\\', 'n'] c ++ rest) = some (c :: text, after) := by
  unfold labelChar
  split
  case h_1 | h_2 | h_3 => simp [readText, escaped?, hrest]
  case h_4 => exact absurd rfl hc
  case h_5 hbackslash hquote _ _ =>
    rw [List.singleton_append, readText]
    · rw [hrest]
      rfl
    · exact hquote
    · exact fun _ _ h _ => hbackslash h

/-- A text is read back from between its quotes, whatever comes after them. -/
theorem readText_escape {cs : List Char} (hcs : '\r' ∉ cs) (rest : List Char) :
    readText (escape cs ++ '"' :: rest) = some (cs, rest) := by
  induction cs with
  | nil => rfl
  | cons c cs ih =>
    obtain ⟨hc, hcs⟩ := not_or.1 (List.mem_cons.not.1 hcs)
    rw [escape, List.flatMap_cons, List.append_assoc]
    exact readText_labelChar (Ne.symm hc) (ih hcs)

/-- A statement is read back from its line. -/
theorem readStatement?_line {statement : Statement} (h : statement.IsPlain) :
    readStatement? statement.line = some statement := by
  cases statement with
  | node id label =>
    simp only [Statement.line, List.append_assoc, List.cons_append, readStatement?,
      isPrefixOf?_append, readText_escape h.1, readText_escape h.2, Option.bind_eq_bind,
      Option.bind_some, if_pos]
  | edge low high weight =>
    -- What comes after the first text tells the two kinds apart.
    have hedge (rest : List Char) : labelled.isPrefixOf? (dashes ++ rest) = none := rfl
    have hquote : '"'.isDigit = false := by decide
    simp only [Statement.line, List.append_assoc, List.cons_append, readStatement?,
      isPrefixOf?_append, readText_escape h.1, readText_escape h.2, hedge,
      Text.takeNumber_toDigits _ hquote, Option.bind_eq_bind, Option.bind_some, if_pos]

theorem not_mem_escape (cs : List Char) : '\n' ∉ escape cs := by
  rw [← String.toList_ofList (l := cs)]
  exact not_mem_label (.inl rfl) (by decide) _

theorem not_mem_line (statement : Statement) : '\n' ∉ statement.line := by
  have hfixed : '\n' ∉ indent ∧ '\n' ∉ dashes ∧ '\n' ∉ labelled ∧ '\n' ∉ closing := by decide
  cases statement with
  | node id label => simp [Statement.line, not_mem_escape, hfixed]
  | edge low high weight =>
    have hweight : '\n' ∉ Nat.toDigits 10 weight :=
      fun h => absurd (Nat.isDigit_of_mem_toDigits (by decide) (by decide) h) (by decide)
    simp [Statement.line, not_mem_escape, hfixed, hweight]

/-- No line of a statement is the brace that ends a drawing. -/
theorem line_ne_brace (statement : Statement) : statement.line ≠ ['\x7d'] := by
  cases statement <;> simp [Statement.line, indent]

theorem splitOn_lines {lines : List (List Char)} (h : ∀ line ∈ lines, '\n' ∉ line) :
    (textOfLines lines).toList.splitOn '\n' = lines ++ [[]] := by
  rw [textOfLines, String.toList_ofList]
  induction lines with
  | nil => rfl
  | cons line lines ih =>
    obtain ⟨hline, hlines⟩ := List.forall_mem_cons.1 h
    rw [List.flatMap_cons, List.append_assoc, List.singleton_append,
      List.splitOn_append_cons_self_of_not_mem hline, ih hlines, List.cons_append]

theorem readLines?_lines {statements : List Statement} (h : ∀ st ∈ statements, st.IsPlain) :
    readLines? (statements.map Statement.line ++ [['\x7d']] ++ [[]]) = some statements := by
  induction statements with
  | nil => rfl
  | cons st statements ih =>
    obtain ⟨hst, hstatements⟩ := List.forall_mem_cons.1 h
    rw [List.map_cons, List.cons_append, List.cons_append, readLines?, if_neg (line_ne_brace st),
      readStatement?_line hst, ih hstatements]
    rfl

/-- **Statements are read back.** -/
theorem read?_write (style : Style) {statements : List Statement}
    (h : ∀ st ∈ statements, st.IsPlain) :
    read? style (write style statements) = some statements := by
  have htext : (write style statements).toList = (textOfLines (header style)).toList ++
      (textOfLines (statements.map Statement.line ++ [['\x7d']])).toList := by
    simp only [write, textOfLines, List.flatMap_append, String.toList_ofList]
  have hlines : ∀ line ∈ statements.map Statement.line ++ [['\x7d']], '\n' ∉ line := by
    simp only [List.mem_append, List.mem_map, List.mem_singleton]
    rintro line (⟨st, -, rfl⟩ | rfl)
    · exact not_mem_line st
    · decide
  rw [read?, htext, isPrefixOf?_append, Option.bind_eq_bind, Option.bind_some, splitOn_lines hlines,
    readLines?_lines h]

/-! ### What a drawing says -/

theorem isPlain_of_mem {staff : Staff} {ties : Ties} {statement : Statement}
    (h : statement ∈ nodes staff ++ links ties) : statement.IsPlain := by
  rw [List.mem_append, nodes, links, List.mem_map, List.mem_map] at h
  rcases h with ⟨e, -, rfl⟩ | ⟨e, -, rfl⟩
  · exact isPlain_nodeOf e
  · exact isPlain_linkOf e

/-- The statements of a drawing are read back. -/
theorem read?_draw (style : Style) (staff : Staff) (ties : Ties) :
    read? style (draw style staff ties) = some (nodes staff ++ links ties) := by
  rw [draw_eq_write]
  exact read?_write style fun _ => isPlain_of_mem

-- A name that would end its statement and add another one.
example :
    read? ⟨"g", ""⟩ (draw ⟨"g", ""⟩ (Staff.ofList [⟨"a", "x\"];\n  \"b\\", "", "\r\n"⟩]) ∅) =
      some [.node ['a'] "x\"];\n  \"b\\\n\n".toList] := by
  decide +kernel

theorem filter_isNode (staff : Staff) (ties : Ties) :
    (nodes staff ++ links ties).filter Statement.isNode = nodes staff := by
  have hnodes : (nodes staff).filter Statement.isNode = nodes staff := by
    simp [nodes, nodeOf, Statement.isNode]
  have hlinks : (links ties).filter Statement.isNode = [] := by
    simp [links, linkOf, Statement.isNode]
  rw [List.filter_append, hnodes, hlinks, List.append_nil]

/-- Nodes and edges are told apart. -/
theorem append_inj {staff staff' : Staff} {ties ties' : Ties}
    (h : nodes staff ++ links ties = nodes staff' ++ links ties') :
    nodes staff = nodes staff' ∧ links ties = links ties' := by
  have hnodes : nodes staff = nodes staff' := by
    rw [← filter_isNode staff ties, h, filter_isNode]
  exact ⟨hnodes, List.append_cancel_left (hnodes ▸ h)⟩

/-- Two drawings are equal just if their statements are. -/
theorem draw_eq_iff (style : Style) (staff staff' : Staff) (ties ties' : Ties) :
    draw style staff ties = draw style staff' ties' ↔
      nodes staff = nodes staff' ∧ links ties = links ties' := by
  constructor
  · intro h
    have hread := read?_draw style staff ties
    rw [h, read?_draw] at hread
    exact append_inj (Option.some.inj hread).symm
  · rintro ⟨hnodes, hlinks⟩
    rw [draw_eq_write, draw_eq_write, hnodes, hlinks]

/-- **What a drawing says and when two drawings are equal.** The statements that are read from a
drawing are, first, those of all employees, in ascending order of the ids that they are found under,
then those of all ties, each from its lesser end, in ascending order too. Another drawing in the
same style is the same text just if it says the same of employees and the same of ties. -/
theorem statements_of_drawing (style : Style) (staff : Staff) (ties : Ties) :
    read? style (draw style staff ties) = some (nodes staff ++ links ties) ∧
      (∃ entries : List (String × Employee), entries.Pairwise (fun p q => p.1 < q.1) ∧
        (∀ id e, (id, e) ∈ entries ↔ staff[id]? = some e) ∧
        nodes staff = entries.map fun p => nodeOf p.2) ∧
      (∃ edges : List Edge, edges.Pairwise Edge.Before ∧
        (∀ e, e ∈ edges ↔ e.low < e.high ∧ ties.weight? e.low e.high = some e.weight) ∧
        links ties = edges.map linkOf) ∧
      ∀ staff' ties', draw style staff ties = draw style staff' ties' ↔
        nodes staff = nodes staff' ∧ links ties = links ties' := by
  have hnodes : nodes staff = staff.toList.map fun p => nodeOf p.2 := by
    rw [nodes, Keyed.values_eq_map, List.map_map]
    rfl
  refine ⟨read?_draw style staff ties, ⟨staff.toList, staff.pairwise_toList, ?_, hnodes⟩,
    ⟨ties.edges, ties.pairwise_edges, fun _ => Ties.mem_edges, rfl⟩, ?_⟩
  · intro id e
    exact Std.ExtTreeMap.mem_toList_iff_getElem?_eq_some
  · intro staff' ties'
    exact draw_eq_iff style staff staff' ties ties'

end Teamwork.Dot
