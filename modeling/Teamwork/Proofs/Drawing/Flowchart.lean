import Teamwork.Proofs.Drawing.Quotes
import Teamwork.Proofs.Keyed
import Teamwork.Proofs.Ties.Edges
import Teamwork.Settings
import Teamwork.Text.Digits

/-!
# What a Mermaid flowchart says

A flowchart is read line by line, as the language has it: behind its header each line is a statement
about a node or an edge. A node id goes on as long as there are letters, digits and underscores, and
a label up to the first quote that is not escaped; what comes after them has to be what the kind of
statement wants, to the end of the line. So a line says at most one thing, and what it says is the
employee or the tie that it was drawn for. No id, name or department has a say in this.

The language has no escapes in node ids, and ids that differ in other characters only get one node
id. What a flowchart says of employees is therefore less than what it was drawn from. But the node
id depends on nothing but the employee's id, so the line for an employee and the lines for the
employee's ties always agree in it.

Of what can be set, only the direction is seen in a flowchart. It is the one text that is written as
it is, and the check of the settings is what keeps it from being more than a word.

## Main definitions

* `Mermaid.IsNodeId` — the node ids of the language.
* `Mermaid.Statement`, `Mermaid.nodeOf`, `Mermaid.linkOf` — what is said about an employee and about
  a tie.
* `Mermaid.takeNodeId?`, `Mermaid.readStatement?` — the reading of node ids and lines.
* `Mermaid.IsFlowchart` — texts that say what they were drawn for and nothing else.

## Main results

* `Mermaid.isNodeId_nodeId` — every id becomes a node id of the language.
* `Mermaid.readStatement?_nodeLine`, `Mermaid.readStatement?_edgeLine` — what a line says.
* `Mermaid.statements_of_flowchart` — what a flowchart says.
-/

namespace Teamwork.Mermaid

open Drawing

/-! ### Statements -/

/-- A statement of a flowchart. -/
inductive Statement where
  /-- There is a node with this label. -/
  | node (id label : List Char)
  /-- There is an edge with this weight. -/
  | edge (low : List Char) (weight : Nat) (high : List Char)
  deriving DecidableEq, Repr

/-- What is said about an employee: the label has the name and the department. -/
def nodeOf (e : Employee) : Statement :=
  .node (nodeId e.id) (label lineBreak e.name ++ lineBreak ++ label lineBreak e.department)

/-- What is said about a tie. -/
def linkOf (e : Edge) : Statement :=
  .edge (nodeId e.low) e.weight.toNat (nodeId e.high)

/-! ### Node ids -/

/-- The characters of node ids. -/
def isIdChar (c : Char) : Bool :=
  c.isAlphanum || c = '_'

/-- A node id of the language: a letter, and then letters, digits and underscores. -/
def IsNodeId (cs : List Char) : Prop :=
  ∃ c rest, cs = c :: rest ∧ c.isAlpha = true ∧ ∀ d ∈ rest, isIdChar d = true

/-- The node id at the start of a text, with what follows it. -/
def takeNodeId? : List Char → Option (List Char × List Char)
  | [] => none
  | c :: rest =>
    if c.isAlpha then some (c :: rest.takeWhile isIdChar, rest.dropWhile isIdChar) else none

theorem isIdChar_idChar (c : Char) : isIdChar (idChar c) = true := by
  rw [idChar]
  split
  · assumption
  · decide

/-- Every id is made into characters of node ids. -/
theorem isIdChar_of_mem_nodeId {id : String} {c : Char} (h : c ∈ nodeId id) :
    isIdChar c = true := by
  have hchars : ∀ d ∈ id.toList.map idChar, isIdChar d = true := by
    intro d hd
    obtain ⟨e, -, rfl⟩ := List.mem_map.1 hd
    exact isIdChar_idChar e
  have hadded : isIdChar 'N' = true ∧ isIdChar '_' = true := by decide
  rw [nodeId] at h
  split at h
  · rcases List.mem_pair.1 h with rfl | rfl
    · exact hadded.1
    · exact hadded.2
  · next first rest heq =>
    rw [heq] at hchars
    split at h
    · exact hchars c h
    · rcases List.mem_cons.1 h with rfl | h
      · exact hadded.1
      · rcases List.mem_cons.1 h with rfl | h
        · exact hadded.2
        · exact hchars c h

/-- **Every id becomes a node id of the language.** -/
theorem isNodeId_nodeId (id : String) : IsNodeId (nodeId id) := by
  obtain ⟨c, rest, heq, halpha⟩ := nodeId_head id
  refine ⟨c, rest, heq, halpha, fun d hd => ?_⟩
  exact isIdChar_of_mem_nodeId (heq ▸ List.mem_cons_of_mem c hd)

/-- A node id is found in front of a character that it cannot go on with. -/
theorem takeNodeId?_append {cs : List Char} (h : IsNodeId cs) {c : Char} (hc : isIdChar c = false)
    (rest : List Char) : takeNodeId? (cs ++ c :: rest) = some (cs, c :: rest) := by
  obtain ⟨first, cs, rfl, halpha, hcs⟩ := h
  rw [List.cons_append, takeNodeId?, if_pos halpha, List.takeWhile_append_of_pos hcs,
    List.dropWhile_append_of_pos hcs, List.takeWhile_cons_of_neg (by simp [hc]), List.append_nil,
    List.dropWhile_cons_of_neg (by simp [hc])]

/-! ### Reading lines -/

/-- What stands in front of a statement. -/
def indent : List Char := "  ".toList

/-- What stands in front of a label, after the node id. -/
def opening : List Char := "[\"".toList

/-- What stands at the end of a statement about a node, after the quote that ends the label. -/
def closing : List Char := "];".toList

/-- What stands in front of the weight of an edge, after the first node id. -/
def dashes : List Char := " ---|".toList

/-- What stands in front of the second node id of an edge, after the weight. -/
def bar : List Char := "| ".toList

/-- The statement of a line. -/
def readStatement? (line : List Char) : Option Statement := do
  let (first, rest) ← takeNodeId? (← indent.isPrefixOf? line)
  match opening.isPrefixOf? rest with
  | some rest =>
    let (label, rest) ← takeQuoted [] rest
    if rest = closing then some (.node first label) else none
  | none =>
    let rest ← dashes.isPrefixOf? rest
    let (weight, rest) ← Text.takeNumber rest.length rest
    let (second, rest) ← takeNodeId? (← bar.isPrefixOf? rest)
    if rest = [';'] then some (.edge first weight second) else none

theorem isQuotable_lineBreak : IsQuotable lineBreak :=
  isQuotable_of_not_mem (by decide) (by decide)

/-- The quote that ends the label of an employee is the first that is not escaped. -/
theorem isQuotable_nodeOf (e : Employee) :
    IsQuotable (label lineBreak e.name ++ lineBreak ++ label lineBreak e.department) :=
  ((isQuotable_label isQuotable_lineBreak e.name).append isQuotable_lineBreak).append
    (isQuotable_label isQuotable_lineBreak e.department)

theorem nodeLine_eq (e : Employee) :
    nodeLine e = indent ++ (nodeId e.id ++ (opening ++
      (label lineBreak e.name ++ lineBreak ++ label lineBreak e.department ++
        '"' :: closing))) := by
  simp only [nodeLine, List.append_assoc, List.cons_append]
  rfl

theorem edgeLine_eq (e : Edge) :
    edgeLine e = indent ++ (nodeId e.low ++ (dashes ++
      (Nat.toDigits 10 e.weight.toNat ++ (bar ++ (nodeId e.high ++ [';']))))) := by
  simp only [edgeLine, List.append_assoc, List.cons_append]
  rfl

/-- The line for an employee says what it was drawn for. -/
theorem readStatement?_nodeLine (e : Employee) : readStatement? (nodeLine e) = some (nodeOf e) := by
  have hid (rest : List Char) :
      takeNodeId? (nodeId e.id ++ (opening ++ rest)) = some (nodeId e.id, opening ++ rest) :=
    takeNodeId?_append (isNodeId_nodeId e.id) (by decide) _
  simp only [nodeLine_eq, readStatement?, isPrefixOf?_append, hid,
    takeQuoted_of_isQuotable (isQuotable_nodeOf e), Option.bind_eq_bind, Option.bind_some, if_pos,
    nodeOf]

-- A name that would end its label and add an edge, between backslashes and carriage returns.
example : readStatement? (nodeLine ⟨"é", "x\"];\n  A ---|1| B;\\", "", "\r\n"⟩) =
    some (.node "N__".toList "x\\\"];<br/>  A ---|1| B;\\\\<br/><br/>".toList) := by
  decide +kernel

/-- The line for a tie says what it was drawn for. -/
theorem readStatement?_edgeLine (e : Edge) : readStatement? (edgeLine e) = some (linkOf e) := by
  have hlow (rest : List Char) :
      takeNodeId? (nodeId e.low ++ (dashes ++ rest)) = some (nodeId e.low, dashes ++ rest) :=
    takeNodeId?_append (isNodeId_nodeId e.low) (by decide) _
  have hhigh : takeNodeId? (nodeId e.high ++ [';']) = some (nodeId e.high, [';']) :=
    takeNodeId?_append (isNodeId_nodeId e.high) (by decide) _
  have hweight (rest : List Char) :
      let cs := Nat.toDigits 10 e.weight.toNat ++ (bar ++ rest)
      Text.takeNumber cs.length cs = some (e.weight.toNat, bar ++ rest) :=
    Text.takeNumber_toDigits _ (by decide) _
  -- What comes after the first node id tells the two kinds apart.
  have hedge (rest : List Char) : opening.isPrefixOf? (dashes ++ rest) = none := rfl
  simp only [edgeLine_eq, readStatement?, isPrefixOf?_append, hlow, hhigh, hweight, hedge,
    Option.bind_eq_bind, Option.bind_some, if_pos, linkOf]

/-! ### No line breaks -/

section

variable {d : Char} (hd : d = '\n' ∨ d = '\r')

include hd

theorem not_mem_nodeId (id : String) : d ∉ nodeId id := by
  intro hmem
  have hchar := isIdChar_of_mem_nodeId hmem
  rcases hd with rfl | rfl <;> exact absurd hchar (by decide)

theorem not_mem_nodeLine (e : Employee) : d ∉ nodeLine e := by
  have hfixed : d ∉ indent ∧ d ∉ opening ∧ d ∉ lineBreak ∧ d ∉ '"' :: closing := by
    rcases hd with rfl | rfl <;> decide
  obtain ⟨hindent, hopening, hbreak, hclosing⟩ := hfixed
  rw [nodeLine_eq]
  simp only [List.mem_append, not_or]
  exact ⟨hindent, not_mem_nodeId hd e.id, hopening,
    ⟨⟨not_mem_label hd hbreak e.name, hbreak⟩, not_mem_label hd hbreak e.department⟩, hclosing⟩

theorem not_mem_edgeLine (e : Edge) : d ∉ edgeLine e := by
  have hfixed : d ∉ indent ∧ d ∉ dashes ∧ d ∉ bar ∧ d ∉ [';'] := by
    rcases hd with rfl | rfl <;> decide
  obtain ⟨hindent, hdashes, hbar, hend⟩ := hfixed
  have hweight : d ∉ Nat.toDigits 10 e.weight.toNat := by
    intro hmem
    have hdigit := Nat.isDigit_of_mem_toDigits (by decide) (by decide) hmem
    rcases hd with rfl | rfl <;> exact absurd hdigit (by decide)
  rw [edgeLine_eq]
  simp only [List.mem_append, not_or]
  exact ⟨hindent, not_mem_nodeId hd e.low, hdashes, hweight, hbar, not_mem_nodeId hd e.high, hend⟩

end

/-! ### Whole flowcharts -/

/-- The first line of a flowchart. -/
def header (direction : String) : List Char :=
  "graph ".toList ++ direction.toList ++ [';']

/-- The lines behind the header. -/
def statementLines (staff : Staff) (ties : Ties) : List (List Char) :=
  staff.values.map nodeLine ++ ties.edges.map edgeLine

theorem lines_eq (direction : String) (staff : Staff) (ties : Ties) :
    lines direction staff ties = header direction :: statementLines staff ties := by
  rw [lines, List.append_assoc]
  rfl

/-- No line of a flowchart is broken, if its direction is one of the language. -/
theorem not_mem_line {direction : String} (h : direction ∈ directions) {staff : Staff} {ties : Ties}
    {line : List Char} (hline : line ∈ header direction :: statementLines staff ties) {d : Char}
    (hd : d = '\n' ∨ d = '\r') : d ∉ line := by
  have hheader : ∀ direction ∈ directions, '\n' ∉ header direction ∧ '\r' ∉ header direction := by
    decide
  rw [List.mem_cons, statementLines, List.mem_append, List.mem_map, List.mem_map] at hline
  rcases hline with rfl | ⟨e, -, rfl⟩ | ⟨e, -, rfl⟩
  · rcases hd with rfl | rfl
    · exact (hheader direction h).1
    · exact (hheader direction h).2
  · exact not_mem_nodeLine hd e
  · exact not_mem_edgeLine hd e

/-- What the lines behind the header say, employees first. -/
theorem map_readStatement? (staff : Staff) (ties : Ties) :
    (statementLines staff ties).map readStatement? =
      staff.toList.map (fun p => some (nodeOf p.2)) ++
        ties.edges.map fun e => some (linkOf e) := by
  rw [statementLines, List.map_append, List.map_map, List.map_map, Keyed.values_eq_map,
    List.map_map]
  refine congrArg₂ _ (List.map_congr_left fun p _ => ?_) (List.map_congr_left fun e _ => ?_)
  · exact readStatement?_nodeLine p.2
  · exact readStatement?_edgeLine e

/-- The text is a flowchart of the employees and the ties: a header and a line for each statement,
which are, first, about all employees and then about all ties. -/
structure IsFlowchart (direction : String) (staff : Staff) (ties : Ties) (text : String)
    (lines : List (List Char)) (entries : List (String × Employee)) (edges : List Edge) :
    Prop where
  /-- A line feed ends each line. -/
  text_eq : text.toList = (header direction :: lines).flatMap fun line => line ++ ['\n']
  /-- There is no line feed and no carriage return in a line. -/
  one_line : ∀ line ∈ header direction :: lines, '\n' ∉ line ∧ '\r' ∉ line
  /-- The language has the direction. -/
  direction_mem : direction ∈ ["TD", "TB", "BT", "LR", "RL"]
  /-- A line for each employee is followed by one for each tie. -/
  statements_eq : lines.map readStatement? =
    entries.map (fun p => some (nodeOf p.2)) ++ edges.map fun e => some (linkOf e)
  /-- The ids that employees are found under ascend. -/
  entries_ascend : entries.Pairwise fun p q => p.1 < q.1
  /-- All employees are there. -/
  mem_entries : ∀ id e, (id, e) ∈ entries ↔ staff[id]? = some e
  /-- The ends of the ties ascend. -/
  edges_ascend : edges.Pairwise Edge.Before
  /-- All ties are there, as the rows of their lesser ends have them. -/
  mem_edges : ∀ e, e ∈ edges ↔ e.low < e.high ∧ ties.weight? e.low e.high = some e.weight

/-- **What a flowchart says.** With settings that pass the check it says what it was drawn from, a
line for each employee and for each tie, and nothing else. An employee stands everywhere under the
node id that the employee's id becomes, and that is one of the language. -/
theorem statements_of_flowchart (settings : Settings) (h : settings.flaw? = none) (staff : Staff)
    (ties : Ties) :
    (∃ lines entries edges, IsFlowchart settings.drawing.direction staff ties
        (draw settings.drawing.direction staff ties) lines entries edges) ∧
      ∀ id, IsNodeId (nodeId id) := by
  have hdirection : settings.drawing.direction ∈ directions := (Settings.flaw?_eq_none_iff.1 h).2
  generalize settings.drawing.direction = direction at hdirection ⊢
  refine ⟨⟨statementLines staff ties, staff.toList, ties.edges, ?_⟩, isNodeId_nodeId⟩
  exact {
    text_eq := by rw [draw, lines_eq, textOfLines, String.toList_ofList]
    one_line := fun line hline =>
      ⟨not_mem_line hdirection hline (.inl rfl), not_mem_line hdirection hline (.inr rfl)⟩
    direction_mem := hdirection
    statements_eq := map_readStatement? staff ties
    entries_ascend := staff.pairwise_toList
    mem_entries := fun _ _ => Std.ExtTreeMap.mem_toList_iff_getElem?_eq_some
    edges_ascend := ties.pairwise_edges
    mem_edges := fun _ => Ties.mem_edges }

/-- Two employees with one node id, and with names that would end their labels. -/
def trickStaff : Staff :=
  Staff.ofList [⟨"é", "x\"];\n  A ---|1| B;\\", "", "\r\n"⟩, ⟨"ü", "\\\"", "", ""⟩]

/-- Three statements, for the two employees and for their tie. -/
theorem statements_of_flowchart_trickStaff :
    Settings.standard.flaw? = none ∧
      ∃ lines entries edges,
        IsFlowchart "TD" trickStaff (Ties.join ∅ "é" "ü")
          (draw "TD" trickStaff (Ties.join ∅ "é" "ü")) lines entries edges :=
  ⟨Settings.flaw?_standard,
    (statements_of_flowchart .standard Settings.flaw?_standard trickStaff (Ties.join ∅ "é" "ü")).1⟩

end Teamwork.Mermaid
