import Teamwork.Text.Blank
import Teamwork.Time.Timestamp

/-!
# Interactions

An interaction is one event of two employees working together on an issue. Who is named first
carries no meaning, so next to the two participants as they were given there is the pair of them in
ascending order.

## Main definitions

* `Kind` — the kinds of interaction, with `Kind.name` and `Kind.read?`.
* `Interaction` — an interaction, with `Interaction.involves` and `Interaction.pair`.

## Main results

* `Kind.read?_name` — a kind is read back from its name.
* `Interaction.pair_eq_iff` — two interactions have one pair if they join the same employees.
-/

namespace Teamwork

/-- What kind of work two employees did together. -/
inductive Kind where
  /-- A tracked ticket. -/
  | issue
  /-- A bug report. -/
  | bug
  /-- A review of code. -/
  | codeReview
  /-- A thread of discussion. -/
  | discussion
  deriving DecidableEq, Repr

namespace Kind

/-- All kinds. -/
def all : List Kind := [issue, bug, codeReview, discussion]

/-- The name of a kind in documents and messages. -/
def name : Kind → String
  | issue => "ISSUE"
  | bug => "BUG"
  | codeReview => "CODE_REVIEW"
  | discussion => "DISCUSSION"

/-- The kind with exactly this name. -/
def ofName? (s : String) : Option Kind :=
  all.find? fun k => k.name = s

/-- How a character of a name counts: in upper case, and a hyphen as an underscore. -/
def foldChar (c : Char) : Char :=
  if c = '-' then '_' else c.toUpper

/-- The kind a text names. Blanks around it, the case of ASCII letters and the difference between
a hyphen and an underscore do not matter, and an issue is also known by the name of a tracker. -/
def read? (s : String) : Option Kind :=
  let folded := String.ofList ((Text.trim s.toList).map foldChar)
  if folded = "JIRA" then some issue else ofName? folded

/-- What to say to a text that names no kind. -/
def unknownMessage (s : String) : String :=
  "Unknown interaction kind: " ++ s

theorem read?_name (k : Kind) : read? k.name = some k := by
  cases k <;> decide

end Kind

/-- One event of two employees working together. -/
structure Interaction where
  /-- The key of the issue, a free text. -/
  issueKey : String
  /-- The id of the participant named first. -/
  employeeA : String
  /-- The id of the participant named second. -/
  employeeB : String
  /-- The kind of work. -/
  kind : Kind
  /-- When it took place. -/
  timestamp : Time.Timestamp
  deriving DecidableEq, Repr

namespace Interaction

/-- Whether the employee is one of the two participants. -/
def involves (i : Interaction) (id : String) : Bool :=
  i.employeeA = id || i.employeeB = id

/-- The ids of the participants, the lesser first. -/
def pair (i : Interaction) : String × String :=
  if i.employeeA ≤ i.employeeB then (i.employeeA, i.employeeB) else (i.employeeB, i.employeeA)

theorem pair_eq_iff (i j : Interaction) : i.pair = j.pair ↔
    i.employeeA = j.employeeA ∧ i.employeeB = j.employeeB ∨
      i.employeeA = j.employeeB ∧ i.employeeB = j.employeeA := by
  have anti : ∀ a b : String, a ≤ b → b ≤ a → a = b := fun a b => Std.le_antisymm
  have total : ∀ a b : String, ¬a ≤ b → b ≤ a := fun a b => by grind
  unfold pair
  split <;> split <;> simp only [Prod.mk.injEq] <;> grind

end Interaction

end Teamwork
