import Teamwork.Data.Decoding
import Teamwork.Interaction
import Teamwork.Staff
import Teamwork.Time.Reading
import Teamwork.Time.Writing

/-!
# Employees, chat identities and interactions as values

How the records of a graph look in a data format, one at a time. This is not the form that a
snapshot has: the fields have other names here, all of them must be there, and the kind of an
interaction counts only under its exact name.

## Main definitions

* `Employee.toValue`, `Identity.toValue`, `Kind.toValue`, `Interaction.toValue` — records as values.
* `Employee.ofValue?`, `Identity.ofValue?`, `Kind.ofValue?`, `Interaction.ofValue?` — values as
  records.
-/

namespace Teamwork

open Data

/-- An employee as a value. -/
def Employee.toValue (e : Employee) : Value :=
  .table [("id", .text e.id), ("name", .text e.name), ("email", .text e.email),
    ("department", .text e.department)]

/-- The employee that a value stands for. -/
def Employee.ofValue? (rules : Rules) (v : Value) : Option Employee := do
  let fields ← v.record? rules ["id", "name", "email", "department"]
  return {
    id := ← required? fields "id" Value.text?
    name := ← required? fields "name" Value.text?
    email := ← required? fields "email" Value.text?
    department := ← required? fields "department" Value.text? }

/-- A chat identity as a value. -/
def Identity.toValue (i : Identity) : Value :=
  .table [("external_id", .text i.externalId), ("handle", .text i.handle),
    ("employee_id", .text i.employeeId)]

/-- The chat identity that a value stands for. -/
def Identity.ofValue? (rules : Rules) (v : Value) : Option Identity := do
  let fields ← v.record? rules ["external_id", "handle", "employee_id"]
  return {
    externalId := ← required? fields "external_id" Value.text?
    handle := ← required? fields "handle" Value.text?
    employeeId := ← required? fields "employee_id" Value.text? }

/-- A kind as a value. -/
def Kind.toValue (k : Kind) : Value :=
  .text k.name

/-- The kind that a value stands for. -/
def Kind.ofValue? (rules : Rules) (v : Value) : Option Kind :=
  v.named? rules Kind.ofName?

/-- An interaction as a value. -/
def Interaction.toValue (i : Interaction) : Value :=
  .table [("issue_key", .text i.issueKey), ("employee_a", .text i.employeeA),
    ("employee_b", .text i.employeeB), ("kind", i.kind.toValue),
    ("timestamp", .text i.timestamp.write)]

/-- The interaction that a value stands for. -/
def Interaction.ofValue? (rules : Rules) (v : Value) : Option Interaction := do
  let fields ← v.record? rules ["issue_key", "employee_a", "employee_b", "kind", "timestamp"]
  return {
    issueKey := ← required? fields "issue_key" Value.text?
    employeeA := ← required? fields "employee_a" Value.text?
    employeeB := ← required? fields "employee_b" Value.text?
    kind := ← required? fields "kind" (Kind.ofValue? rules)
    timestamp := ← required? fields "timestamp" fun v => v.text?.bind Time.Timestamp.read? }

end Teamwork
