import Std.Data.ExtTreeMap

/-!
# Employees and their chat identities

An employee is known under one id. A chat identity is an account in a chat system that belongs to
one employee; an employee may have any number of them. Ids are arbitrary texts, compared code
point by code point, and every listing runs in that order.

## Main definitions

* `Employee`, `Identity` — the two kinds of record.
* `Keyed` — records of one kind under their ids, in ascending order.
* `Staff` — all employees, under their ids.
-/

namespace Teamwork

/-- What is known of an employee. -/
structure Employee where
  /-- The id the employee is known under. -/
  id : String
  /-- The name to display. -/
  name : String
  /-- The mail address. -/
  email : String
  /-- The department the employee works in. -/
  department : String
  deriving DecidableEq, Repr

/-- An account in a chat system. -/
structure Identity where
  /-- The account's id in the chat system. -/
  externalId : String
  /-- The name shown in the chat system. -/
  handle : String
  /-- The id of the employee it belongs to. -/
  employeeId : String
  deriving DecidableEq, Repr

/-- A finite map from ids, in ascending order of the ids. -/
abbrev Keyed (α : Type) := Std.ExtTreeMap String α

/-- All employees, under their ids. -/
abbrev Staff := Keyed Employee

/-- The employees of a list, under their ids. The last of several with one id counts. -/
def Staff.ofList (employees : List Employee) : Staff :=
  employees.foldl (fun staff e => staff.insert e.id e) ∅

end Teamwork
