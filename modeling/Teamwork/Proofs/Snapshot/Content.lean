import Teamwork.Proofs.Graph.Operations
import Teamwork.Proofs.Snapshot.Unambiguous
import Teamwork.Proofs.Snapshot.Written

/-!
# What a written snapshot says

A snapshot may be read by other programs than this one, and all that they have to go by is the
standard. So what it says is stated without the reader: its text is JSON, there is one tree that it
stands for, and that tree is described by the texts that its strings decode to. What is written
depends on nothing in the graph but the two registries and the log.

## Main definitions

* `Snapshot.IsRecord`, `Snapshot.IsRecords` — trees of records, and members that hold records.

## Main results

* `Snapshot.isRecord_recordTree`, `Snapshot.isRecords_arrayMember` — what is written of a record.
* `Snapshot.content_reached` — what a snapshot says of a reachable graph.
-/

namespace Teamwork.Snapshot

open Teamwork.Graph (Operation reached coherent_reached)

/-- The tree is an object of strings with these keys and texts, in this order. -/
def IsRecord (t : Json.Tree) (fields : List (String × String)) : Prop :=
  ∃ members, t = .object members ∧
    List.Forall₂ (fun m field => Json.decode m.1 = some field.1.toList ∧
      ∃ codes, m.2 = .string codes ∧ Json.decode codes = some field.2.toList) members fields

/-- The member has this name and is an array of these records, in this order. -/
def IsRecords (m : List Nat × Json.Tree) (named : String × List (List (String × String))) : Prop :=
  Json.decode m.1 = some named.1.toList ∧
    ∃ elements, m.2 = .array elements ∧ List.Forall₂ IsRecord elements named.2

theorem isRecord_recordTree (fields : List (String × String)) :
    IsRecord (recordTree fields) fields := by
  refine ⟨fieldMembers fields, rfl, ?_⟩
  rw [fieldMembers, List.forall₂_map_left_iff]
  refine List.forall₂_same.2 ?_
  intro field _
  exact ⟨Json.decode_codesOf _, _, rfl, Json.decode_codesOf _⟩

theorem isRecords_arrayMember (name : String) (records : List (List (String × String))) :
    IsRecords (arrayMember name records) (name, records) := by
  refine ⟨Json.decode_codesOf _, _, rfl, ?_⟩
  rw [List.forall₂_map_left_iff]
  refine List.forall₂_same.2 ?_
  intro fields _
  exact isRecord_recordTree fields

/-- **A written snapshot says what the graph holds, and nothing else.** Its text is JSON and stands
for one tree only: an object with three arrays of records, one record for each employee and for each
chat identity in ascending order of their ids, and one for each entry of the log. -/
theorem content_reached (ops : List Operation) :
    ∃ members employees identities,
      (∀ t, Json.IsText (write (reached ops)).toList t ↔ t = .object members) ∧
      Keyed.IsListing (reached ops).employees (·.id) employees ∧
      Keyed.IsListing (reached ops).identities (·.externalId) identities ∧
      List.Forall₂ IsRecords members
        [("employees", employees.map fun e =>
            [("id", e.id), ("name", e.name), ("email", e.email), ("department", e.department)]),
          ("chatIdentities", identities.map fun i =>
            [("externalId", i.externalId), ("handle", i.handle), ("employeeId", i.employeeId)]),
          ("interactions", (reached ops).log.toList.map fun i =>
            [("issueKey", i.issueKey), ("employeeA", i.employeeA), ("employeeB", i.employeeB),
              ("type", i.kind.name), ("timestamp", i.timestamp.write)])] := by
  have hcoherent := coherent_reached ops
  generalize reached ops = g at hcoherent ⊢
  have htext : Json.IsText (write g).toList (.object (writtenMembers g)) := by
    rw [write, String.toList_ofList]
    exact isText_writeChars g
  refine ⟨writtenMembers g, g.employees.values, g.identities.values, ?_,
    Keyed.isListing_values hcoherent.employee_id, Keyed.isListing_values hcoherent.identity_id, ?_⟩
  · intro t
    constructor
    · intro h
      exact eq_of_isText h htext
    · rintro rfl
      exact htext
  · exact .cons (isRecords_arrayMember _ _)
      (.cons (isRecords_arrayMember _ _) (.cons (isRecords_arrayMember _ _) .nil))

end Teamwork.Snapshot
