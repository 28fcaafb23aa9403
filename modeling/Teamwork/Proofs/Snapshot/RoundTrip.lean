import Teamwork.Proofs.Graph.Operations
import Teamwork.Proofs.Graph.Registries
import Teamwork.Proofs.Graph.Restriction
import Teamwork.Proofs.Snapshot.Texts
import Teamwork.Proofs.Snapshot.Written
import Teamwork.Proofs.Time.Codec

/-!
# A written snapshot loads as the graph it was written from

Three facts make the round trip, and none of them knows of the others. A written snapshot is JSON,
with a tree that lists the registries and the log. JSON is read as its tree says. And what is listed
is enough to make the graph again, because a coherent graph is made by its own contents. What is
left for this file is that the fields of a record describe what they were written from.

There is one exception. A record under the empty id is not read as an employee, although a graph may
have one; and then whatever refers to that employee is refused as well. So a snapshot loads as the
graph restricted to the other employees, and for a graph without an empty id that is the graph.

## Main results

* `Snapshot.employee?_of_fields`, `Snapshot.identity?_of_fields`, `Snapshot.interaction?_of_fields`
  — written records describe what they were written from.
* `Snapshot.exists_load_write_restrict`, `Snapshot.exists_load_write` — the snapshot of a coherent
  graph loads as the graph but for the empty id.
* `Snapshot.load_write_reached` — every reachable graph without an empty id comes back.
* `Snapshot.totalSkipped_write_reached` — what is left out of any reachable graph.
-/

namespace Teamwork.Snapshot

open Teamwork.Graph (Operation reached)

/-! ### Records -/

/-- What the last of some fields with this name holds. -/
def lastField (fields : List (String × String)) (name : String) : Option String :=
  fields.reverse.findSome? fun (key, value) => if key = name then some value else none

/-- The record has these fields, the last of each name. -/
def HasFields (record : Fields) (fields : List (String × String)) : Prop :=
  ∀ name, record[name]? = lastField fields name

theorem lastNamed_fieldMembers (fields : List (String × String)) (name : String) :
    lastNamed textOf (fieldMembers fields) name = lastField fields name := by
  rw [lastNamed, fieldMembers, ← List.map_reverse, List.findSome?_map, lastField]
  refine congrArg (List.findSome? · _) (funext fun field => ?_)
  simp [textOf, Json.decode_codesOf, String.toList_inj]

theorem legible_fieldMembers (fields : List (String × String)) : Legible (fieldMembers fields) := by
  intro m hm
  obtain ⟨field, -, rfl⟩ := List.mem_map.1 hm
  refine ⟨⟨_, Json.decode_codesOf _⟩, ?_⟩
  rintro codes hcodes
  rw [← Json.Tree.string.inj hcodes]
  exact ⟨_, Json.decode_codesOf _⟩

/-- The slot of a written record is the record. -/
theorem exists_hasFields {fields : List (String × String)} {slot : Slot}
    (h : IsSlotOf (recordTree fields) slot) :
    ∃ record, slot = .ok record ∧ HasFields record fields := by
  cases slot with
  | error fault => exact absurd (legible_fieldMembers fields) h
  | ok record =>
    refine ⟨record, rfl, ?_⟩
    intro name
    rw [h.2 name, lastNamed_fieldMembers]

theorem employee?_of_fields {record : Fields} {e : Employee}
    (h : HasFields record (employeeFields e)) :
    employee? record = if e.id ≠ "" then some e else none := by
  have hfield : ∀ name, record[name]? = lastField (employeeFields e) name := h
  by_cases hid : e.id = "" <;>
    simp [employee?, optional, Option.filter_some, hfield, lastField, employeeFields, Names.id,
      Names.name, Names.email, Names.department, hid]

theorem identity?_of_fields {record : Fields} {i : Identity}
    (h : HasFields record (identityFields i)) : identity? record = some i := by
  have hfield : ∀ name, record[name]? = lastField (identityFields i) name := h
  simp [identity?, optional, hfield, lastField, identityFields, Names.externalId,
    Names.oldExternalId, Names.handle, Names.employeeId]

theorem interaction?_of_fields {record : Fields} {i : Interaction}
    (h : HasFields record (interactionFields i)) : interaction? record = some i := by
  have hfield : ∀ name, record[name]? = lastField (interactionFields i) name := h
  simp [interaction?, hfield, lastField, interactionFields, Names.issueKey, Names.employeeA,
    Names.employeeB, Names.kind, Names.timestamp, Kind.read?_name, Time.Timestamp.read?_write]

/-- What is read from an array of written records is what they were written from, as far as a record
describes that. -/
theorem described_eq {α : Type} {describe? : Fields → Option α}
    {fieldsOf : α → List (String × String)} {p : α → Bool}
    (hdescribe : ∀ a record, HasFields record (fieldsOf a) →
      describe? record = if p a then some a else none)
    {as : List α} {slots : List Slot}
    (h : List.Forall₂ IsSlotOf ((as.map fieldsOf).map recordTree) slots) :
    described describe? slots = as.filter p := by
  induction as generalizing slots with
  | nil =>
    cases h
    rfl
  | cons a as ih =>
    cases h with
    | @cons _ slot _ slots hslot hslots =>
      obtain ⟨record, rfl, hrecord⟩ := exists_hasFields hslot
      rw [described_ok, hdescribe a record hrecord, ih hslots, List.filter_cons]
      split <;> rfl

/-! ### Whole snapshots -/

theorem lastNamed_arrayMember (name name' : String) (records : List (List (String × String)))
    (members : List (List Nat × Json.Tree)) :
    lastNamed elementsOf (arrayMember name records :: members) name' =
      (lastNamed elementsOf members name').or
        (if name = name' then some (records.map recordTree) else none) := by
  rw [lastNamed_cons, arrayMember, Json.decode_codesOf]
  simp only [Option.some.injEq, String.toList_inj, elementsOf]

theorem lastNamed_employees (g : Graph) :
    lastNamed elementsOf (writtenMembers g) Names.employees =
      some ((g.employees.values.map employeeFields).map recordTree) := by
  rw [writtenMembers, lastNamed_arrayMember, lastNamed_arrayMember, lastNamed_arrayMember,
    if_pos rfl, if_neg (by decide), if_neg (by decide)]
  rfl

theorem lastNamed_identities (g : Graph) :
    lastNamed elementsOf (writtenMembers g) Names.identities =
      some ((g.identities.values.map identityFields).map recordTree) := by
  rw [writtenMembers, lastNamed_arrayMember, lastNamed_arrayMember, lastNamed_arrayMember,
    if_pos rfl, if_neg (by decide), if_neg (by decide)]
  rfl

theorem lastNamed_interactions (g : Graph) :
    lastNamed elementsOf (writtenMembers g) Names.interactions =
      some ((g.log.toList.map interactionFields).map recordTree) := by
  rw [writtenMembers, lastNamed_arrayMember, lastNamed_arrayMember, lastNamed_arrayMember,
    if_pos rfl]
  rfl

/-- The three arrays are found in a written snapshot, each with the records that it was written
from. -/
theorem exists_hasArrays_write (g : Graph) :
    ∃ employees identities interactions, HasArrays (write g) employees identities interactions ∧
      List.Forall₂ IsSlotOf ((g.employees.values.map employeeFields).map recordTree) employees ∧
      List.Forall₂ IsSlotOf ((g.identities.values.map identityFields).map recordTree) identities ∧
      List.Forall₂ IsSlotOf ((g.log.toList.map interactionFields).map recordTree) interactions := by
  have hkeys : ∀ m ∈ writtenMembers g, ∃ key, Json.decode m.1 = some key := by
    simp [writtenMembers, arrayMember, Json.decode_codesOf]
  obtain ⟨arrays, hread, harrays⟩ := exists_readArrays (isText_writeChars g) hkeys
  have hemployees := harrays Names.employees
  rw [lastNamed_employees] at hemployees
  obtain ⟨employees, he, hemployees⟩ := exists_of_rel_some hemployees
  have hidentities := harrays Names.identities
  rw [lastNamed_identities] at hidentities
  obtain ⟨identities, hi, hidentities⟩ := exists_of_rel_some hidentities
  have hinteractions := harrays Names.interactions
  rw [lastNamed_interactions] at hinteractions
  obtain ⟨interactions, ht, hinteractions⟩ := exists_of_rel_some hinteractions
  refine ⟨employees, identities, interactions, ⟨arrays, ?_, he, ?_, ht⟩, hemployees, hidentities,
    hinteractions⟩
  · rw [write, String.toList_ofList, hread]
  · rw [hi, Option.some_or]

/-- Every element of three arrays is in the graph that was loaded, or was left out. -/
theorem Loaded.RunsOver.totalSkipped_add {loaded : Loaded}
    {employees identities interactions : List Slot}
    (h : loaded.RunsOver employees identities interactions) :
    loaded.totalSkipped + loaded.graph.recordCount =
      employees.length + identities.length + interactions.length := by
  have hemployees := h.employees_agrees
  have hidentities := h.identities_agrees
  have hinteractions := h.interactions_agrees
  rw [Loaded.totalSkipped, Graph.recordCount, ← hemployees.loaded_eq_entries,
    ← hidentities.loaded_eq_entries, ← hinteractions.loaded_eq_entries,
    ← hemployees.loaded_add_skipped, ← hidentities.loaded_add_skipped,
    ← hinteractions.loaded_add_skipped]
  omega

/-- **The snapshot of a coherent graph loads as the graph without the empty id.** As many records
were left out as the graph has less. -/
theorem exists_load_write_restrict {g : Graph} (hg : g.Coherent) :
    ∃ loaded, load (write g) = .ok loaded ∧ loaded.graph = g.restrict (· ≠ "") ∧
      loaded.totalSkipped + (g.restrict (· ≠ "")).recordCount = g.recordCount := by
  obtain ⟨employees, identities, interactions, harrays, he, hi, ht⟩ := exists_hasArrays_write g
  have hemployees : described employee? employees = g.employees.values.filter (·.id ≠ "") :=
    described_eq (fun _ _ hrecord => by simpa using employee?_of_fields hrecord) he
  have hidentities : described identity? identities = g.identities.values := by
    rw [described_eq (p := fun _ => true) (fun _ _ hrecord => identity?_of_fields hrecord) hi,
      List.filter_eq_self.2 fun _ _ => rfl]
  have hinteractions : described interaction? interactions = g.log.toList := by
    rw [described_eq (p := fun _ => true) (fun _ _ hrecord => interaction?_of_fields hrecord) ht,
      List.filter_eq_self.2 fun _ _ => rfl]
  have hruns := runsOver_enterArrays employees identities interactions
  have hgraph : (enterArrays employees identities interactions).graph = g.restrict (· ≠ "") := by
    rw [hruns.graph_eq, met, known, hired, hemployees, hidentities, hinteractions]
    exact hg.after_restricted (· ≠ "")
  refine ⟨_, load_eq_ok_iff.2 ⟨employees, identities, interactions, harrays, rfl⟩, hgraph, ?_⟩
  rw [← hgraph, hruns.totalSkipped_add, ← he.length_eq, ← hi.length_eq, ← ht.length_eq]
  simp only [List.length_map, Keyed.length_values, Array.length_toList, Graph.recordCount]

theorem all_named_iff {g : Graph} :
    (∀ id ∈ g.employees, decide (id ≠ "") = true) ↔ "" ∉ g.employees := by
  constructor
  · intro hall hmem
    exact of_decide_eq_true (hall "" hmem) rfl
  · intro hid id hmem
    exact decide_eq_true fun hempty => hid (hempty ▸ hmem)

/-- The snapshot of a coherent graph without an empty id loads as the graph, with no record left
out. -/
theorem exists_load_write {g : Graph} (hg : g.Coherent) (hid : "" ∉ g.employees) :
    ∃ loaded, load (write g) = .ok loaded ∧ loaded.graph = g ∧ loaded.employees.skipped = [] ∧
      loaded.identities.skipped = [] ∧ loaded.interactions.skipped = [] := by
  obtain ⟨loaded, hload, hgraph, hcount⟩ := exists_load_write_restrict hg
  rw [hg.restrict_eq_self (all_named_iff.2 hid)] at hgraph hcount
  have hskipped : loaded.totalSkipped = 0 := by omega
  rw [Loaded.totalSkipped] at hskipped
  refine ⟨loaded, hload, hgraph, ?_, ?_, ?_⟩ <;> exact List.eq_nil_of_length_eq_zero (by omega)

/-- **Every reachable graph without an empty id survives being written and loaded**: it comes back
as it was, ties and order of the log included, without a record left out, and is written in the same
way again. -/
theorem load_write_reached (ops : List Operation) (hid : "" ∉ (reached ops).employees) :
    ∃ loaded, load (write (reached ops)) = .ok loaded ∧ loaded.graph = reached ops ∧
      loaded.employees.skipped = [] ∧ loaded.identities.skipped = [] ∧
      loaded.interactions.skipped = [] ∧ write loaded.graph = write (reached ops) := by
  obtain ⟨loaded, hload, hgraph, he, hi, ht⟩ := exists_load_write (Graph.coherent_reached ops) hid
  exact ⟨loaded, hload, hgraph, he, hi, ht, by rw [hgraph]⟩

/-- A history with a quote and a line break in ids, a chat identity, and an interaction in a leap
second. -/
def leapHistory : List Operation :=
  [.change (.addEmployee ⟨"a\"1", "A", "", ""⟩), .change (.addEmployee ⟨"b\n2", "", "", "😀"⟩),
    .change (.addIdentity ⟨"", "b", "b\n2"⟩),
    .change (.record ⟨"\\", "a\"1", "b\n2", .bug,
      ⟨1483228799, 1500000000, by decide, by decide, by decide, by decide⟩⟩)]

theorem load_write_reached_leapHistory :
    "" ∉ (reached leapHistory).employees ∧
      ∃ loaded, load (write (reached leapHistory)) = .ok loaded ∧
        loaded.graph = reached leapHistory ∧ loaded.employees.skipped = [] ∧
        loaded.identities.skipped = [] ∧ loaded.interactions.skipped = [] ∧
        write loaded.graph = write (reached leapHistory) := by
  have hid : "" ∉ (reached leapHistory).employees := by decide +kernel
  exact ⟨hid, load_write_reached leapHistory hid⟩

/-- **A written graph is read back but for the empty id**: everything that refers to the employee
with the empty id is left out, and nothing else, so no record is left out if and only if there is no
such employee. -/
theorem totalSkipped_write_reached (ops : List Operation) :
    ∃ loaded, load (write (reached ops)) = .ok loaded ∧
      loaded.graph = (reached ops).restrict (· ≠ "") ∧
      loaded.totalSkipped + ((reached ops).restrict (· ≠ "")).recordCount =
        (reached ops).recordCount ∧
      (loaded.totalSkipped = 0 ↔ "" ∉ (reached ops).employees) := by
  have hg := Graph.coherent_reached ops
  obtain ⟨loaded, hload, hgraph, hcount⟩ := exists_load_write_restrict hg
  refine ⟨loaded, hload, hgraph, hcount, ?_⟩
  rw [← all_named_iff, ← hg.recordCount_restrict_eq_iff]
  omega

/-- An employee with the empty id and a chat identity of that employee. -/
def namelessHistory : List Operation :=
  [.change (.addEmployee ⟨"", "N", "", ""⟩), .change (.addIdentity ⟨"n", "", ""⟩)]

/-- The graph takes an employee with the empty id, and the reader does not. -/
theorem not_all_written_records_load :
    ¬∀ ops : List Operation, ∃ loaded, load (write (reached ops)) = .ok loaded ∧
      loaded.totalSkipped = 0 := by
  intro hall
  obtain ⟨loaded, hload, hskipped⟩ := hall namelessHistory
  have hg := Graph.coherent_reached namelessHistory
  obtain ⟨loaded', hload', -, hcount⟩ := exists_load_write_restrict hg
  obtain rfl : loaded = loaded' := Except.ok.inj (hload.symm.trans hload')
  have hmem : "" ∈ (reached namelessHistory).employees := by decide +kernel
  rw [hskipped, Nat.zero_add, hg.recordCount_restrict_eq_iff] at hcount
  exact all_named_iff.1 hcount hmem

end Teamwork.Snapshot
