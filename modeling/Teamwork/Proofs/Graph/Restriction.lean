import Teamwork.Proofs.Graph.Changes

/-!
# A graph of fewer employees

No graph forgets an employee by itself, but a record can be lost outside of it. An employee does not
go alone: chat identities belong to a registered employee, and interactions are between two of them,
so those of a lost employee go as well. What is left is a graph like any other.

## Main definitions

* `Graph.restrict` — a graph of some of its employees.
* `Graph.recordCount` — how many records a graph has.

## Main results

* `Graph.Coherent.restrict` — the invariant is kept.
* `Graph.Coherent.recordCount_restrict_eq_iff` — when nothing is lost.
-/

namespace Teamwork.Graph

/-- The graph of the employees whose ids are kept, with their chat identities and the interactions
among them. -/
def restrict (g : Graph) (keep : String → Bool) : Graph where
  employees := g.employees.filter fun id _ => keep id
  identities := g.identities.filter fun _ i => keep i.employeeId
  owners := g.owners.filter fun _ owner => keep owner
  log := g.log.filter fun i => keep i.employeeA && keep i.employeeB
  ties := Ties.replay (g.employees.filter fun id _ => keep id).keys
    (g.log.filter fun i => keep i.employeeA && keep i.employeeB).toList fun _ => true

/-- How many employees, chat identities and interactions there are. -/
def recordCount (g : Graph) : Nat :=
  g.employees.size + g.identities.size + g.log.size

variable {g : Graph} {keep : String → Bool}

theorem getElem?_employees_restrict (id : String) :
    (g.restrict keep).employees[id]? = g.employees[id]?.filter fun _ => keep id :=
  Std.ExtTreeMap.getElem?_filter'

theorem getElem?_identities_restrict (x : String) :
    (g.restrict keep).identities[x]? = g.identities[x]?.filter fun i => keep i.employeeId :=
  Std.ExtTreeMap.getElem?_filter'

theorem toList_log_restrict : (g.restrict keep).log.toList =
    g.log.toList.filter fun i => keep i.employeeA && keep i.employeeB :=
  Array.toList_filter

theorem mem_employees_restrict {id : String} :
    id ∈ (g.restrict keep).employees ↔ id ∈ g.employees ∧ keep id = true := by
  rw [Std.ExtTreeMap.mem_iff_isSome_getElem?, Std.ExtTreeMap.mem_iff_isSome_getElem?,
    getElem?_employees_restrict]
  cases g.employees[id]? <;> simp [Option.isSome_filter]

namespace Coherent

theorem restrict (hg : g.Coherent) (keep : String → Bool) : (g.restrict keep).Coherent where
  employee_id := by
    intro id e h
    rw [getElem?_employees_restrict, Option.filter_eq_some_iff] at h
    exact hg.employee_id h.1
  identity_id := by
    intro x i h
    rw [getElem?_identities_restrict, Option.filter_eq_some_iff] at h
    exact hg.identity_id h.1
  identity_employee := by
    intro x i h
    rw [getElem?_identities_restrict, Option.filter_eq_some_iff] at h
    exact mem_employees_restrict.2 ⟨hg.identity_employee h.1, h.2⟩
  owners := by
    intro x
    rw [getElem?_identities_restrict, Graph.restrict, Std.ExtTreeMap.getElem?_filter', hg.owners,
      Option.filter_map]
    rfl
  log := by
    intro i hi
    rw [toList_log_restrict, List.mem_filter, Bool.and_eq_true] at hi
    obtain ⟨hi, ha, hb⟩ := hi
    obtain ⟨hmema, hmemb, hab⟩ := hg.log i hi
    exact ⟨mem_employees_restrict.2 ⟨hmema, ha⟩, mem_employees_restrict.2 ⟨hmemb, hb⟩, hab⟩
  ties := rfl

/-- With all its employees the graph is the same. -/
theorem restrict_eq_self (hg : g.Coherent) (hkeep : ∀ id ∈ g.employees, keep id = true) :
    g.restrict keep = g := by
  refine (hg.restrict keep).eq_of_registries_eq hg ?_ ?_ ?_
  · rw [Graph.restrict, Std.ExtTreeMap.filter_eq_self_iff]
    intro id hid
    rw [Std.ExtTreeMap.getKey_eq]
    exact hkeep id hid
  · refine Std.ExtTreeMap.ext_getElem? ?_
    intro x
    rw [getElem?_identities_restrict]
    cases hi : g.identities[x]? with
    | none => rfl
    | some i => exact Option.filter_some_pos (hkeep _ (hg.identity_employee hi))
  · refine Array.filter_eq_self.2 ?_
    intro i hi
    obtain ⟨ha, hb, -⟩ := hg.log i (Array.mem_toList_iff.2 hi)
    rw [hkeep _ ha, hkeep _ hb]
    rfl

/-- No record is lost if and only if all employees are kept. -/
theorem recordCount_restrict_eq_iff (hg : g.Coherent) (keep : String → Bool) :
    (g.restrict keep).recordCount = g.recordCount ↔ ∀ id ∈ g.employees, keep id = true := by
  constructor
  · intro hcount
    have hemployees : (g.restrict keep).employees.size ≤ g.employees.size :=
      Std.ExtTreeMap.size_filter_le_size
    have hidentities : (g.restrict keep).identities.size ≤ g.identities.size :=
      Std.ExtTreeMap.size_filter_le_size
    have hlog : (g.restrict keep).log.size ≤ g.log.size := Array.size_filter_le
    have hsize : (g.restrict keep).employees.size = g.employees.size := by
      rw [recordCount, recordCount] at hcount
      omega
    intro id hid
    have hkept := Std.ExtTreeMap.size_filter_eq_size_iff.1 hsize id hid
    rwa [Std.ExtTreeMap.getKey_eq] at hkept
  · intro hkeep
    rw [hg.restrict_eq_self hkeep]

end Coherent

end Teamwork.Graph
