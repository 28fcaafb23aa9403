import Teamwork.Proofs.Graph.Restriction

/-!
# What a run registers

A registry keeps the first record of each id and never forgets one, so what a run of additions
leaves in a registry can be looked up in the list of what was added. The log is no different, except
that nothing in it has an id.

A coherent graph consequently says everything about itself in its two registries and its log: asking
the empty graph for their contents, in this order, makes the graph again. If some employees are not
asked for, everything that refers to them is refused, and what is made is the graph of the others.

## Main results

* `Graph.employees_after`, `Graph.identities_after`, `Graph.log_after` — the tables after a run.
* `Graph.Coherent.after_restricted` — what is made of some of the employees and everything else.
-/

namespace Teamwork.Graph

/-- The first employee added under an id is the one that is registered, unless the id was taken. -/
theorem employees_after (g : Graph) (es : List Employee) (id : String) :
    (g.after (es.map .addEmployee)).employees[id]? =
      g.employees[id]?.or (es.find? fun e => e.id = id) := by
  induction es generalizing g with
  | nil => exact (Option.or_none).symm
  | cons e es ih =>
    rw [List.map_cons, after_cons, ih, change_addEmployee, List.find?_cons]
    split
    · next htaken =>
      by_cases hid : e.id = id
      · obtain ⟨e', he'⟩ := Option.isSome_iff_exists.1
          (Std.ExtTreeMap.mem_iff_isSome_getElem?.1 (hid ▸ htaken))
        rw [he', Option.some_or, Option.some_or]
      · simp [hid]
    · next hfree =>
      rw [Keyed.getElem?_insert]
      by_cases hid : e.id = id
      · have hnone : g.employees[id]? = none := Std.ExtTreeMap.getElem?_eq_none (hid ▸ hfree)
        simp [hid, hnone]
      · simp [hid]

/-- The first chat identity added under an id for a registered employee is the one that is
registered, unless the id was taken. -/
theorem identities_after (g : Graph) (is : List Identity) (x : String) :
    (g.after (is.map .addIdentity)).identities[x]? =
      g.identities[x]?.or
        (is.find? fun i => i.externalId = x ∧ i.employeeId ∈ g.employees) := by
  induction is generalizing g with
  | nil => exact (Option.or_none).symm
  | cons i is ih =>
    rw [List.map_cons, after_cons, ih, employees_change_addIdentity, change_addIdentity,
      List.find?_cons]
    by_cases hid : i.externalId = x
    · by_cases hemployee : i.employeeId ∈ g.employees
      · by_cases hfree : i.externalId ∉ g.identities
        · simp [hid, hemployee, hid ▸ hfree]
        · obtain ⟨i', hi'⟩ := Option.isSome_iff_exists.1
            (Std.ExtTreeMap.mem_iff_isSome_getElem?.1 (hid ▸ Classical.not_not.1 hfree))
          rw [if_neg fun h => hfree h.2, hi', Option.some_or, Option.some_or]
      · rw [if_neg fun h => hemployee h.1]
        simp [hemployee]
    · simp only [hid, false_and, decide_false]
      split
      · rw [Keyed.getElem?_insert, if_neg hid]
      · rfl

/-- The log grows by the interactions between two registered employees. -/
theorem log_after (g : Graph) (is : List Interaction) :
    (g.after (is.map .record)).log.toList =
      g.log.toList ++ is.filter fun i =>
        i.employeeA ∈ g.employees ∧ i.employeeB ∈ g.employees ∧ i.employeeA ≠ i.employeeB := by
  induction is generalizing g with
  | nil => exact (List.append_nil _).symm
  | cons i is ih =>
    rw [List.map_cons, after_cons, ih, employees_change_record, change_record, List.filter_cons]
    split
    · next hi => rw [if_pos (decide_eq_true hi), Array.toList_push, List.append_assoc,
        List.singleton_append]
    · next hi => rw [if_neg fun h => hi (of_decide_eq_true h)]

/-! ### A graph made by its own contents -/

/-- Some of the employees of a coherent graph, all chat identities and all interactions make the
graph of these employees. -/
theorem Coherent.after_restricted {g : Graph} (hg : g.Coherent) (keep : String → Bool) :
    ((empty.after ((g.employees.values.filter fun e => keep e.id).map .addEmployee)).after
      (g.identities.values.map .addIdentity)).after (g.log.toList.map .record) =
        g.restrict keep := by
  have hemployees :
      (empty.after ((g.employees.values.filter fun e => keep e.id).map .addEmployee)).employees =
        (g.restrict keep).employees := by
    refine Std.ExtTreeMap.ext_getElem? ?_
    intro id
    have hfind : (fun e : Employee => decide (keep e.id = true ∧ decide (e.id = id) = true)) =
        fun e => decide (e.id = id ∧ keep id = true) := by
      funext e
      rw [decide_eq_decide, decide_eq_true_eq]
      constructor
      · rintro ⟨hkeep, rfl⟩
        exact ⟨rfl, hkeep⟩
      · rintro ⟨rfl, hkeep⟩
        exact ⟨hkeep, rfl⟩
    rw [employees_after, List.find?_filter, hfind,
      Keyed.find?_values_and hg.employee_id id fun _ => keep id, getElem?_employees_restrict, empty,
      Std.ExtTreeMap.getElem?_empty, Option.none_or]
  refine Coherent.eq_of_registries_eq (((coherent_empty.after _).after _).after _)
    (hg.restrict keep) ?_ ?_ ?_
  · rw [after_frame Graph.employees employees_change_record,
      after_frame Graph.employees employees_change_addIdentity, hemployees]
  · refine Std.ExtTreeMap.ext_getElem? ?_
    intro x
    have hfind := Keyed.find?_values_and hg.identity_id x fun i =>
      i.employeeId ∈ (g.restrict keep).employees
    simp only [decide_eq_true_eq] at hfind
    rw [after_frame Graph.identities identities_change_record, identities_after,
      after_frame Graph.identities identities_change_addEmployee, hemployees, hfind, empty,
      Std.ExtTreeMap.getElem?_empty, Option.none_or, getElem?_identities_restrict]
    cases hi : g.identities[x]? with
    | none => rfl
    | some i => simp [Option.filter_some, mem_employees_restrict, hg.identity_employee hi]
  · refine Array.toList_inj.1 ?_
    rw [log_after, after_frame Graph.employees employees_change_addIdentity, hemployees,
      after_frame Graph.log log_change_addIdentity,
      after_frame Graph.log log_change_addEmployee, empty, List.nil_append, toList_log_restrict]
    refine List.filter_congr ?_
    intro i hi
    obtain ⟨ha, hb, hab⟩ := hg.log i hi
    simp [mem_employees_restrict, ha, hb, hab]

end Teamwork.Graph
