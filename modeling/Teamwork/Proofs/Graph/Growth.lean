import Teamwork.Proofs.Graph.Changes

/-!
# One more interaction

What it means that an interaction was recorded, for somebody who knows the graph before and the
graph after: nothing but the end of the log and one weight is different. The invariant is not needed
to say so, but it is what makes the weight grow as a number and not only as a word.

## Main definitions

* `Graph.GrowsBy` — a graph and the same graph with one more interaction.

## Main results

* `Graph.record_cases` — what becomes of an interaction.
* `Graph.Coherent.growsBy_change` — recording makes a graph grow.
-/

namespace Teamwork.Graph

/-- The second graph is the first with one more interaction: at the end of the log, and with one
more on the weight between its participants. Weights are words; as long as the log is short enough
for them the numbers they stand for grow by one. -/
structure GrowsBy (g g' : Graph) (i : Interaction) : Prop where
  /-- The employees are the same. -/
  employees : g'.employees = g.employees
  /-- The chat identities are the same. -/
  identities : g'.identities = g.identities
  /-- The owners of chat identities are the same. -/
  owners : g'.owners = g.owners
  /-- The interaction is the last one of the log. -/
  log : g'.log = g.log.push i
  /-- The same employees have a row of ties. -/
  rows : g'.ties.keys = g.ties.keys
  /-- Only the weight between the participants changes. -/
  weight? : ∀ a b, g'.ties.weight? a b =
    if i.joins a b then some ((g.ties.weight? a b).getD 0 + 1) else g.ties.weight? a b
  /-- That weight grows by one as a number. -/
  weight_toNat : g'.log.size < UInt32.size → ∀ a b, i.joins a b = true →
    ((g'.ties.weight? a b).getD 0).toNat = ((g.ties.weight? a b).getD 0).toNat + 1

/-- What becomes of an interaction: it is refused, ignored or recorded. -/
theorem record_cases (g : Graph) (i : Interaction) :
    (∃ e, g.record i = .error e) ∨ g.record i = .ok (.ignoredSelf, g) ∨
      i.employeeA ∈ g.employees ∧ i.employeeB ∈ g.employees ∧ i.employeeA ≠ i.employeeB ∧
        g.record i = .ok (.recorded, g.change (.record i)) := by
  rw [change_record]
  by_cases ha : i.employeeA ∈ g.employees
  · by_cases hb : i.employeeB ∈ g.employees
    · by_cases hab : i.employeeA = i.employeeB
      · exact .inr (.inl (by simp [record, append, Except.map, hb, hab]))
      · exact .inr (.inr ⟨ha, hb, hab, by simp [record, append, Except.map, ha, hb, hab]⟩)
    · exact .inl ⟨_, by simp [record, append, Except.map, ha, hb]; rfl⟩
  · exact .inl ⟨_, by simp [record, append, Except.map, ha]; rfl⟩

theorem Coherent.growsBy_change {g : Graph} (hg : g.Coherent) {i : Interaction}
    (ha : i.employeeA ∈ g.employees) (hb : i.employeeB ∈ g.employees)
    (hab : i.employeeA ≠ i.employeeB) : g.GrowsBy (g.change (.record i)) i := by
  have hg' := hg.change (.record i)
  rw [change_record, if_pos ⟨ha, hb, hab⟩] at hg' ⊢
  have hweight : ∀ a b, (g.ties.join i.employeeA i.employeeB).weight? a b =
      if i.joins a b then some ((g.ties.weight? a b).getD 0 + 1) else g.ties.weight? a b := by
    intro a b
    rw [Ties.weight?_join g.ties hab]
    simp only [Interaction.joins_iff]
  refine ⟨rfl, rfl, rfl, rfl, ?_, hweight, ?_⟩
  · refine Keyed.keys_eq_of_mem_iff ?_
    intro id
    rw [hg'.mem_ties_iff, hg.mem_ties_iff]
  · intro hsize a b hjoins
    have hne : a ≠ b := (Interaction.ne_iff_of_joins hjoins).1 hab
    have hcount : (g.log.push i).toList.countP (fun j => j.joins a b) =
        (g.log.toList.countP fun j => j.joins a b) + 1 := by
      simp [hjoins]
    have hle : (g.log.push i).toList.countP (fun j => j.joins a b) ≤ (g.log.push i).size :=
      List.countP_le_length
    have hsize : (g.log.push i).size < UInt32.size := hsize
    rw [hg'.weight?_ties hne, hg.weight?_ties hne, Ties.toNat_tally, Ties.toNat_tally, hcount,
      Nat.mod_eq_of_lt (by omega), Nat.mod_eq_of_lt (by omega)]

end Teamwork.Graph
