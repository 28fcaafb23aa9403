import Mathlib.Data.List.Induction
import Teamwork.Drawing.Format
import Teamwork.Proofs.Snapshot.Entering
import Teamwork.Sample

/-!
# Every reachable graph is consistent

A graph may also be replayed, or replaced by the sample or by a graph that was loaded. Loading and
the sample are runs of changes (the first by `Snapshot.runsOver_enterArrays`), and a replay repeats
what the ties say already, so nothing that an operation can do leaves the graphs that runs of
changes reach.

`Coherent` is the invariant that is carried through; `Consistent` is what a user may rely on. They
differ in how the ties are described: by a replay there, by counting interactions here.

## Main definitions

* `Graph.Operation`, `Graph.operate`, `Graph.reached` — operations and what they reach.
* `Graph.Consistent` — what holds of every reachable graph.

## Main results

* `Graph.coherent_reached`, `Graph.consistent_reached` — both invariants.
-/

namespace Teamwork.Graph

/-- What can be done to a graph. -/
inductive Operation where
  /-- To change it. -/
  | change (c : Change)
  /-- To replay its log. -/
  | rebuild
  /-- To replace it by the sample as of an instant. -/
  | sample (now : Time.Timestamp)
  /-- To replace it by the graph of a snapshot. -/
  | load (text : String)
  deriving DecidableEq, Repr

/-- The graph after an operation. A refused one leaves it as it is, and so does a sample that does
not exist or a snapshot that does not load. -/
def operate (g : Graph) : Operation → Graph
  | .change c => g.change c
  | .rebuild => g.rebuild
  | .sample now => (Sample.graph? now).getD g
  | .load text =>
    match Snapshot.load text with
    | .ok loaded => loaded.graph
    | .error _ => g

/-- The graph that operations reach, one after the other, from the empty graph. -/
def reached (ops : List Operation) : Graph :=
  ops.foldl operate empty

theorem reached_concat (ops : List Operation) (op : Operation) :
    reached (ops ++ [op]) = (reached ops).operate op :=
  List.foldl_append

/-! ### The sample is a run -/

/-- A run that is given up as soon as a change is refused is, if it is not given up, a run. -/
theorem eq_after_of_foldlM {α : Type} {step : Graph → α → Except GraphError Graph}
    (request : α → Change) (hstep : ∀ g a, step g a = (request a).perform g) {as : List α}
    {g g' : Graph} (h : as.foldlM step g = .ok g') : g' = g.after (as.map request) := by
  induction as generalizing g with
  | nil => exact (Except.ok.inj h).symm
  | cons a as ih =>
    rw [List.foldlM_cons, hstep] at h
    obtain ⟨g₁, hperform, hrest⟩ := bind_eq_ok_iff.1 h
    rw [List.map_cons, after_cons, Graph.change, hperform]
    exact ih hrest

/-- The sample is made by a run of changes of the empty graph. -/
theorem exists_after_of_sample {now : Time.Timestamp} {g : Graph} (h : Sample.graph? now = some g) :
    ∃ cs, g = empty.after cs := by
  obtain ⟨log, -, h⟩ := Option.bind_eq_some_iff.1 h
  obtain ⟨g₁, h₁, hbuild⟩ := bind_eq_ok_iff.1 (toOption_eq_some_iff.1 h)
  obtain ⟨g₂, h₂, h₃⟩ := bind_eq_ok_iff.1 hbuild
  have h₁ := eq_after_of_foldlM .addEmployee (fun _ _ => rfl) h₁
  have h₂ := eq_after_of_foldlM .addIdentity (fun _ _ => rfl) h₂
  have h₃ := eq_after_of_foldlM .recordByIdentity (fun _ _ => rfl) h₃
  exact ⟨_, by rw [h₃, h₂, h₁, ← after_append, ← after_append]⟩

/-! ### The invariant -/

/-- An operation keeps the invariant, whether or not it succeeds. -/
theorem Coherent.operate {g : Graph} (hg : g.Coherent) (op : Operation) :
    (g.operate op).Coherent := by
  cases op with
  | change c => exact hg.change c
  | rebuild => rw [Graph.operate, hg.rebuild_eq]; exact hg
  | sample now =>
    rw [Graph.operate]
    cases h : Sample.graph? now with
    | none => exact hg
    | some g' =>
      obtain ⟨cs, rfl⟩ := exists_after_of_sample h
      exact coherent_empty.after cs
  | load text =>
    rw [Graph.operate]
    cases h : Snapshot.load text with
    | error e => exact hg
    | ok loaded => exact Snapshot.coherent_of_load h

theorem coherent_reached (ops : List Operation) : (reached ops).Coherent := by
  induction ops using List.reverseRecOn with
  | nil => exact coherent_empty
  | append_singleton ops op ih =>
    rw [reached_concat]
    exact ih.operate op

/-! ### What a user may rely on -/

/-- The tables of the graph say the same, each in its way. -/
structure Consistent (g : Graph) : Prop where
  /-- There is one row of ties for each registered employee. -/
  rows : g.ties.keys = g.employees.keys
  /-- Nobody is tied to themselves. -/
  irreflexive : ∀ a, g.ties.weight? a a = none
  /-- Two employees are tied if the log has an interaction between them. -/
  tied_iff : ∀ a b, a ≠ b → ((g.ties.weight? a b).isSome ↔ ∃ i ∈ g.log.toList, i.joins a b)
  /-- Both rows have the same weight. -/
  symmetric : ∀ a b, g.ties.weight? a b = g.ties.weight? b a
  /-- The weight is the number of interactions, if a weight can be so large. -/
  counts : ∀ a b, a ≠ b → ∀ w ∈ g.ties.weight? a b,
    g.log.toList.countP (fun i => i.joins a b) < UInt32.size →
      w.toNat = g.log.toList.countP fun i => i.joins a b
  /-- Every interaction is between two different registered employees. -/
  participants : ∀ i ∈ g.log.toList,
    i.employeeA ∈ g.employees ∧ i.employeeB ∈ g.employees ∧ i.employeeA ≠ i.employeeB
  /-- Every chat identity belongs to a registered employee. -/
  identities : ∀ (x : String), ∀ i ∈ g.identities[x]?, i.employeeId ∈ g.employees
  /-- A chat identity is resolved to the employee it names. -/
  owners : ∀ x : String, g.owners[x]? = g.identities[x]?.map (·.employeeId)
  /-- The ties are those of a replay. -/
  verified : g.verify = true
  /-- A drawing of all interactions is the drawing without a selection. -/
  drawing : ∀ accepts : Interaction → Bool, (∀ i, accepts i = true) →
    ∀ (f : Format) (settings : Drawing.Settings),
      f.draw settings g.employees (g.replay accepts) = f.draw settings g.employees g.ties

theorem Coherent.consistent {g : Graph} (hg : g.Coherent) : g.Consistent where
  rows := Keyed.keys_eq_of_mem_iff fun _ => hg.mem_ties_iff
  irreflexive := hg.weight?_ties_self
  tied_iff a b hab := by
    rw [hg.weight?_ties hab, Ties.isSome_tally, Ne, List.countP_eq_zero]
    simp
  symmetric a b := by
    by_cases hab : a = b
    · rw [hab]
    · rw [hg.weight?_ties hab, hg.weight?_ties (Ne.symm hab)]
      simp only [Interaction.joins_comm _ a b]
  counts a b hab w hw hlt := by
    rw [hg.weight?_ties hab] at hw
    rw [(Ties.tally_eq_some hw).2, Nat.mod_eq_of_lt hlt]
  participants := hg.log
  identities _ _ hi := hg.identity_employee hi
  owners := hg.owners
  verified := decide_eq_true hg.ties
  drawing accepts haccepts f settings := by
    have hall : accepts = fun _ => true := funext haccepts
    rw [hall, ← hg.ties]

/-- **Every reachable graph is consistent.** -/
theorem consistent_reached (ops : List Operation) : (reached ops).Consistent :=
  (coherent_reached ops).consistent

end Teamwork.Graph
