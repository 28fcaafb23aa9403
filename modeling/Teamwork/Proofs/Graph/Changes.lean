import Teamwork.Graph
import Teamwork.Proofs.Keyed
import Teamwork.Proofs.Ties.Counting

/-!
# Runs of changes

A run asks a graph for one change after the other and goes on whether or not a change is refused.
What a single change can do is said once, by one lemma for each kind of change; everything about
runs follows from these four by induction.

## The invariant

`Coherent` is what holds of every graph that a run from the empty graph can reach. Its fields say
that records stand under their own ids, that whatever refers to an employee refers to a registered
one, and that the two redundant tables agree with what they are derived from. That the ties are
those of a replay is the strongest way to say that they count interactions, so rows and weights are
read off the replay and need no fields of their own.

## Main definitions

* `Graph.Change`, `Graph.change`, `Graph.after` — a change, its result, and that of a run.
* `Graph.effects` — how many changes of a run had an effect.
* `Graph.Coherent` — the invariant.

## Main results

* `Graph.Coherent.change`, `Graph.Coherent.after` — changes and runs keep the invariant.
* `Graph.Coherent.mem_ties_iff`, `Graph.Coherent.weight?_ties` — rows and weights of the ties.
-/

namespace Teamwork.Graph

/-- What a graph can be asked for. -/
inductive Change where
  /-- To register an employee. -/
  | addEmployee (e : Employee)
  /-- To register a chat identity. -/
  | addIdentity (i : Identity)
  /-- To record an interaction between employees. -/
  | record (i : Interaction)
  /-- To record an interaction between chat identities. -/
  | recordByIdentity (i : Interaction)
  deriving DecidableEq, Repr

/-- The graph that a change makes, unless it is refused. -/
def Change.perform (g : Graph) : Change → Except GraphError Graph
  | addEmployee e => g.addEmployee e
  | addIdentity i => g.addIdentity i
  | record i => (g.record i).map (·.2)
  | recordByIdentity i => (g.recordByIdentity i).map (·.2)

/-- The graph after a change. A refused change leaves it as it is. -/
def change (g : Graph) (c : Change) : Graph :=
  match c.perform g with
  | .ok g' => g'
  | .error _ => g

/-- The graph after a run of changes. -/
def after (g : Graph) (cs : List Change) : Graph :=
  cs.foldl change g

/-- One for a change that succeeds and makes another graph, zero for one that is refused or has
nothing to do. -/
def effect (g : Graph) (c : Change) : Nat :=
  match c.perform g with
  | .ok g' => if g' = g then 0 else 1
  | .error _ => 0

/-- How many changes of a run had an effect. -/
def effects : Graph → List Change → Nat
  | _, [] => 0
  | g, c :: cs => g.effect c + (g.change c).effects cs

@[simp]
theorem after_nil (g : Graph) : g.after [] = g :=
  rfl

theorem after_cons (g : Graph) (c : Change) (cs : List Change) :
    g.after (c :: cs) = (g.change c).after cs :=
  rfl

theorem after_append (g : Graph) (cs cs' : List Change) :
    g.after (cs ++ cs') = (g.after cs).after cs' :=
  List.foldl_append

theorem effects_append (g : Graph) (cs cs' : List Change) :
    g.effects (cs ++ cs') = g.effects cs + (g.after cs).effects cs' := by
  induction cs generalizing g with
  | nil => rw [List.nil_append, effects, Nat.zero_add, after_nil]
  | cons c cs ih => rw [List.cons_append, effects, effects, ih, after_cons, Nat.add_assoc]

theorem effect_eq (g : Graph) (c : Change) : g.effect c = if g.change c = g then 0 else 1 := by
  rw [effect, Graph.change]
  cases c.perform g <;> simp

/-! ### What a change can do -/

theorem change_addEmployee (g : Graph) (e : Employee) :
    g.change (.addEmployee e) =
      if e.id ∈ g.employees then g
      else { g with
        employees := g.employees.insert e.id e
        ties := g.ties.insertIfNew e.id ∅ } := by
  by_cases h : e.id ∈ g.employees <;> simp [change, Change.perform, addEmployee, h]

theorem change_addIdentity (g : Graph) (i : Identity) :
    g.change (.addIdentity i) =
      if i.employeeId ∈ g.employees ∧ i.externalId ∉ g.identities then
        { g with
          identities := g.identities.insert i.externalId i
          owners := g.owners.insert i.externalId i.employeeId }
      else g := by
  by_cases h₁ : i.employeeId ∈ g.employees
  · by_cases h₂ : i.externalId ∈ g.identities <;>
      simp [change, Change.perform, addIdentity, h₁, h₂]
  · simp [change, Change.perform, addIdentity, h₁]

theorem change_record (g : Graph) (i : Interaction) :
    g.change (.record i) =
      if i.employeeA ∈ g.employees ∧ i.employeeB ∈ g.employees ∧ i.employeeA ≠ i.employeeB then
        { g with
          log := g.log.push i
          ties := g.ties.join i.employeeA i.employeeB }
      else g := by
  by_cases h₁ : i.employeeA ∈ g.employees
  · by_cases h₂ : i.employeeB ∈ g.employees
    · by_cases h₃ : i.employeeA = i.employeeB <;>
        simp [change, Change.perform, record, append, Except.map, h₁, h₂, h₃]
    · simp [change, Change.perform, record, append, Except.map, h₁, h₂]
  · simp [change, Change.perform, record, append, Except.map, h₁]

/-- An interaction between chat identities is one between the employees behind them. -/
theorem change_recordByIdentity (g : Graph) (i : Interaction) :
    g.change (.recordByIdentity i) =
      match g.resolve i.employeeA, g.resolve i.employeeB with
      | some a, some b => g.change (.record { i with employeeA := a, employeeB := b })
      | _, _ => g := by
  cases ha : g.resolve i.employeeA <;> cases hb : g.resolve i.employeeB <;>
    simp [change, Change.perform, recordByIdentity, Except.map, ha, hb]

/-! ### The invariant -/

/-- The graph's tables fit together. -/
structure Coherent (g : Graph) : Prop where
  /-- Employees stand under their ids. -/
  employee_id : ∀ {id : String} {e : Employee}, g.employees[id]? = some e → e.id = id
  /-- Chat identities stand under their external ids. -/
  identity_id : ∀ {x : String} {i : Identity}, g.identities[x]? = some i → i.externalId = x
  /-- Chat identities belong to registered employees. -/
  identity_employee : ∀ {x : String} {i : Identity},
    g.identities[x]? = some i → i.employeeId ∈ g.employees
  /-- The owners are those that the chat identities name. -/
  owners : ∀ x : String, g.owners[x]? = g.identities[x]?.map (·.employeeId)
  /-- Interactions are between two registered employees. -/
  log : ∀ i ∈ g.log.toList,
    i.employeeA ∈ g.employees ∧ i.employeeB ∈ g.employees ∧ i.employeeA ≠ i.employeeB
  /-- The ties are those of a replay of the whole log. -/
  ties : g.ties = g.replay fun _ => true

theorem coherent_empty : empty.Coherent where
  employee_id h := by simp [empty] at h
  identity_id h := by simp [empty] at h
  identity_employee h := by simp [empty] at h
  owners x := by simp [empty]
  log i h := by simp [empty] at h
  ties := by
    refine Ties.ext ?_ ?_
    · intro a
      rw [replay, Ties.mem_replay]
      simp [empty]
    · intro a b
      rw [Ties.weight?_of_not_mem (by simp [empty])]
      rw [Ties.weight?_of_not_mem (by rw [replay, Ties.mem_replay]; simp [empty])]

/-- A new employee adds an empty row to a replay and nothing else. -/
theorem replay_insert (employees : Staff) (e : Employee) (log : List Interaction)
    (accepts : Interaction → Bool) :
    Ties.replay (employees.insert e.id e).keys log accepts =
      (Ties.replay employees.keys log accepts).insertIfNew e.id ∅ := by
  refine Ties.ext ?_ ?_
  · intro a
    rw [Ties.mem_insertIfNew, Ties.mem_replay, Ties.mem_replay, Std.ExtTreeMap.mem_keys,
      Std.ExtTreeMap.mem_keys, Keyed.mem_insert, or_assoc, eq_comm]
  · intro a b
    rw [Ties.weight?_insertIfNew]
    by_cases hab : a = b
    · rw [hab, Ties.weight?_replay_self, Ties.weight?_replay_self]
    · rw [Ties.weight?_replay _ _ _ hab, Ties.weight?_replay _ _ _ hab]

namespace Coherent

variable {g : Graph}

theorem addEmployee (hg : g.Coherent) (e : Employee) : (g.change (.addEmployee e)).Coherent := by
  rw [change_addEmployee]
  split
  · exact hg
  · exact {
      employee_id := by
        intro id e' h
        rw [Keyed.getElem?_insert] at h
        split at h
        · next hid => rw [← Option.some.inj h, hid]
        · exact hg.employee_id h
      identity_id := hg.identity_id
      identity_employee := fun h => Keyed.mem_insert.2 (.inr (hg.identity_employee h))
      owners := hg.owners
      log := by
        intro i hi
        obtain ⟨ha, hb, hab⟩ := hg.log i hi
        exact ⟨Keyed.mem_insert.2 (.inr ha), Keyed.mem_insert.2 (.inr hb), hab⟩
      ties := by rw [hg.ties]; exact (replay_insert _ _ _ _).symm }

theorem addIdentity (hg : g.Coherent) (i : Identity) : (g.change (.addIdentity i)).Coherent := by
  rw [change_addIdentity]
  split
  · next hi =>
    exact {
      employee_id := hg.employee_id
      identity_id := by
        intro x i' h
        rw [Keyed.getElem?_insert] at h
        split at h
        · next hx => rw [← Option.some.inj h, hx]
        · exact hg.identity_id h
      identity_employee := by
        intro x i' h
        rw [Keyed.getElem?_insert] at h
        split at h
        · rw [← Option.some.inj h]
          exact hi.1
        · exact hg.identity_employee h
      owners := by
        intro x
        rw [Keyed.getElem?_insert, Keyed.getElem?_insert]
        split
        · rfl
        · exact hg.owners x
      log := hg.log
      ties := hg.ties }
  · exact hg

theorem record (hg : g.Coherent) (i : Interaction) : (g.change (.record i)).Coherent := by
  rw [change_record]
  split
  · next hi =>
    exact {
      employee_id := hg.employee_id
      identity_id := hg.identity_id
      identity_employee := hg.identity_employee
      owners := hg.owners
      log := by
        intro j hj
        rw [Array.toList_push, List.mem_append, List.mem_singleton] at hj
        rcases hj with hj | rfl
        · exact hg.log j hj
        · exact hi
      ties := by
        rw [replay, Array.toList_push, Ties.replay_concat _ _ rfl, hg.ties]
        rfl }
  · exact hg

/-- **A change keeps the invariant**, whether or not it is refused. -/
theorem change (hg : g.Coherent) (c : Change) : (g.change c).Coherent := by
  cases c with
  | addEmployee e => exact hg.addEmployee e
  | addIdentity i => exact hg.addIdentity i
  | record i => exact hg.record i
  | recordByIdentity i =>
    rw [change_recordByIdentity]
    split
    · exact hg.record _
    · exact hg

/-- **A run keeps the invariant.** -/
theorem after (hg : g.Coherent) (cs : List Change) : (g.after cs).Coherent := by
  induction cs generalizing g with
  | nil => exact hg
  | cons c cs ih => exact ih (hg.change c)

/-! ### What the invariant says of the ties -/

/-- The rows are those of the registered employees. -/
theorem mem_ties_iff (hg : g.Coherent) {id : String} : id ∈ g.ties ↔ id ∈ g.employees := by
  rw [hg.ties, replay, Ties.mem_replay, Std.ExtTreeMap.mem_keys]
  constructor
  · rintro (h | ⟨i, hi, -, -, rfl | rfl⟩)
    · exact h
    · exact (hg.log i hi).1
    · exact (hg.log i hi).2.1
  · exact .inl

/-- The weight between two employees counts their interactions in the log. -/
theorem weight?_ties (hg : g.Coherent) {a b : String} (hab : a ≠ b) :
    g.ties.weight? a b = Ties.tally (g.log.toList.countP fun i => i.joins a b) := by
  rw [hg.ties, replay, Ties.weight?_replay _ _ _ hab]
  simp only [Bool.true_and]

theorem weight?_ties_self (hg : g.Coherent) (a : String) : g.ties.weight? a a = none := by
  rw [hg.ties, replay, Ties.weight?_replay_self]

/-- Replaying the log changes nothing. -/
theorem rebuild_eq (hg : g.Coherent) : g.rebuild = g := by
  rw [rebuild, ← hg.ties]

/-- Graphs with the same registries and the same log are equal. -/
theorem eq_of_registries_eq (hg : g.Coherent) {h : Graph} (hh : h.Coherent)
    (hemployees : g.employees = h.employees) (hidentities : g.identities = h.identities)
    (hlog : g.log = h.log) : g = h := by
  have howners : g.owners = h.owners := by
    refine Std.ExtTreeMap.ext_getElem? ?_
    intro x
    rw [hg.owners, hh.owners, hidentities]
  have hties : g.ties = h.ties := by
    rw [hg.ties, hh.ties, replay, replay, hemployees, hlog]
  obtain ⟨_, _, _, _, _⟩ := g
  obtain ⟨_, _, _, _, _⟩ := h
  simp_all

end Coherent

/-! ### Counting effects -/

/-- A change that leaves the graph alone or adds one to its size adds its effect to its size. -/
theorem add_effect (size : Graph → Nat) {g : Graph} {c : Change}
    (h : g.change c = g ∨ size (g.change c) = size g + 1) :
    size (g.change c) = size g + g.effect c := by
  rw [effect_eq]
  rcases h with h | h
  · rw [if_pos h, h]
    rfl
  · rw [if_neg fun he => by rw [he] at h; omega, h]

section Runs

variable {α β : Type} {request : α → Change}

/-- What every change of one kind adds to its size, a run of them adds once for each effect. -/
theorem add_effects (size : Graph → Nat)
    (h : ∀ g a, g.change (request a) = g ∨ size (g.change (request a)) = size g + 1) (g : Graph)
    (as : List α) : size (g.after (as.map request)) = size g + g.effects (as.map request) := by
  induction as generalizing g with
  | nil => rfl
  | cons a as ih =>
    rw [List.map_cons, after_cons, ih, add_effect size (h g a), effects, Nat.add_assoc]

/-- What no change of one kind touches, a run of them does not touch. -/
theorem after_frame (view : Graph → β) (h : ∀ g a, view (g.change (request a)) = view g) (g : Graph)
    (as : List α) : view (g.after (as.map request)) = view g := by
  induction as generalizing g with
  | nil => rfl
  | cons a as ih => rw [List.map_cons, after_cons, ih, h]

end Runs

theorem size_change_addEmployee (g : Graph) (e : Employee) :
    g.change (.addEmployee e) = g ∨
      (g.change (.addEmployee e)).employees.size = g.employees.size + 1 := by
  rw [change_addEmployee]
  split
  · exact .inl rfl
  · next h => exact .inr (by simp [Std.ExtTreeMap.size_insert, h])

theorem size_change_addIdentity (g : Graph) (i : Identity) :
    g.change (.addIdentity i) = g ∨
      (g.change (.addIdentity i)).identities.size = g.identities.size + 1 := by
  rw [change_addIdentity]
  split
  · next h => exact .inr (by simp [Std.ExtTreeMap.size_insert, h.2])
  · exact .inl rfl

theorem size_change_record (g : Graph) (i : Interaction) :
    g.change (.record i) = g ∨ (g.change (.record i)).log.size = g.log.size + 1 := by
  rw [change_record]
  split
  · exact .inr (by simp)
  · exact .inl rfl

theorem employees_change_addIdentity (g : Graph) (i : Identity) :
    (g.change (.addIdentity i)).employees = g.employees := by
  rw [change_addIdentity]
  split <;> rfl

theorem employees_change_record (g : Graph) (i : Interaction) :
    (g.change (.record i)).employees = g.employees := by
  rw [change_record]
  split <;> rfl

theorem identities_change_addEmployee (g : Graph) (e : Employee) :
    (g.change (.addEmployee e)).identities = g.identities := by
  rw [change_addEmployee]
  split <;> rfl

theorem identities_change_record (g : Graph) (i : Interaction) :
    (g.change (.record i)).identities = g.identities := by
  rw [change_record]
  split <;> rfl

theorem log_change_addEmployee (g : Graph) (e : Employee) :
    (g.change (.addEmployee e)).log = g.log := by
  rw [change_addEmployee]
  split <;> rfl

theorem log_change_addIdentity (g : Graph) (i : Identity) :
    (g.change (.addIdentity i)).log = g.log := by
  rw [change_addIdentity]
  split <;> rfl

end Teamwork.Graph
