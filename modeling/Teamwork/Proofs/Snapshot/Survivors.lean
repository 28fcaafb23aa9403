import Teamwork.Proofs.Snapshot.Entering
import Teamwork.Proofs.Snapshot.Records

/-!
# Elements that could not be read

An element of an array that could not be read is kept as a fault, and a fault is never entered: it
leaves the graph alone and adds one line to the account. So an array may as well be rid of its
faults. What is loaded is the same, and as many elements fewer are left out.

## Main definitions

* `Snapshot.survivors`, `Snapshot.countFaults` — the elements that were read, and the number of
  others.

## Main results

* `Snapshot.enterAll_survivors` — entering an array with and without its faults.
* `Snapshot.enterArrays_survivors` — loading three arrays with and without their faults.
-/

namespace Teamwork.Snapshot

/-- The elements of an array that were read. -/
def survivors (slots : List Slot) : List Slot :=
  slots.filter (·.isOk)

/-- How many elements of an array were not read. -/
def countFaults (slots : List Slot) : Nat :=
  slots.countP fun slot => !slot.isOk

/-- **A fault leaves no trace but a line in the account.** -/
theorem enterAll_survivors (enter : Graph → Fields → Except Issue Graph)
    (index index' loaded : Nat) (g : Graph) (slots : List Slot) :
    (enterAll enter index loaded g slots).1 =
        (enterAll enter index' loaded g (survivors slots)).1 ∧
      (enterAll enter index loaded g slots).2.loaded =
        (enterAll enter index' loaded g (survivors slots)).2.loaded ∧
      (enterAll enter index loaded g slots).2.skipped.length =
        (enterAll enter index' loaded g (survivors slots)).2.skipped.length +
          countFaults slots := by
  induction slots generalizing index index' loaded g with
  | nil => exact ⟨rfl, rfl, rfl⟩
  | cons slot slots ih =>
    cases slot with
    | error fault =>
      have hsurvivors : survivors (.error fault :: slots) = survivors slots := rfl
      have hcount : countFaults (.error fault :: slots) = countFaults slots + 1 :=
        List.countP_cons_of_pos rfl
      obtain ⟨hgraph, hloaded, hlength⟩ := ih (index + 1) index' loaded g
      rw [hsurvivors, hcount, ← Nat.add_assoc, ← hlength]
      exact ⟨hgraph, hloaded, rfl⟩
    | ok fields =>
      have hsurvivors : survivors (.ok fields :: slots) = .ok fields :: survivors slots := rfl
      have hcount : countFaults (.ok fields :: slots) = countFaults slots := rfl
      rw [hsurvivors, hcount, enterAll, enterAll, enterSlot]
      cases henter : enter g fields with
      | ok g' => exact ih (index + 1) (index' + 1) (loaded + 1) g'
      | error issue =>
        obtain ⟨hgraph, hloaded, hlength⟩ := ih (index + 1) (index' + 1) loaded g
        refine ⟨hgraph, hloaded, ?_⟩
        simp only [List.length_cons]
        omega

/-- One account of an array agrees with another that has so many more elements left out. -/
structure Intake.Exceeds (intake intake' : Intake) (faults : Nat) : Prop where
  /-- The same number of elements was entered. -/
  loaded : intake.loaded = intake'.loaded
  /-- So many more were left out. -/
  skipped : intake.skipped.length = intake'.skipped.length + faults

theorem exceeds_survivors (enter : Graph → Fields → Except Issue Graph) (g : Graph)
    (slots : List Slot) :
    (enterAll enter 0 0 g slots).2.Exceeds (enterAll enter 0 0 g (survivors slots)).2
      (countFaults slots) := by
  obtain ⟨-, hloaded, hlength⟩ := enterAll_survivors enter 0 0 0 g slots
  exact ⟨hloaded, hlength⟩

/-- One load agrees with another that has so many more employees, chat identities and interactions
left out. -/
structure Loaded.Exceeds (loaded loaded' : Loaded) (employees identities interactions : Nat) :
    Prop where
  /-- Both have the same graph. -/
  graph : loaded.graph = loaded'.graph
  /-- The accounts of employees. -/
  employees : loaded.employees.Exceeds loaded'.employees employees
  /-- The accounts of chat identities. -/
  identities : loaded.identities.Exceeds loaded'.identities identities
  /-- The accounts of interactions. -/
  interactions : loaded.interactions.Exceeds loaded'.interactions interactions

/-- **Faults do not matter.** Three arrays load as they do without their faults. -/
theorem enterArrays_survivors (employees identities interactions : List Slot) :
    (enterArrays employees identities interactions).Exceeds
      (enterArrays (survivors employees) (survivors identities) (survivors interactions))
      (countFaults employees) (countFaults identities) (countFaults interactions) := by
  have he := (enterAll_survivors enterEmployee 0 0 0 Graph.empty employees).1
  have hi := fun g => (enterAll_survivors enterIdentity 0 0 0 g identities).1
  have ht := fun g => (enterAll_survivors enterInteraction 0 0 0 g interactions).1
  constructor
  · simp only [enterArrays, he, hi, ht]
  · exact exceeds_survivors enterEmployee Graph.empty employees
  · simp only [enterArrays, he]
    exact exceeds_survivors enterIdentity _ identities
  · simp only [enterArrays, he, hi]
    exact exceeds_survivors enterInteraction _ interactions

/-! ### Collected arrays -/

theorem lastValue_map {α β : Type} (f : α → β) (found : List (String × Option α)) (name : String) :
    lastValue (found.map fun p => (p.1, p.2.map f)) name = (lastValue found name).map f := by
  induction found with
  | nil => rfl
  | cons p found ih =>
    rw [List.map_cons, lastValue_cons, lastValue_cons, ih, Option.map_or]
    congr 1
    split <;> rfl

theorem lastValue_append_none {α : Type} (found : List (String × Option α))
    {tail : List (String × Option α)} (htail : ∀ p ∈ tail, p.2 = none) (name : String) :
    lastValue (found ++ tail) name = lastValue found name := by
  have hnone : lastValue tail name = none := by
    rw [lastValue, List.findSome?_eq_none_iff]
    intro p hp
    simp [htail p (List.mem_reverse.1 hp)]
  induction found with
  | nil => exact hnone
  | cons p found ih => rw [List.cons_append, lastValue_cons, ih, lastValue_cons]

end Teamwork.Snapshot
