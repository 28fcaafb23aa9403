import Teamwork.Proofs.Graph.Growth
import Teamwork.Proofs.Graph.Operations

/-!
# Interactions between chat identities

A chat identity is looked up in a table of its own, which holds nothing but the ids of employees,
and an interaction between two chat identities is recorded between the two employees found there.
Whoever reads the graph sees another table, the registry with the records of the chat identities,
and a third one with the employees. Nothing in the operation itself makes sure that the employee
found is the one that the record names, or that this employee is registered; a graph whose tables
disagree would record for somebody else or refuse an interaction for a reason that the caller cannot
see.

In a reachable graph the three tables agree. So a lookup fails just for the external ids that are
not registered, and what comes after it cannot fail.

## Main definitions

* `Interaction.between` — an interaction with other participants.

## Main results

* `Graph.Coherent.recordByIdentity_eq` — recording by identity, told by the registry.
* `Graph.record_of_registered` — recording between registered employees does not fail.
* `Graph.recordByIdentity_reached` — what becomes of every interaction between chat identities.
-/

namespace Teamwork

/-- The interaction with these participants in place of its own. -/
def Interaction.between (i : Interaction) (a b : String) : Interaction :=
  { i with employeeA := a, employeeB := b }

namespace Graph

variable {g : Graph}

/-- The employee found behind a chat identity is the one that its record names. -/
theorem Coherent.resolve_eq (hg : g.Coherent) (x : String) :
    g.resolve x = g.identities[x]?.map (·.employeeId) :=
  hg.owners x

/-- Recording by identity asks the registry who is meant, about the first participant first, and
leaves the rest to recording by employee. -/
theorem Coherent.recordByIdentity_eq (hg : g.Coherent) (i : Interaction) :
    g.recordByIdentity i =
      match g.identities[i.employeeA]?, g.identities[i.employeeB]? with
      | some a, some b => g.record (i.between a.employeeId b.employeeId)
      | none, _ => .error (.unknownIdentity i.employeeA)
      | some _, none => .error (.unknownIdentity i.employeeB) := by
  rw [recordByIdentity, hg.resolve_eq, hg.resolve_eq]
  cases g.identities[i.employeeA]? <;> cases g.identities[i.employeeB]? <;> rfl

/-- An interaction between registered employees is ignored or recorded. -/
theorem record_of_registered {i : Interaction} (ha : i.employeeA ∈ g.employees)
    (hb : i.employeeB ∈ g.employees) :
    g.record i = .ok (if i.employeeA = i.employeeB then .ignoredSelf else .recorded,
      g.change (.record i)) := by
  rw [change_record]
  by_cases hab : i.employeeA = i.employeeB
  · simp [record, append, Except.map, hab, hb]
  · simp [record, append, Except.map, hab, ha, hb]

/-- An interaction between registered employees changes nothing just if they are one employee. -/
theorem change_record_eq_self_iff {i : Interaction} (ha : i.employeeA ∈ g.employees)
    (hb : i.employeeB ∈ g.employees) :
    g.change (.record i) = g ↔ i.employeeA = i.employeeB := by
  rw [change_record]
  split
  · next h =>
    refine ⟨fun heq => ?_, fun hab => absurd hab h.2.2⟩
    have hsize := congrArg (·.log.size) heq
    simp at hsize
  · next h =>
    refine ⟨fun _ => ?_, fun _ => rfl⟩
    by_contra hab
    exact h ⟨ha, hb, hab⟩

/-- **Recording by identity is recording by employee, for all that is registered.** An external id
that is not registered is reported, the first participant's before the second's, and nothing is
changed. Between two that are registered the interaction is the one between the employees that their
records name. It is not refused, and it is ignored just if these are one employee. -/
theorem recordByIdentity_reached (ops : List Operation) (i : Interaction) :
    (i.employeeA ∉ (reached ops).identities →
      (reached ops).recordByIdentity i = .error (.unknownIdentity i.employeeA) ∧
        (reached ops).change (.recordByIdentity i) = reached ops) ∧
    (i.employeeA ∈ (reached ops).identities → i.employeeB ∉ (reached ops).identities →
      (reached ops).recordByIdentity i = .error (.unknownIdentity i.employeeB) ∧
        (reached ops).change (.recordByIdentity i) = reached ops) ∧
    ∀ a b, (reached ops).identities[i.employeeA]? = some a →
      (reached ops).identities[i.employeeB]? = some b →
      ∃ outcome g', (reached ops).recordByIdentity i = .ok (outcome, g') ∧
        (reached ops).record (i.between a.employeeId b.employeeId) = .ok (outcome, g') ∧
        (outcome = .ignoredSelf ↔ a.employeeId = b.employeeId) ∧
        (g' = reached ops ↔ a.employeeId = b.employeeId) := by
  have hg := coherent_reached ops
  have hunchanged : ∀ {e}, (reached ops).recordByIdentity i = .error e →
      (reached ops).change (.recordByIdentity i) = reached ops := by
    intro e he
    rw [Graph.change, Change.perform, he]
    rfl
  refine ⟨fun ha => ?_, fun ha hb => ?_, fun a b ha hb => ?_⟩
  · have hrefused : (reached ops).recordByIdentity i = .error (.unknownIdentity i.employeeA) := by
      rw [hg.recordByIdentity_eq, Std.ExtTreeMap.getElem?_eq_none ha]
    exact ⟨hrefused, hunchanged hrefused⟩
  · obtain ⟨a, ha⟩ := Option.isSome_iff_exists.1 (Std.ExtTreeMap.mem_iff_isSome_getElem?.1 ha)
    have hrefused : (reached ops).recordByIdentity i = .error (.unknownIdentity i.employeeB) := by
      rw [hg.recordByIdentity_eq, ha, Std.ExtTreeMap.getElem?_eq_none hb]
    exact ⟨hrefused, hunchanged hrefused⟩
  · have hrecord := record_of_registered (i := i.between a.employeeId b.employeeId)
      (hg.identity_employee ha) (hg.identity_employee hb)
    refine ⟨_, _, ?_, hrecord, ?_, ?_⟩
    · rw [hg.recordByIdentity_eq, ha, hb]
      exact hrecord
    · by_cases hab : a.employeeId = b.employeeId <;> simp [Interaction.between, hab]
    · exact change_record_eq_self_iff (i := i.between a.employeeId b.employeeId)
        (hg.identity_employee ha) (hg.identity_employee hb)

/-- Two employees, of whom one has two chat identities. -/
def threeAccounts : List Operation :=
  (["a", "b"].map fun id => .change (.addEmployee ⟨id, "", "", ""⟩)) ++
    [("n", "a"), ("m", "b"), ("o", "a")].map fun (x, id) => .change (.addIdentity ⟨x, "", id⟩)

/-- A discussion between two chat identities, at 2025-03-01T12:00:01.375Z. -/
def discussion (x y : String) : Interaction where
  issueKey := ""
  employeeA := x
  employeeB := y
  kind := .discussion
  timestamp := ⟨1740830401, 375000000, by decide, by decide, by decide, by decide⟩

theorem recordByIdentity_reached_threeAccounts :
    ("x" ∉ (reached threeAccounts).identities ∧
      (reached threeAccounts).recordByIdentity (discussion "x" "y") =
        .error (.unknownIdentity "x")) ∧
    ("n" ∈ (reached threeAccounts).identities ∧ "y" ∉ (reached threeAccounts).identities ∧
      (reached threeAccounts).recordByIdentity (discussion "n" "y") =
        .error (.unknownIdentity "y")) ∧
    ((reached threeAccounts).identities["n"]? = some ⟨"n", "", "a"⟩ ∧
      (reached threeAccounts).identities["o"]? = some ⟨"o", "", "a"⟩ ∧
      (reached threeAccounts).identities["m"]? = some ⟨"m", "", "b"⟩) ∧
    (reached threeAccounts).recordByIdentity (discussion "n" "o") =
      .ok (.ignoredSelf, reached threeAccounts) ∧
    ∃ g', (reached threeAccounts).recordByIdentity (discussion "n" "m") = .ok (.recorded, g') ∧
      (reached threeAccounts).record (discussion "a" "b") = .ok (.recorded, g') := by
  have hx : "x" ∉ (reached threeAccounts).identities := by decide +kernel
  have hy : "y" ∉ (reached threeAccounts).identities := by decide +kernel
  have hn : (reached threeAccounts).identities["n"]? = some ⟨"n", "", "a"⟩ := by decide +kernel
  have ho : (reached threeAccounts).identities["o"]? = some ⟨"o", "", "a"⟩ := by decide +kernel
  have hm : (reached threeAccounts).identities["m"]? = some ⟨"m", "", "b"⟩ := by decide +kernel
  have hmem : "n" ∈ (reached threeAccounts).identities := by
    rw [Std.ExtTreeMap.mem_iff_isSome_getElem?, hn]
    rfl
  obtain ⟨hfirst, -, -⟩ := recordByIdentity_reached threeAccounts (discussion "x" "y")
  obtain ⟨-, hsecond, -⟩ := recordByIdentity_reached threeAccounts (discussion "n" "y")
  obtain ⟨-, -, hself⟩ := recordByIdentity_reached threeAccounts (discussion "n" "o")
  obtain ⟨-, -, hpair⟩ := recordByIdentity_reached threeAccounts (discussion "n" "m")
  obtain ⟨outcome, g', hby, -, houtcome, hsame⟩ := hself _ _ hn ho
  obtain ⟨outcome', g'', hby', hrecord, houtcome', -⟩ := hpair _ _ hn hm
  refine ⟨⟨hx, (hfirst hx).1⟩, ⟨hmem, hy, (hsecond hmem hy).1⟩, ⟨hn, ho, hm⟩, ?_, g'', ?_⟩
  · rw [hby, houtcome.2 rfl, hsame.2 rfl]
  · cases outcome' with
    | recorded => exact ⟨hby', hrecord⟩
    | ignoredSelf => exact absurd (houtcome'.1 rfl) (by decide)

end Graph

end Teamwork
