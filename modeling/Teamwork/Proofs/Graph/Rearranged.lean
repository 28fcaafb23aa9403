import Teamwork.Proofs.Graph.Operations
import Teamwork.Snapshot.Writing

/-!
# The order of changes does not matter

Two runs that register the same and record the same interactions make graphs that cannot be told
apart by their answers, whatever the order of the changes was, whoever of two participants was named
first, and whether participants were named by their own ids or by their chat identities.

Changes cannot be moved past each other one by one, because most of them need an earlier one: an
identity its employee, an interaction its participants. So nothing is said about neighboring
changes. Instead the tables of the graph are read off the list of changes, and what is read off does
not depend on the order of the list. This needs runs without a refused change; a refused change
may succeed at another place.

Only the log remembers an order. Runs that record their interactions in the same order, with the
same participant named first, have the same snapshot.

## Main definitions

* `Interaction.unordered` — an interaction without regard to who is named first.
* `Graph.performAll` — a run that is given up as soon as a change is refused.
* `Graph.employeesOf`, `Graph.identitiesOf`, `Graph.interactionsOf` — what a run asks for.
* `Graph.SameContent` — runs that ask for the same.
* `Graph.AnswersAlike` — graphs with the same answers.

## Main results

* `Ties.replay_eq_of_perm` — ties do not depend on the order of the log.
* `Graph.employees_of_performAll`, `Graph.identities_of_performAll`, `Graph.log_of_performAll` — the
  tables of a graph, read off the run that made it.
* `Graph.answersAlike_of_sameContent` — runs that ask for the same.
-/

namespace Teamwork

/-! ### Interactions up to order -/

namespace Interaction

/-- The same interaction with the other participant named first. -/
def swap (i : Interaction) : Interaction :=
  { i with employeeA := i.employeeB, employeeB := i.employeeA }

/-- The interaction with the lesser id named first, as it does not matter which one is. -/
def unordered (i : Interaction) : Interaction :=
  if i.employeeA ≤ i.employeeB then i else i.swap

theorem unordered_eq_or (i : Interaction) : i.unordered = i ∨ i.unordered = i.swap := by
  rw [unordered]
  split
  · exact .inl rfl
  · exact .inr rfl

/-- What does not change when the participants are swapped can be said of unordered interactions. -/
theorem apply_unordered {α : Type} {f : Interaction → α} (hf : ∀ i, f i.swap = f i)
    (i : Interaction) : f i.unordered = f i := by
  rcases i.unordered_eq_or with h | h
  · rw [h]
  · rw [h, hf]

end Interaction

/-- No selection looks at which participant is named first. -/
theorem Selection.accepts_swap (selection : Selection) (i : Interaction) :
    selection.accepts i.swap = selection.accepts i := by
  induction selection with
  | since start => rfl
  | between start stop => rfl
  | kinds ks => rfl
  | involving id => exact Bool.or_comm _ _
  | both first second ih ih' => rw [accepts_both, accepts_both, ih, ih']

theorem Ties.replay_eq_of_perm (ids : List String) {log log' : List Interaction}
    (h : (log.map Interaction.unordered).Perm (log'.map Interaction.unordered))
    {accepts : Interaction → Bool} (haccepts : ∀ i, accepts i.swap = accepts i) :
    replay ids log accepts = replay ids log' accepts := by
  have hcount : ∀ q : Interaction → Bool, (∀ i, q i.swap = q i) →
      log.countP q = log'.countP q := by
    intro q hq
    have hq : q ∘ Interaction.unordered = q := funext (Interaction.apply_unordered hq)
    have hperm := h.countP_eq q
    rwa [List.countP_map, List.countP_map, hq] at hperm
  refine Ties.ext ?_ ?_
  · intro a
    let takesPart (i : Interaction) : Bool :=
      accepts i && decide (i.employeeA ≠ i.employeeB ∧ (a = i.employeeA ∨ a = i.employeeB))
    have htakes : ∀ log : List Interaction, 0 < log.countP takesPart ↔
        ∃ i ∈ log, accepts i = true ∧ i.employeeA ≠ i.employeeB ∧
          (a = i.employeeA ∨ a = i.employeeB) := by
      intro log
      simp [List.countP_pos_iff, takesPart]
    have hswap : ∀ i, takesPart i.swap = takesPart i := by
      intro i
      simp only [takesPart, haccepts]
      simp only [Interaction.swap, or_comm, ne_comm]
    rw [mem_replay, mem_replay, ← htakes, ← htakes, hcount takesPart hswap]
  · intro a b
    by_cases hab : a = b
    · rw [hab, weight?_replay_self, weight?_replay_self]
    · rw [weight?_replay _ _ _ hab, weight?_replay _ _ _ hab, hcount]
      intro i
      simp only [haccepts]
      simp only [Interaction.joins, Interaction.swap, and_comm, or_comm]

namespace Graph

/-! ### What a run asks for -/

/-- The employee that a change registers. -/
def Change.employee? : Change → Option Employee
  | addEmployee e => some e
  | _ => none

/-- The chat identity that a change registers. -/
def Change.identity? : Change → Option Identity
  | addIdentity i => some i
  | _ => none

/-- The interaction between employees that a change records, if `owner` says who is behind a chat
identity. -/
def Change.interaction? (owner : String → Option String) : Change → Option Interaction
  | record i => some i
  | recordByIdentity i =>
    match owner i.employeeA, owner i.employeeB with
    | some a, some b => some { i with employeeA := a, employeeB := b }
    | _, _ => none
  | _ => none

/-- The employees that a run registers. -/
def employeesOf (cs : List Change) : List Employee :=
  cs.filterMap Change.employee?

/-- The chat identities that a run registers. -/
def identitiesOf (cs : List Change) : List Identity :=
  cs.filterMap Change.identity?

/-- The id of the employee behind a chat identity of a list. -/
def ownerIn (identities : List Identity) (x : String) : Option String :=
  (identities.find? fun i => i.externalId = x).map (·.employeeId)

/-- The interactions that a run records. Those of employees with themselves are not recorded. -/
def interactionsOf (cs : List Change) : List Interaction :=
  (cs.filterMap (Change.interaction? (ownerIn (identitiesOf cs)))).filter fun i =>
    i.employeeA ≠ i.employeeB

/-- The runs register the same and record the same interactions, in any order and whichever
participant is named first. -/
structure SameContent (cs cs' : List Change) : Prop where
  /-- The employees are the same. -/
  employees : ∀ e, e ∈ employeesOf cs ↔ e ∈ employeesOf cs'
  /-- The chat identities are the same. -/
  identities : ∀ i, i ∈ identitiesOf cs ↔ i ∈ identitiesOf cs'
  /-- The interactions are the same, each of them as often. -/
  interactions : ((interactionsOf cs).map Interaction.unordered).Perm
    ((interactionsOf cs').map Interaction.unordered)

/-! ### Runs without a refusal -/

/-- The graph after a run, if no change is refused. -/
def performAll (g : Graph) (cs : List Change) : Except GraphError Graph :=
  cs.foldlM Change.perform g

theorem performAll_cons_eq_ok {g g' : Graph} {c : Change} {cs : List Change} :
    g.performAll (c :: cs) = .ok g' ↔
      ∃ g₁, c.perform g = .ok g₁ ∧ g₁.performAll cs = .ok g' := by
  rw [performAll, List.foldlM_cons]
  exact bind_eq_ok_iff

/-- What a change does that is not refused. -/
theorem perform_cases {g g' : Graph} {c : Change} (h : c.perform g = .ok g') :
    (∃ e, c = .addEmployee e ∧ e.id ∉ g.employees ∧
      g' = { g with
        employees := g.employees.insert e.id e
        ties := g.ties.insertIfNew e.id ∅ }) ∨
    (∃ i, c = .addIdentity i ∧ i.externalId ∉ g.identities ∧
      g' = { g with
        identities := g.identities.insert i.externalId i
        owners := g.owners.insert i.externalId i.employeeId }) ∨
    ∃ i, c.interaction? g.resolve = some i ∧
      g' = if i.employeeA = i.employeeB then g else { g with
        log := g.log.push i
        ties := g.ties.join i.employeeA i.employeeB } := by
  have hrecord : ∀ i, (g.record i).map (·.2) = .ok g' →
      g' = if i.employeeA = i.employeeB then g else { g with
        log := g.log.push i
        ties := g.ties.join i.employeeA i.employeeB } := by
    intro i h
    simp only [Graph.record, append] at h
    split at h
    · cases h
    · split at h
      · cases h
      · split at h
        · next hself =>
          rw [if_pos hself]
          exact (Except.ok.inj h).symm
        · next hself =>
          rw [if_neg hself]
          exact (Except.ok.inj h).symm
  cases c with
  | addEmployee e =>
    simp only [Change.perform, Graph.addEmployee] at h
    split at h
    · cases h
    · next hfree => exact .inl ⟨e, rfl, hfree, (Except.ok.inj h).symm⟩
  | addIdentity i =>
    simp only [Change.perform, Graph.addIdentity] at h
    split at h
    · cases h
    · split at h
      · cases h
      · next hfree => exact .inr (.inl ⟨i, rfl, hfree, (Except.ok.inj h).symm⟩)
  | record i => exact .inr (.inr ⟨i, rfl, hrecord i h⟩)
  | recordByIdentity i =>
    simp only [Change.perform, Graph.recordByIdentity] at h
    split at h
    · next a b ha hb => exact .inr (.inr ⟨_, by rw [Change.interaction?, ha, hb], hrecord _ h⟩)
    · cases h
    · cases h

theorem registers_nothing_of_interaction? {owner : String → Option String} {c : Change}
    {i : Interaction} (h : c.interaction? owner = some i) :
    c.employee? = none ∧ c.identity? = none := by
  cases c with
  | addEmployee e => cases h
  | addIdentity j => cases h
  | record j => exact ⟨rfl, rfl⟩
  | recordByIdentity j => exact ⟨rfl, rfl⟩

/-- What is found in a registry after a run was found there before, or the run registered it. -/
theorem registry_of_performAll {α : Type} (registry : Graph → Keyed α) (new? : Change → Option α)
    (idOf : α → String)
    (hstep : ∀ {g g' : Graph} {c : Change}, c.perform g = .ok g' →
      new? c = none ∧ registry g' = registry g ∨
        ∃ a, new? c = some a ∧ idOf a ∉ registry g ∧ registry g' = (registry g).insert (idOf a) a)
    {g g' : Graph} {cs : List Change} (h : g.performAll cs = .ok g') {id : String} {a : α} :
    (registry g')[id]? = some a ↔
      (registry g)[id]? = some a ∨ a ∈ cs.filterMap new? ∧ idOf a = id := by
  induction cs generalizing g with
  | nil =>
    rw [← Except.ok.inj h]
    simp
  | cons c cs ih =>
    obtain ⟨g₁, hc, hcs⟩ := performAll_cons_eq_ok.1 h
    rw [ih hcs, List.filterMap_cons]
    rcases hstep hc with ⟨hnew, hregistry⟩ | ⟨b, hnew, hfree, hregistry⟩
    · rw [hnew, hregistry]
    · have hnone : (registry g)[idOf b]? = none := Std.ExtTreeMap.getElem?_eq_none hfree
      rw [hnew, hregistry, Keyed.getElem?_insert, List.mem_cons]
      grind

theorem employees_of_performAll {g g' : Graph} {cs : List Change} (h : g.performAll cs = .ok g')
    {id : String} {e : Employee} :
    g'.employees[id]? = some e ↔ g.employees[id]? = some e ∨ e ∈ employeesOf cs ∧ e.id = id := by
  refine registry_of_performAll Graph.employees Change.employee? (·.id) ?_ h
  intro g g' c hc
  rcases perform_cases hc with ⟨e, rfl, hfree, rfl⟩ | ⟨i, rfl, -, rfl⟩ | ⟨i, hi, rfl⟩
  · exact .inr ⟨e, rfl, hfree, rfl⟩
  · exact .inl ⟨rfl, rfl⟩
  · refine .inl ⟨(registers_nothing_of_interaction? hi).1, ?_⟩
    split <;> rfl

theorem identities_of_performAll {g g' : Graph} {cs : List Change} (h : g.performAll cs = .ok g')
    {x : String} {i : Identity} :
    g'.identities[x]? = some i ↔
      g.identities[x]? = some i ∨ i ∈ identitiesOf cs ∧ i.externalId = x := by
  refine registry_of_performAll Graph.identities Change.identity? (·.externalId) ?_ h
  intro g g' c hc
  rcases perform_cases hc with ⟨e, rfl, -, rfl⟩ | ⟨i, rfl, hfree, rfl⟩ | ⟨i, hi, rfl⟩
  · exact .inl ⟨rfl, rfl⟩
  · exact .inr ⟨i, rfl, hfree, rfl⟩
  · refine .inl ⟨(registers_nothing_of_interaction? hi).2, ?_⟩
    split <;> rfl

theorem after_of_performAll {g g' : Graph} {cs : List Change} (h : g.performAll cs = .ok g') :
    g' = g.after cs := by
  have hafter := eq_after_of_foldlM id (fun _ _ => rfl) h
  rwa [List.map_id] at hafter

/-- Whom a chat identity belongs to does not change any more. -/
theorem Coherent.resolve_of_performAll {g g' : Graph} (hg : g.Coherent) {cs : List Change}
    (h : g.performAll cs = .ok g') {x a : String} (hx : g.resolve x = some a) :
    g'.resolve x = some a := by
  have hg' : g'.Coherent := after_of_performAll h ▸ hg.after cs
  rw [resolve, hg.owners, Option.map_eq_some_iff] at hx
  obtain ⟨i, hi, rfl⟩ := hx
  rw [resolve, hg'.owners, (identities_of_performAll h).2 (.inl hi)]
  rfl

/-- An interaction is between the same employees for everybody who knows the chat identities. -/
theorem interaction?_mono {owner owner' : String → Option String}
    (h : ∀ x a, owner x = some a → owner' x = some a) {c : Change} {i : Interaction}
    (hi : c.interaction? owner = some i) : c.interaction? owner' = some i := by
  cases c with
  | addEmployee e => cases hi
  | addIdentity j => cases hi
  | record j => exact hi
  | recordByIdentity j =>
    rw [Change.interaction?] at hi ⊢
    split at hi
    · next a b ha hb =>
      rw [h _ _ ha, h _ _ hb]
      exact hi
    · cases hi

/-- The log grows by the interactions of the run, read with the chat identities as they are in the
end. -/
theorem Coherent.log_of_performAll {g g' : Graph} (hg : g.Coherent) {cs : List Change}
    (h : g.performAll cs = .ok g') :
    g'.log.toList = g.log.toList ++
      (cs.filterMap (Change.interaction? g'.resolve)).filter fun i =>
        i.employeeA ≠ i.employeeB := by
  induction cs generalizing g with
  | nil =>
    rw [← Except.ok.inj h]
    simp
  | cons c cs ih =>
    obtain ⟨g₁, hc, hcs⟩ := performAll_cons_eq_ok.1 h
    have hg₁ : g₁.Coherent := by
      have hchange := hg.change c
      rwa [Graph.change, hc] at hchange
    rw [ih hg₁ hcs, List.filterMap_cons]
    rcases perform_cases hc with ⟨e, rfl, -, rfl⟩ | ⟨i, rfl, -, rfl⟩ | ⟨i, hi, rfl⟩
    · rfl
    · rfl
    · rw [interaction?_mono (fun _ _ => hg.resolve_of_performAll h) hi]
      dsimp only
      rw [List.filter_cons]
      by_cases hself : i.employeeA = i.employeeB
      · simp [hself]
      · simp [hself]

/-! ### Graphs made by a run -/

section Made

variable {g g' : Graph} {cs cs' : List Change}

theorem coherent_of_performAll (h : empty.performAll cs = .ok g) : g.Coherent :=
  after_of_performAll h ▸ coherent_empty.after cs

theorem resolve_of_performAll (h : empty.performAll cs = .ok g) :
    g.resolve = ownerIn (identitiesOf cs) := by
  have hfound : ∀ {x i}, g.identities[x]? = some i ↔ i ∈ identitiesOf cs ∧ i.externalId = x := by
    intro x i
    rw [identities_of_performAll h]
    simp [empty]
  funext x
  have hfind : (identitiesOf cs).find? (fun i => i.externalId = x) = g.identities[x]? := by
    cases hfirst : (identitiesOf cs).find? fun i => i.externalId = x with
    | none =>
      refine (Option.eq_none_iff_forall_ne_some.2 ?_).symm
      intro i hi
      obtain ⟨hmem, hid⟩ := hfound.1 hi
      exact List.find?_eq_none.1 hfirst i hmem (decide_eq_true hid)
    | some i =>
      have hid : i.externalId = x := by simpa using List.find?_some hfirst
      exact (hfound.2 ⟨List.mem_of_find?_eq_some hfirst, hid⟩).symm
  rw [resolve, (coherent_of_performAll h).owners, ownerIn, hfind]

theorem log_of_performAll (h : empty.performAll cs = .ok g) :
    g.log.toList = interactionsOf cs := by
  rw [coherent_empty.log_of_performAll h, resolve_of_performAll h]
  rfl

theorem SameContent.employees_eq (hsame : SameContent cs cs') (h : empty.performAll cs = .ok g)
    (h' : empty.performAll cs' = .ok g') : g.employees = g'.employees := by
  refine Std.ExtTreeMap.ext_getElem? ?_
  intro id
  refine Option.ext ?_
  intro e
  rw [employees_of_performAll h, employees_of_performAll h', hsame.employees]

theorem SameContent.identities_eq (hsame : SameContent cs cs') (h : empty.performAll cs = .ok g)
    (h' : empty.performAll cs' = .ok g') : g.identities = g'.identities := by
  refine Std.ExtTreeMap.ext_getElem? ?_
  intro x
  refine Option.ext ?_
  intro i
  rw [identities_of_performAll h, identities_of_performAll h', hsame.identities]

end Made

/-- Questions to the graphs have the same answers. -/
structure AnswersAlike (g g' : Graph) : Prop where
  /-- The ties are the same. -/
  ties : g.ties = g'.ties
  /-- Everybody has the same neighbors. -/
  row : ∀ id, g.ties.row id = g'.ties.row id
  /-- Everybody has the same closest collaborators. -/
  top : ∀ id limit, g.top id limit = g'.top id limit
  /-- The chains are the same. -/
  chain : ∀ a b, g.chain a b = g'.chain a b
  /-- The figures are the same. -/
  summary : g.summary = g'.summary
  /-- The drawings are the same, of all interactions or of a selection. -/
  drawing : ∀ (f : Format) (settings : Drawing.Settings) (selection : Option Selection),
    f.draw settings g.employees (g.selectedTies selection) =
      f.draw settings g'.employees (g'.selectedTies selection)

/-- Graphs with the same registries and, up to order, the same log answer alike. -/
theorem Coherent.answersAlike {g g' : Graph} (hg : g.Coherent) (hg' : g'.Coherent)
    (hemployees : g.employees = g'.employees) (hidentities : g.identities = g'.identities)
    (hlog : (g.log.toList.map Interaction.unordered).Perm
      (g'.log.toList.map Interaction.unordered)) : g.AnswersAlike g' := by
  have hreplay : ∀ accepts : Interaction → Bool, (∀ i, accepts i.swap = accepts i) →
      g.replay accepts = g'.replay accepts := by
    intro accepts haccepts
    rw [replay, replay, hemployees]
    exact Ties.replay_eq_of_perm _ hlog haccepts
  have hties : g.ties = g'.ties := by
    rw [hg.ties, hg'.ties]
    exact hreplay _ fun _ => rfl
  refine ⟨hties, fun id => by rw [hties], ?top, ?chain, ?summary, ?drawing⟩
  case top =>
    intro id limit
    rw [top, top, hties]
  case chain =>
    intro a b
    rw [chain, chain, hties, hemployees]
  case summary =>
    have hsize : g.log.size = g'.log.size := by simpa using hlog.length_eq
    rw [summary, summary, hties, hidentities, hsize]
  case drawing =>
    intro f settings selection
    have hselected : g.selectedTies selection = g'.selectedTies selection := by
      cases selection with
      | none => exact hties
      | some selection => exact hreplay _ selection.accepts_swap
    rw [hemployees, hselected]

/-- **The order of changes does not matter.** Runs without a refusal that register the same and
record the same interactions make graphs that answer alike, and if they record them in the same
order, with the same participant named first, the snapshots are the same. -/
theorem answersAlike_of_sameContent {g g' : Graph} {cs cs' : List Change}
    (h : empty.performAll cs = .ok g) (h' : empty.performAll cs' = .ok g')
    (hsame : SameContent cs cs') :
    g.AnswersAlike g' ∧
      (interactionsOf cs = interactionsOf cs' → Snapshot.write g = Snapshot.write g') := by
  have hg := coherent_of_performAll h
  have hg' := coherent_of_performAll h'
  have hemployees := hsame.employees_eq h h'
  have hidentities := hsame.identities_eq h h'
  constructor
  · refine hg.answersAlike hg' hemployees hidentities ?_
    rw [log_of_performAll h, log_of_performAll h']
    exact hsame.interactions
  · intro hsame
    have hlog : g.log = g'.log := by
      rw [← Array.toList_inj, log_of_performAll h, log_of_performAll h', hsame]
    rw [hg.eq_of_registries_eq hg' hemployees hidentities hlog]

/-- Two interactions, the second between chat identities, and one of an employee with herself. -/
def plainOrder (noon : Time.Timestamp) : List Change :=
  [.addEmployee ⟨"ana", "Ana", "", ""⟩, .addEmployee ⟨"ben", "Ben", "", ""⟩,
    .addIdentity ⟨"@ana", "", "ana"⟩, .addIdentity ⟨"@ben", "", "ben"⟩,
    .record ⟨"one", "ana", "ben", .bug, noon⟩,
    .recordByIdentity ⟨"two", "@ana", "@ben", .issue, noon⟩,
    .record ⟨"three", "ana", "ana", .issue, noon⟩]

/-- The same in another order, with participants swapped and the first interaction between chat
identities. -/
def otherOrder (noon : Time.Timestamp) : List Change :=
  [.addEmployee ⟨"ben", "Ben", "", ""⟩, .addIdentity ⟨"@ben", "", "ben"⟩,
    .addEmployee ⟨"ana", "Ana", "", ""⟩, .record ⟨"two", "ben", "ana", .issue, noon⟩,
    .addIdentity ⟨"@ana", "", "ana"⟩,
    .recordByIdentity ⟨"one", "@ben", "@ana", .bug, noon⟩]

theorem answersAlike_of_sameContent_otherOrder :
    let noon : Time.Timestamp := ⟨1735732800, 0, by decide, by decide, by decide, by decide⟩
    ∃ g g', empty.performAll (plainOrder noon) = .ok g ∧
      empty.performAll (otherOrder noon) = .ok g' ∧
      SameContent (plainOrder noon) (otherOrder noon) ∧ g.AnswersAlike g' ∧
      (interactionsOf (plainOrder noon) = interactionsOf (otherOrder noon) →
        Snapshot.write g = Snapshot.write g') := by
  intro noon
  obtain ⟨g, hg⟩ := isSome_toOption_iff.1
    (show (empty.performAll (plainOrder noon)).toOption.isSome = true by decide +kernel)
  obtain ⟨g', hg'⟩ := isSome_toOption_iff.1
    (show (empty.performAll (otherOrder noon)).toOption.isSome = true by decide +kernel)
  have hemployees : (employeesOf (plainOrder noon)).Perm (employeesOf (otherOrder noon)) := by
    decide +kernel
  have hidentities : (identitiesOf (plainOrder noon)).Perm (identitiesOf (otherOrder noon)) := by
    decide +kernel
  have hsame : SameContent (plainOrder noon) (otherOrder noon) :=
    ⟨fun _ => hemployees.mem_iff, fun _ => hidentities.mem_iff, by decide +kernel⟩
  exact ⟨g, g', hg, hg', hsame, answersAlike_of_sameContent hg hg' hsame⟩

end Graph

end Teamwork
