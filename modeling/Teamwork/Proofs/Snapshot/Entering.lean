import Teamwork.Except
import Teamwork.Proofs.Graph.Changes
import Teamwork.Snapshot.Loading

/-!
# Loading is a run of changes

A snapshot is loaded on a path of its own. Interactions are appended to the log without touching the
ties, and the ties are replayed once at the end, whereas a graph that is asked for one interaction
after the other keeps its ties up to date all the time. Both paths come to the same graph, and they
agree on every record along the way, so the account of a load can be read as an account of the run.

The two paths are compared through a *view*: while employees and chat identities are entered, the
graph is seen as it is; while interactions are entered, it is seen with its ties replayed.

## Main definitions

* `Snapshot.employee?`, `Snapshot.identity?`, `Snapshot.interaction?` — what a record describes.
* `Snapshot.described` — what the records of an array describe.
* `Snapshot.Enters` — a way to enter records that agrees with changes.
* `Snapshot.Loaded.RunsOver` — a load that comes to the same as three runs.

## Main results

* `Snapshot.Enters.slot`, `Snapshot.enterAll_eq` — entering an element, and an array, is a run of
  changes.
* `Snapshot.load_eq_ok_iff` — when a text loads.
* `Snapshot.load_eq_run` — loading is a run of changes, and its account is that of the run.
-/

namespace Teamwork.Snapshot

open Teamwork.Graph (Change)

/-! ### What a record describes -/

/-- The employee that a record describes: one with an id that is not empty. -/
def employee? (fields : Fields) : Option Employee := do
  let id ← fields[Names.id]?.filter (· ≠ "")
  return {
    id
    name := optional fields Names.name
    email := optional fields Names.email
    department := optional fields Names.department }

/-- The chat identity that a record describes, if it has an external id under either name and the id
of an employee. -/
def identity? (fields : Fields) : Option Identity := do
  let externalId ← fields[Names.externalId]?.or fields[Names.oldExternalId]?
  let employeeId ← fields[Names.employeeId]?
  return { externalId, handle := optional fields Names.handle, employeeId }

/-- The interaction that a record describes, if it has all fields, of a known kind and with a
readable timestamp. -/
def interaction? (fields : Fields) : Option Interaction := do
  let issueKey ← fields[Names.issueKey]?
  let employeeA ← fields[Names.employeeA]?
  let employeeB ← fields[Names.employeeB]?
  let kind ← fields[Names.kind]?.bind Kind.read?
  let timestamp ← fields[Names.timestamp]?.bind Time.Timestamp.read?
  return { issueKey, employeeA, employeeB, kind, timestamp }

theorem toOption_required (fields : Fields) (name : String) :
    (required fields name).toOption = fields[name]? := by
  rw [required]
  cases fields[name]? <;> rfl

theorem toOption_meaning {α : Type} (read? : String → Option α) (name value : String) :
    (meaning read? name value).toOption = read? value := by
  rw [meaning]
  cases read? value <;> rfl

theorem toOption_externalIdOf (fields : Fields) :
    (externalIdOf fields).toOption =
      fields[Names.externalId]?.or fields[Names.oldExternalId]? := by
  rw [externalIdOf]
  cases fields[Names.externalId]? <;> cases fields[Names.oldExternalId]? <;> rfl

theorem toOption_employeeOf (fields : Fields) :
    (employeeOf fields).toOption = employee? fields := by
  rw [employeeOf, toOption_bind, toOption_required, employee?]
  cases fields[Names.id]? with
  | none => rfl
  | some id =>
    rw [Option.filter_some]
    by_cases h : id = "" <;> simp [h, Except.toOption, pure, Except.pure]

theorem toOption_identityOf (fields : Fields) :
    (identityOf fields).toOption = identity? fields := by
  rw [identityOf, toOption_bind, toOption_externalIdOf, identity?]
  refine congrArg (Option.bind _) (funext fun externalId => ?_)
  rw [toOption_bind, toOption_required]
  rfl

/-- The order in which fields are looked at decides about the complaint, not about the outcome. -/
theorem toOption_interactionOf (fields : Fields) :
    (interactionOf fields).toOption = interaction? fields := by
  simp only [interactionOf, toOption_bind, toOption_required, toOption_meaning, interaction?]
  cases fields[Names.issueKey]? <;> cases fields[Names.employeeA]? <;>
    cases fields[Names.employeeB]? <;> cases fields[Names.kind]? <;>
    cases fields[Names.timestamp]? <;> simp [Except.toOption, pure, Except.pure]

/-! ### Entering an array -/

/-- What the records of an array describe, in order. An element that was not read as a record
describes nothing. -/
def described {α : Type} (describe? : Fields → Option α) (slots : List Slot) : List α :=
  slots.filterMap fun slot => slot.toOption.bind describe?

theorem described_ok {α : Type} (describe? : Fields → Option α) (fields : Fields)
    (slots : List Slot) : described describe? (.ok fields :: slots) =
      (describe? fields).toList ++ described describe? slots := by
  cases hd : describe? fields <;> simp [described, hd, Except.toOption]

theorem described_cons {α : Type} (describe? : Fields → Option α) (slot : Slot)
    (slots : List Slot) : described describe? (slot :: slots) =
      described describe? [slot] ++ described describe? slots :=
  List.filterMap_append (l := [slot])

/-- Entering a record makes the change that is requested for what it describes, as far as `view`
shows. A record is left out if it describes nothing, or if the change has no effect. -/
def Enters {α : Type} (enter : Graph → Fields → Except Issue Graph) (view : Graph → Graph)
    (describe? : Fields → Option α) (request : α → Change) : Prop :=
  ∀ g fields,
    match describe? fields, enter g fields with
    | none, .ok _ => False
    | none, .error _ => True
    | some a, .ok g' =>
      view g' = (view g).change (request a) ∧ (view g).change (request a) ≠ view g
    | some a, .error _ => (view g).change (request a) = view g

section Run

variable {α : Type} {enter : Graph → Fields → Except Issue Graph} {view : Graph → Graph}
  {describe? : Fields → Option α} {request : α → Change}

/-- **Entering an element is a run** of at most one change. The element is entered if the run makes
another graph, and left out if it does not. -/
theorem Enters.slot (h : Enters enter view describe? request) (g : Graph) (slot : Slot) :
    match enterSlot enter g slot with
    | .ok g' => view g' = (view g).after ((described describe? [slot]).map request) ∧
        (view g).after ((described describe? [slot]).map request) ≠ view g ∧
        (view g).effects ((described describe? [slot]).map request) = 1
    | .error _ => (view g).after ((described describe? [slot]).map request) = view g ∧
        (view g).effects ((described describe? [slot]).map request) = 0 := by
  cases slot with
  | error fault => exact ⟨rfl, rfl⟩
  | ok fields =>
    have hrecord := h g fields
    rw [described_ok, enterSlot]
    cases hd : describe? fields with
    | none =>
      -- the record describes nothing, so it cannot have been entered
      rw [hd] at hrecord
      cases henter : enter g fields with
      | ok g' =>
        rw [henter] at hrecord
        exact hrecord.elim
      | error issue => exact ⟨rfl, rfl⟩
    | some a =>
      have heffects : (view g).effects [request a] =
          if (view g).change (request a) = view g then 0 else 1 := Graph.effect_eq _ _
      rw [hd] at hrecord
      cases henter : enter g fields with
      | ok g' =>
        rw [henter] at hrecord
        exact ⟨hrecord.1, hrecord.2, heffects.trans (if_neg hrecord.2)⟩
      | error issue =>
        rw [henter] at hrecord
        exact ⟨hrecord, heffects.trans (if_pos hrecord)⟩

/-- **Entering an array is a run** of the changes requested for what it describes. The elements that
are counted are the effects of the run, and every other element is listed. -/
theorem enterAll_eq (h : Enters enter view describe? request) (index loaded : Nat) (g : Graph)
    (slots : List Slot) :
    view (enterAll enter index loaded g slots).1 =
        (view g).after ((described describe? slots).map request) ∧
      (enterAll enter index loaded g slots).2.loaded =
        loaded + (view g).effects ((described describe? slots).map request) ∧
      (view g).effects ((described describe? slots).map request) +
        (enterAll enter index loaded g slots).2.skipped.length = slots.length := by
  induction slots generalizing index loaded g with
  | nil => exact ⟨rfl, rfl, rfl⟩
  | cons slot slots ih =>
    have hslot := h.slot g slot
    rw [described_cons, List.map_append, Graph.after_append, Graph.effects_append, enterAll,
      List.length_cons]
    cases henter : enterSlot enter g slot with
    | ok g' =>
      rw [henter] at hslot
      obtain ⟨hview, -, heffects⟩ := hslot
      obtain ⟨hgraph, hloaded, hcount⟩ := ih (index + 1) (loaded + 1) g'
      rw [hview] at hgraph hloaded hcount
      rw [heffects]
      exact ⟨hgraph, by dsimp only; omega, by dsimp only; omega⟩
    | error issue =>
      rw [henter] at hslot
      obtain ⟨hview, heffects⟩ := hslot
      obtain ⟨hgraph, hloaded, hcount⟩ := ih (index + 1) loaded g
      rw [hview, heffects, Nat.zero_add]
      exact ⟨hgraph, hloaded, congrArg Nat.succ hcount⟩

end Run

/-! ### Entering one record -/

/-- A change that the graph makes at once, with a refusal as the only other outcome, is made by
entering the record that asks for it. -/
theorem enters_of_perform {α : Type} {describe : Fields → Except Issue α}
    {describe? : Fields → Option α}
    (hdescribe : ∀ fields, (describe fields).toOption = describe? fields) (request : α → Change)
    (hchanges : ∀ {g g' : Graph} {a}, (request a).perform g = .ok g' → g' ≠ g) :
    Enters (fun g fields => do ((request (← describe fields)).perform g).mapError .refused) id
      describe? request := by
  intro g fields
  dsimp only
  rw [← hdescribe]
  cases hd : describe fields with
  | error issue => trivial
  | ok a =>
    cases hp : (request a).perform g with
    | error e =>
      have hc : g.change (request a) = g := by rw [Graph.change, hp]
      simpa [Except.toOption, bind, Except.bind, hp] using hc
    | ok g' =>
      have hc : g.change (request a) = g' := by rw [Graph.change, hp]
      simpa [Except.toOption, bind, Except.bind, hp, hc] using hchanges hp

/-- A record of an employee is entered by registering the employee. -/
theorem enters_employee : Enters enterEmployee id employee? .addEmployee := by
  refine enters_of_perform toOption_employeeOf .addEmployee ?_
  intro g g' e h heq
  rw [heq, Change.perform, Graph.addEmployee] at h
  split at h
  · exact absurd h (by simp)
  · next hnew =>
    have hsame := congrArg Graph.employees (Except.ok.inj h)
    exact hnew (hsame ▸ Keyed.mem_insert.2 (.inl rfl))

/-- A record of a chat identity is entered by registering the chat identity. -/
theorem enters_identity : Enters enterIdentity id identity? .addIdentity := by
  refine enters_of_perform toOption_identityOf .addIdentity ?_
  intro g g' i h heq
  rw [heq, Change.perform, Graph.addIdentity] at h
  split at h
  · exact absurd h (by simp)
  · split at h
    · exact absurd h (by simp)
    · next hnew =>
      have hsame := congrArg Graph.identities (Except.ok.inj h)
      exact hnew (hsame ▸ Keyed.mem_insert.2 (.inl rfl))

/-- Replaying the log after an interaction was appended to it is recording the interaction after the
log was replayed. -/
theorem rebuild_push (g : Graph) {i : Interaction} (ha : i.employeeA ∈ g.employees)
    (hb : i.employeeB ∈ g.employees) (hab : i.employeeA ≠ i.employeeB) :
    ({ g with log := g.log.push i } : Graph).rebuild = g.rebuild.change (.record i) := by
  rw [Graph.change_record, if_pos ⟨ha, hb, hab⟩]
  simp only [Graph.rebuild, Graph.replay, Array.toList_push]
  rw [Ties.replay_concat _ _ rfl]

/-- A record of an interaction is entered by recording the interaction, once the ties have been
replayed. -/
theorem enters_interaction : Enters enterInteraction Graph.rebuild interaction? .record := by
  intro g fields
  rw [← toOption_interactionOf, enterInteraction]
  cases hd : interactionOf fields with
  | error issue => trivial
  | ok i =>
    have hchange := Graph.change_record g.rebuild i
    simp only [Except.toOption, bind, Except.bind]
    rw [Graph.append]
    by_cases ha : i.employeeA ∈ g.employees
    · by_cases hb : i.employeeB ∈ g.employees
      · by_cases hab : i.employeeA = i.employeeB
        · simpa [ha, hb, hab] using hchange
        · have hpush := rebuild_push g ha hb hab
          simp only [ha, hb, hab, mapError_ok, not_true_eq_false, if_false]
          refine ⟨hpush, ?_⟩
          intro hsame
          rw [← hpush] at hsame
          have hsize := congrArg (·.log.size) hsame
          simp [Graph.rebuild] at hsize
      · have hb' : i.employeeB ∉ g.rebuild.employees := hb
        simpa [ha, hb, hb'] using hchange
    · have ha' : i.employeeA ∉ g.rebuild.employees := ha
      simpa [ha, ha'] using hchange

/-! ### Loading -/

/-- The text has these three arrays under the names that count. Chat identities may stand under
their old name if there is no array under the present one. -/
def HasArrays (text : String) (employees identities interactions : List Slot) : Prop :=
  ∃ arrays, readArrays text.toList = .ok arrays ∧
    arrays[Names.employees]? = some employees ∧
    arrays[Names.identities]?.or arrays[Names.oldIdentities]? = some identities ∧
    arrays[Names.interactions]? = some interactions

theorem arrayOf_eq_ok_iff {arrays : Arrays} {name : String} {slots : List Slot} :
    arrayOf arrays name [] = .ok slots ↔ arrays[name]? = some slots := by
  rw [arrayOf]
  cases h : arrays[name]? <;> simp [h]

theorem arrayOf_old_eq_ok_iff {arrays : Arrays} {name old : String} {slots : List Slot} :
    arrayOf arrays name [old] = .ok slots ↔ arrays[name]?.or arrays[old]? = some slots := by
  rw [arrayOf]
  cases h : arrays[name]? <;> cases h' : arrays[old]? <;> simp [h, h']

/-- A text loads exactly if it has the three arrays. -/
theorem load_eq_ok_iff {text : String} {loaded : Loaded} :
    load text = .ok loaded ↔ ∃ employees identities interactions,
      HasArrays text employees identities interactions ∧
        loaded = enterArrays employees identities interactions := by
  simp only [load, loadChars, bind_eq_ok_iff, mapError_eq_ok_iff, arrayOf_eq_ok_iff,
    arrayOf_old_eq_ok_iff, pure, Except.pure, Except.ok.injEq]
  constructor
  · rintro ⟨arrays, hread, employees, he, identities, hi, interactions, ht, rfl⟩
    exact ⟨employees, identities, interactions, ⟨arrays, hread, he, hi, ht⟩, rfl⟩
  · rintro ⟨employees, identities, interactions, ⟨arrays, hread, he, hi, ht⟩, rfl⟩
    exact ⟨arrays, hread, employees, he, identities, hi, interactions, ht, rfl⟩

/-- The account of an array agrees with a run: as many elements were entered as changes of the run
had an effect and as there are entries now, and every other element was left out. -/
structure Intake.Agrees (intake : Intake) (slots : List Slot) (effects entries : Nat) : Prop where
  loaded_eq_effects : intake.loaded = effects
  loaded_eq_entries : intake.loaded = entries
  loaded_add_skipped : intake.loaded + intake.skipped.length = slots.length

/-- Entering an array that agrees with a run is accounted for as the run is. -/
theorem Enters.agrees {α : Type} {enter : Graph → Fields → Except Issue Graph}
    {view : Graph → Graph} {describe? : Fields → Option α} {request : α → Change}
    (h : Enters enter view describe? request)
    {g : Graph} {slots : List Slot} {entries : Nat}
    (hentries : entries = (view g).effects ((described describe? slots).map request)) :
    (enterAll enter 0 0 g slots).2.Agrees slots
      ((view g).effects ((described describe? slots).map request)) entries := by
  obtain ⟨-, hloaded, hcount⟩ := enterAll_eq h 0 0 g slots
  rw [Nat.zero_add] at hloaded
  exact ⟨hloaded, hloaded.trans hentries.symm, by rw [hloaded, hcount]⟩

/-- The empty graph after the employees of an array were added. -/
def hired (employees : List Slot) : Graph :=
  Graph.empty.after ((described employee? employees).map .addEmployee)

/-- The graph after the chat identities of an array were added on top. -/
def known (employees identities : List Slot) : Graph :=
  (hired employees).after ((described identity? identities).map .addIdentity)

/-- The graph after the interactions of an array were recorded on top. -/
def met (employees identities interactions : List Slot) : Graph :=
  (known employees identities).after ((described interaction? interactions).map .record)

/-- A load over three arrays is three runs, one after the other, and each array's account is that of
its run. -/
structure Loaded.RunsOver (loaded : Loaded) (employees identities interactions : List Slot) :
    Prop where
  /-- The graph is that of the runs. -/
  graph_eq : loaded.graph = met employees identities interactions
  /-- The account of employees. -/
  employees_agrees : loaded.employees.Agrees employees
    (Graph.empty.effects ((described employee? employees).map .addEmployee))
    loaded.graph.employees.size
  /-- The account of chat identities. -/
  identities_agrees : loaded.identities.Agrees identities
    ((hired employees).effects ((described identity? identities).map .addIdentity))
    loaded.graph.identities.size
  /-- The account of interactions. -/
  interactions_agrees : loaded.interactions.Agrees interactions
    ((known employees identities).effects ((described interaction? interactions).map .record))
    loaded.graph.log.size

section Runs

variable (employees identities interactions : List Slot)

/-- Only the first run registers employees. -/
theorem size_employees_met : (met employees identities interactions).employees.size =
    Graph.empty.effects ((described employee? employees).map .addEmployee) := by
  rw [met, Graph.after_frame Graph.employees Graph.employees_change_record, known,
    Graph.after_frame Graph.employees Graph.employees_change_addIdentity, hired,
    Graph.add_effects (·.employees.size) Graph.size_change_addEmployee]
  exact Nat.zero_add _

/-- Only the second run registers chat identities. -/
theorem size_identities_met : (met employees identities interactions).identities.size =
    (hired employees).effects ((described identity? identities).map .addIdentity) := by
  rw [met, Graph.after_frame Graph.identities Graph.identities_change_record, known,
    Graph.add_effects (·.identities.size) Graph.size_change_addIdentity, hired,
    Graph.after_frame Graph.identities Graph.identities_change_addEmployee]
  exact Nat.zero_add _

/-- Only the third run writes to the log. -/
theorem size_log_met : (met employees identities interactions).log.size =
    (known employees identities).effects ((described interaction? interactions).map .record) := by
  rw [met, Graph.add_effects (·.log.size) Graph.size_change_record, known,
    Graph.after_frame Graph.log Graph.log_change_addIdentity, hired,
    Graph.after_frame Graph.log Graph.log_change_addEmployee]
  exact Nat.zero_add _

theorem rebuild_known : (known employees identities).rebuild = known employees identities :=
  ((Graph.coherent_empty.after _).after _).rebuild_eq

/-- The three arrays are entered into the graphs that the runs before them make. -/
theorem enterArrays_eq : enterArrays employees identities interactions = {
    graph := met employees identities interactions
    employees := (enterAll enterEmployee 0 0 Graph.empty employees).2
    identities := (enterAll enterIdentity 0 0 (hired employees) identities).2
    interactions :=
      (enterAll enterInteraction 0 0 (known employees identities) interactions).2 } := by
  have hhired : (enterAll enterEmployee 0 0 Graph.empty employees).1 = hired employees :=
    (enterAll_eq enters_employee 0 0 Graph.empty employees).1
  have hknown : (enterAll enterIdentity 0 0 (hired employees) identities).1 =
      known employees identities :=
    (enterAll_eq enters_identity 0 0 (hired employees) identities).1
  have hmet := (enterAll_eq enters_interaction 0 0 (known employees identities) interactions).1
  rw [rebuild_known] at hmet
  simp only [enterArrays, hhired, hknown]
  rw [hmet, met]

theorem runsOver_enterArrays :
    (enterArrays employees identities interactions).RunsOver employees identities interactions := by
  have hknown := rebuild_known employees identities
  have hinteractions := enters_interaction.agrees (g := known employees identities)
    ((size_log_met employees identities interactions).trans (by rw [hknown]))
  rw [hknown] at hinteractions
  rw [enterArrays_eq]
  exact {
    graph_eq := rfl
    employees_agrees := enters_employee.agrees (size_employees_met _ _ _)
    identities_agrees := enters_identity.agrees (size_identities_met _ _ _)
    interactions_agrees := hinteractions }

end Runs

/-- **Loading is a run of changes.** The graph of a text is made by asking the empty graph for what
the records of its three arrays describe, whatever is refused, and the account of each array is that
of the run. -/
theorem load_eq_run {text : String} {loaded : Loaded} (h : load text = .ok loaded) :
    ∃ employees identities interactions, HasArrays text employees identities interactions ∧
      loaded.RunsOver employees identities interactions := by
  obtain ⟨employees, identities, interactions, harrays, rfl⟩ := load_eq_ok_iff.1 h
  exact ⟨employees, identities, interactions, harrays, runsOver_enterArrays _ _ _⟩

/-- A graph that was loaded has the invariant of all graphs that runs of changes make. -/
theorem coherent_of_load {text : String} {loaded : Loaded} (h : load text = .ok loaded) :
    loaded.graph.Coherent := by
  obtain ⟨employees, identities, interactions, -, rfl⟩ := load_eq_ok_iff.1 h
  rw [(runsOver_enterArrays ..).graph_eq]
  exact ((Graph.coherent_empty.after _).after _).after _

/-- A record of an interaction between two employees, in parts. -/
def bugParts (a b : String) : List String :=
  ["\x7b\"issueKey\": \"k\", ", "\"employeeA\": \"", a, "\", ", "\"employeeB\": \"", b, "\", ",
    "\"type\": \"bug\", ", "\"timestamp\": \"2025-04-01T08:30:00Z\"\x7d"]

/-- Three arrays out of order, one of them under its old name, in parts. The second of three
interactions is with oneself and the third with nobody, one chat identity is no record, and one
employee is named twice. -/
def mixedParts : List String :=
  ["\"interactions\": ["] ++ bugParts "a" "b" ++ [", "] ++ bugParts "a" "a" ++ [", "] ++
    bugParts "a" "c" ++ ["], ", "\"slackUsers\": [7, ", "\x7b\"slackId\": \"s\", ",
      "\"employeeId\": \"b\"\x7d], ", "\"employees\": [", "\x7b\"id\": \"a\"\x7d, ",
      "\x7b\"id\": \"a\"\x7d, ", "\x7b\"id\": \"b\"\x7d]"]

/-- The parts of a text put together. -/
def joined (parts : List String) : String :=
  .ofList (parts.flatMap String.toList)

theorem load_joined (parts : List String) :
    load (joined parts) = loadChars (parts.flatMap String.toList) := by
  rw [load, joined, String.toList_ofList]

/-- The snapshot of these arrays. -/
def mixedText : String :=
  joined (["\x7b"] ++ mixedParts ++ ["\x7d"])

theorem load_mixedText : ((load mixedText).toOption.map fun loaded =>
    (loaded.employees.loaded, loaded.identities.loaded, loaded.interactions.loaded,
      loaded.totalSkipped)) = some (2, 1, 1, 4) := by
  rw [mixedText, load_joined]
  decide +kernel

theorem load_eq_run_mixed :
    ∃ loaded employees identities interactions, load mixedText = .ok loaded ∧
      HasArrays mixedText employees identities interactions ∧
      loaded.RunsOver employees identities interactions ∧
      loaded.employees.loaded = 2 ∧ loaded.identities.loaded = 1 ∧
      loaded.interactions.loaded = 1 ∧ loaded.totalSkipped = 4 := by
  obtain ⟨loaded, hload, hcounts⟩ := map_toOption_eq_some_iff.1 load_mixedText
  obtain ⟨employees, identities, interactions, harrays, hruns⟩ := load_eq_run hload
  simp only [Prod.mk.injEq] at hcounts
  exact ⟨loaded, employees, identities, interactions, hload, harrays, hruns, hcounts⟩

end Teamwork.Snapshot
