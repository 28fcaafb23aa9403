import Teamwork.Proofs.Snapshot.Broken

/-!
# What a load gives an account of

A load says of every record that it was entered or left out, but only of the records in the arrays
that it reads. A snapshot may have more arrays than that. The reader keeps one array under each
name, the last one, and it looks for chat identities under their old name only if there is no array
under the present one. An array that is passed over in this way is not mentioned in the account.

Which arrays there are is said by `readMembers`, which goes through a text as the reader does but
keeps every member. The names of one kind of record are listed in the order of precedence, so the
array that is read is in each case the last one, and the arrays passed over are those before it.

What became of an element is seen in the graph. An element was left out if the graph after it is the
graph before it, and the account lists exactly these elements. The others are counted, and each of
them stands in the graph that is loaded, as an employee, a chat identity or an entry of the log.

## Main definitions

* `Snapshot.readMembers`, `Snapshot.arraysNamed` — all members of a text, and the arrays among them.
* `Snapshot.passedOver` — the arrays that are not read.
* `Snapshot.Intake.Covers` — an account of every element of an array.
* `Snapshot.Loaded.AccountsFor` — an account of the members of a text.

## Main results

* `Snapshot.skipped_enterAll`, `Snapshot.Enters.covers` — which elements of an array are left out,
  and how many are entered.
* `Snapshot.exists_accountsFor` — what the account of a load says, and what it leaves unsaid.
-/

namespace Teamwork.Snapshot

open Text
open Teamwork.Graph (Change)

/-! ### The arrays of a text -/

/-- The members of a snapshot in the order of the text, each array with its elements. -/
def readMembers (text : String) : Except Fault Members :=
  match expect '\x7b' (skipBlanks text.toList) with
  | .error fault => .error fault
  | .ok rest => ((member arrayOrSkip).items '\x7d' [] rest).map (·.1)

/-- The arrays under any of the names, name by name, and those of one name in the order of the
text. -/
def arraysNamed (members : Members) (names : List String) : List (List Slot) :=
  names.flatMap fun name => members.filterMap fun (key, slots) => if key = name then slots else none

/-- The names of the arrays of a snapshot. Where two stand for one kind of record, the one that
counts comes last. -/
def arrayNames : List String :=
  [Names.employees, Names.oldIdentities, Names.identities, Names.interactions]

/-- How many elements the arrays have together. -/
def countElements (arrays : List (List Slot)) : Nat :=
  arrays.flatten.length

/-- The arrays with one of the names that are not read: those before the last of their kind. -/
def passedOver (members : Members) : List (List Slot) :=
  (arraysNamed members [Names.employees]).dropLast ++
    (arraysNamed members [Names.oldIdentities, Names.identities]).dropLast ++
    (arraysNamed members [Names.interactions]).dropLast

theorem exists_readMembers {text : String} {arrays : Arrays}
    (h : readArrays text.toList = .ok arrays) :
    ∃ members, readMembers text = .ok members ∧ arrays = collect members := by
  rw [readArrays] at h
  rw [readMembers]
  cases hrest : expect '\x7b' (skipBlanks text.toList) with
  | error fault =>
    rw [hrest] at h
    cases h
  | ok rest =>
    rw [hrest] at h
    obtain ⟨⟨members, behind⟩, hitems, rfl⟩ := map_eq_ok_iff.1 h
    exact ⟨members, map_eq_ok_iff.2 ⟨_, hitems, rfl⟩, rfl⟩

theorem getLast?_arraysNamed (members : Members) (name : String) :
    (arraysNamed members [name]).getLast? = lastValue members name := by
  rw [arraysNamed, List.flatMap_singleton, List.getLast?_eq_head?_reverse, ← List.filterMap_reverse,
    List.head?_filterMap, lastValue]

theorem getLast?_arraysNamed_pair (members : Members) (old name : String) :
    (arraysNamed members [old, name]).getLast? =
      (lastValue members name).or (lastValue members old) := by
  rw [← getLast?_arraysNamed, ← getLast?_arraysNamed, ← List.getLast?_append]
  simp only [arraysNamed, List.flatMap_cons, List.flatMap_nil, List.append_nil]

theorem countElements_append (arrays arrays' : List (List Slot)) :
    countElements (arrays ++ arrays') = countElements arrays + countElements arrays' := by
  rw [countElements, List.flatten_append, List.length_append]
  rfl

theorem countElements_dropLast {arrays : List (List Slot)} {slots : List Slot}
    (h : arrays.getLast? = some slots) :
    slots.length + countElements arrays.dropLast = countElements arrays := by
  obtain ⟨before, rfl⟩ := List.getLast?_eq_some_iff.1 h
  rw [List.dropLast_concat, countElements_append, Nat.add_comm, countElements, countElements,
    List.flatten_singleton]

/-! ### The account of one array -/

/-- The graph after the changes that the first `k` elements of an array request. -/
def afterFirst {α : Type} (describe? : Fields → Option α) (request : α → Change) (g : Graph)
    (slots : List Slot) (k : Nat) : Graph :=
  g.after ((described describe? (slots.take k)).map request)

/-- The account covers an array, where `made k` is the graph after its first `k` elements and
`entries` is the number of entries that the array made. -/
structure Intake.Covers (intake : Intake) (slots : List Slot) (made : Nat → Graph)
    (entries : Nat) : Prop where
  /-- Listed are the elements that left the graph as it was, by their indices and each of them
  once. -/
  skipped_eq : intake.skipped.map (·.1) =
    (List.range slots.length).filter fun k => made (k + 1) = made k
  /-- Counted are those that did not. -/
  loaded_eq : intake.loaded = (List.range slots.length).countP fun k => made (k + 1) ≠ made k
  /-- Each of these made one entry. -/
  loaded_eq_entries : intake.loaded = entries
  /-- So every element is counted or listed. -/
  loaded_add_skipped : intake.loaded + intake.skipped.length = slots.length

section Run

variable {α : Type} {enter : Graph → Fields → Except Issue Graph} {view : Graph → Graph}
  {describe? : Fields → Option α} {request : α → Change}

theorem afterFirst_succ (g : Graph) (slot : Slot) (slots : List Slot) (k : Nat) :
    afterFirst describe? request g (slot :: slots) (k + 1) = afterFirst describe? request
      (g.after ((described describe? [slot]).map request)) slots k := by
  rw [afterFirst, List.take_succ_cons, described_cons, List.map_append, Graph.after_append,
    afterFirst]

/-- **Listed are the elements that do nothing.** -/
theorem skipped_enterAll (h : Enters enter view describe? request) (index loaded : Nat) (g : Graph)
    (slots : List Slot) :
    (enterAll enter index loaded g slots).2.skipped.map (·.1) =
      ((List.range slots.length).filter fun k =>
        afterFirst describe? request (view g) slots (k + 1) =
          afterFirst describe? request (view g) slots k).map (index + ·) := by
  induction slots generalizing index loaded g with
  | nil => rfl
  | cons slot slots ih =>
    have hslot := h.slot g slot
    have hfirst : ∀ g slots, afterFirst describe? request g slots 0 = g := fun _ _ => rfl
    have hindex : (index + ·) ∘ Nat.succ = (index + 1 + ·) := by
      funext k
      exact Nat.add_right_comm index k 1
    rw [List.length_cons, List.range_succ_eq_map, List.filter_cons, List.filter_map, enterAll]
    simp only [Function.comp_def, Nat.succ_eq_add_one, afterFirst_succ, hfirst]
    cases henter : enterSlot enter g slot with
    | ok g' =>
      rw [henter] at hslot
      obtain ⟨hview, hchanges, -⟩ := hslot
      rw [if_neg (by simpa using hchanges), ← hview, List.map_map, hindex]
      exact ih (index + 1) (loaded + 1) g'
    | error issue =>
      rw [henter] at hslot
      obtain ⟨hview, -⟩ := hslot
      rw [hview, if_pos (by simp), List.map_cons, List.map_cons, List.map_map, hindex,
        ih (index + 1) loaded g]
      rfl

/-- Entering an array is accounted for element by element. -/
theorem Enters.covers (h : Enters enter view describe? request) {g : Graph} {slots : List Slot}
    {entries : Nat}
    (hentries : entries = (view g).effects ((described describe? slots).map request)) :
    (enterAll enter 0 0 g slots).2.Covers slots (afterFirst describe? request (view g) slots)
      entries := by
  have hagrees := h.agrees hentries
  have hskipped := skipped_enterAll h 0 0 g slots
  simp only [Nat.zero_add, List.map_id'] at hskipped
  have hlength := congrArg List.length hskipped
  rw [List.length_map, ← List.countP_eq_length_filter] at hlength
  have hsplit := List.length_eq_countP_add_countP (l := List.range slots.length) fun k =>
    decide (afterFirst describe? request (view g) slots (k + 1) =
      afterFirst describe? request (view g) slots k)
  simp only [List.length_range, decide_eq_true_eq, ← ne_eq] at hsplit
  have hsum := hagrees.loaded_add_skipped
  exact ⟨hskipped, by omega, hagrees.loaded_eq_entries, hsum⟩

end Run

/-! ### The account of a load -/

/-- How many records an account speaks of. -/
def Loaded.reported (loaded : Loaded) : Nat :=
  loaded.employees.loaded + loaded.employees.skipped.length +
    (loaded.identities.loaded + loaded.identities.skipped.length) +
    (loaded.interactions.loaded + loaded.interactions.skipped.length)

/-- The account of a load covers the last array of each kind, whose elements make the graph that is
loaded. The elements that it does not speak of are those of the arrays passed over. -/
structure Loaded.AccountsFor (loaded : Loaded) (members : Members)
    (employees identities interactions : List Slot) : Prop where
  /-- The last array of employees is read. -/
  employees_last : (arraysNamed members [Names.employees]).getLast? = some employees
  /-- So is the last array of chat identities under their present name, or under their old one if
  there is no other. -/
  identities_last :
    (arraysNamed members [Names.oldIdentities, Names.identities]).getLast? = some identities
  /-- So is the last array of interactions. -/
  interactions_last : (arraysNamed members [Names.interactions]).getLast? = some interactions
  /-- The graph is made by all elements of the three. -/
  graph_eq : loaded.graph = met employees identities interactions
  /-- The employees are covered. -/
  employees_covered : loaded.employees.Covers employees (fun k => hired (employees.take k))
    loaded.graph.employees.size
  /-- The chat identities are covered. -/
  identities_covered : loaded.identities.Covers identities
    (fun k => known employees (identities.take k)) loaded.graph.identities.size
  /-- The interactions are covered. -/
  interactions_covered : loaded.interactions.Covers interactions
    (fun k => met employees identities (interactions.take k)) loaded.graph.log.size
  /-- No other array with one of the names is. -/
  total : loaded.reported + countElements (passedOver members) =
    countElements (arraysNamed members arrayNames)

/-- **Every record of the arrays that are read is accounted for**, as entered or as left out, and
no record of another array is. -/
theorem exists_accountsFor {text : String} {loaded : Loaded} (h : load text = .ok loaded) :
    ∃ members employees identities interactions, readMembers text = .ok members ∧
      loaded.AccountsFor members employees identities interactions := by
  obtain ⟨employees, identities, interactions, ⟨arrays, hread, he, hi, ht⟩, rfl⟩ :=
    load_eq_ok_iff.1 h
  obtain ⟨members, hmembers, rfl⟩ := exists_readMembers hread
  rw [getElem?_collect, ← getLast?_arraysNamed] at he ht
  rw [getElem?_collect, getElem?_collect, ← getLast?_arraysNamed_pair] at hi
  have hknown := rebuild_known employees identities
  have hemployees := enters_employee.covers (g := Graph.empty)
    (size_employees_met employees identities interactions)
  have hidentities := enters_identity.covers (g := hired employees)
    (size_identities_met employees identities interactions)
  have hinteractions := enters_interaction.covers (g := known employees identities)
    ((size_log_met employees identities interactions).trans (by rw [hknown]))
  rw [hknown] at hinteractions
  have hnames : arraysNamed members arrayNames =
      arraysNamed members [Names.employees] ++
        arraysNamed members [Names.oldIdentities, Names.identities] ++
        arraysNamed members [Names.interactions] := by
    simp only [arraysNamed, arrayNames, ← List.flatMap_append]
    rfl
  rw [enterArrays_eq]
  exact ⟨members, employees, identities, interactions, hmembers, {
    employees_last := he
    identities_last := hi
    interactions_last := ht
    graph_eq := rfl
    employees_covered := hemployees
    identities_covered := hidentities
    interactions_covered := hinteractions
    total := by
      simp only [Loaded.reported, hemployees.loaded_add_skipped, hidentities.loaded_add_skipped,
        hinteractions.loaded_add_skipped]
      rw [passedOver, hnames, countElements_append, countElements_append, countElements_append,
        countElements_append, ← countElements_dropLast he, ← countElements_dropLast hi,
        ← countElements_dropLast ht]
      omega }⟩

/-- A snapshot with a second array of employees, and with chat identities under both names, so that
one array of employees and all chat identities under the old name are passed over. Among the
elements that are read is one of every kind that is left out. -/
def crowdedText : String :=
  joined (["\x7b\"employees\": [7], ", "\"chatIdentities\": [",
    "\x7b\"externalId\": \"t\", ", "\"employeeId\": \"a\"\x7d, ",
    "\x7b\"externalId\": \"u\", ", "\"employeeId\": \"c\"\x7d], "] ++ mixedParts ++ ["\x7d"])

theorem load_crowdedText : ((load crowdedText).toOption.map fun loaded =>
    [(loaded.employees.loaded, loaded.employees.skipped.map (·.1)),
      (loaded.identities.loaded, loaded.identities.skipped.map (·.1)),
      (loaded.interactions.loaded, loaded.interactions.skipped.map (·.1))]) =
      some [(2, [1]), (1, [1]), (1, [1, 2])] := by
  rw [crowdedText, load_joined]
  decide +kernel

theorem passedOver_crowdedText : ((readMembers crowdedText).toOption.map fun members =>
    countElements (passedOver members)) = some 3 := by
  rw [crowdedText, readMembers, joined, String.toList_ofList]
  decide +kernel

theorem exists_accountsFor_crowdedText :
    ∃ loaded members employees identities interactions, load crowdedText = .ok loaded ∧
      readMembers crowdedText = .ok members ∧
      loaded.AccountsFor members employees identities interactions ∧
      [(loaded.employees.loaded, loaded.employees.skipped.map (·.1)),
        (loaded.identities.loaded, loaded.identities.skipped.map (·.1)),
        (loaded.interactions.loaded, loaded.interactions.skipped.map (·.1))] =
          [(2, [1]), (1, [1]), (1, [1, 2])] ∧
      countElements (passedOver members) = 3 := by
  obtain ⟨loaded, hload, hcounts⟩ := map_toOption_eq_some_iff.1 load_crowdedText
  obtain ⟨members, hmembers, hpassed⟩ := map_toOption_eq_some_iff.1 passedOver_crowdedText
  obtain ⟨members', employees, identities, interactions, hmembers', haccounts⟩ :=
    exists_accountsFor hload
  obtain rfl : members = members' := Except.ok.inj (hmembers.symm.trans hmembers')
  exact ⟨loaded, members, employees, identities, interactions, hload, hmembers', haccounts,
    hcounts, hpassed⟩

/-- A snapshot with two arrays of chat identities, of which the one under the old name is passed
over. -/
def rivalText : String :=
  "\x7b\"employees\":[],\"chatIdentities\":[],\"slackUsers\":[7],\"interactions\":[]\x7d"

/-- The only element of the array that is passed over is neither loaded nor reported as skipped. -/
theorem not_all_elements_reported :
    ¬∀ text loaded members, load text = .ok loaded → readMembers text = .ok members →
      loaded.reported = countElements (arraysNamed members arrayNames) := by
  intro hall
  have hreported : (load rivalText).toOption.map Loaded.reported = some 0 := by decide +kernel
  have hcount : (readMembers rivalText).toOption.map (fun members =>
      countElements (arraysNamed members arrayNames)) = some 1 := by decide +kernel
  obtain ⟨loaded, hload, hzero⟩ := map_toOption_eq_some_iff.1 hreported
  obtain ⟨members, hmembers, hone⟩ := map_toOption_eq_some_iff.1 hcount
  have hequal := hall rivalText loaded members hload hmembers
  rw [hzero, hone] at hequal
  exact absurd hequal (by decide)

end Teamwork.Snapshot
