import Teamwork.Proofs.Command.Places
import Teamwork.Proofs.Graph.Growth
import Teamwork.Proofs.Snapshot.RoundTrip

/-!
# Recording lasts

Every run that records reads the whole data file and writes all of it again, so a slip in reading or
writing would add up from run to run. There is none: a file that loads goes on loading, and all that
any run ever does to its graph is to add the interaction that was asked for.

A run does one of two things to the file. It puts a snapshot of the graph with one more interaction
there, or it leaves the text as it is. The first is what it reports with the word `Recorded`. A
text that was put there by a run is a snapshot, and nothing is left out when it loads; the text that
the first run finds may be any that loads.

## Main definitions

* `Wish`, `Wish.interaction?` — what a run is to record, and what that is in a graph.
* `Invocation`, `Files.after`, `Files.reports` — runs one after the other.
* `Report.Recorded` — a run says that it recorded something.

## Main results

* `Files.call_cases`, `Files.loads_call` — what one run does.
* `Files.exists_loads_after` — what many runs do.
* `Files.durable_runs` — what the next run does after them.
-/

namespace Teamwork

/-! ### Graphs that were loaded -/

namespace Snapshot

/-- No employee is loaded without an id. -/
theorem empty_not_mem_of_load {text : String} {loaded : Loaded} (h : load text = .ok loaded) :
    "" ∉ loaded.graph.employees := by
  obtain ⟨employees, identities, interactions, -, rfl⟩ := load_eq_ok_iff.1 h
  have hfind : (described employee? employees).find? (fun e => e.id = "") = none := by
    rw [List.find?_eq_none]
    intro e he
    obtain ⟨slot, -, hslot⟩ := List.mem_filterMap.1 he
    obtain ⟨fields, -, hfields⟩ := Option.bind_eq_some_iff.1 hslot
    obtain ⟨id, hid, hsome⟩ := Option.bind_eq_some_iff.1 hfields
    obtain ⟨-, hne⟩ := Option.filter_eq_some_iff.1 hid
    obtain rfl := Option.some.inj hsome
    simpa using hne
  rw [(runsOver_enterArrays ..).graph_eq, met,
    Graph.after_frame Graph.employees Graph.employees_change_record, known,
    Graph.after_frame Graph.employees Graph.employees_change_addIdentity, hired,
    Std.ExtTreeMap.mem_iff_isSome_getElem?, Graph.employees_after, hfind]
  simp [Graph.empty]

/-- What was loaded and grew by one interaction loads again, with nothing left out. -/
theorem exists_load_write_change {text : String} {loaded : Loaded} (h : load text = .ok loaded)
    (i : Interaction) : ∃ loaded', load (write (loaded.graph.change (.record i))) = .ok loaded' ∧
      loaded'.graph = loaded.graph.change (.record i) ∧ loaded'.totalSkipped = 0 := by
  have hid : "" ∉ (loaded.graph.change (.record i)).employees := by
    rw [Graph.employees_change_record]
    exact empty_not_mem_of_load h
  obtain ⟨loaded', hload, hgraph, he, hi, ht⟩ :=
    exists_load_write ((coherent_of_load h).change (.record i)) hid
  exact ⟨loaded', hload, hgraph, by simp [Loaded.totalSkipped, he, hi, ht]⟩

end Snapshot

/-! ### What a run is to record -/

/-- What a run is to record: the values of its switches. -/
structure Wish where
  /-- The key of the issue. -/
  issueKey : String
  /-- The participant named first, by employee id or by external id. -/
  source : String
  /-- The participant named second. -/
  goal : String
  /-- The kind of work. -/
  kind : Kind
  /-- When it took place; at the time of the run if nothing is said. -/
  time : Option Time.Timestamp
  /-- Whether the participants are named by their chat identities. -/
  byIdentity : Bool
  deriving DecidableEq, Repr

namespace Wish

/-- The task of recording a wish. -/
def task (wish : Wish) : Task :=
  .record wish.issueKey wish.source wish.goal wish.kind wish.time wish.byIdentity

/-- The employee meant by the name of a participant. -/
def participant? (wish : Wish) (g : Graph) (name : String) : Option String :=
  if wish.byIdentity then g.resolve name else some name

/-- The interaction that is wished for, between the employees that the graph knows behind chat
identities. -/
def interaction? (wish : Wish) (g : Graph) (now : Time.Timestamp) : Option Interaction := do
  let employeeA ← wish.participant? g wish.source
  let employeeB ← wish.participant? g wish.goal
  return {
    issueKey := wish.issueKey
    employeeA
    employeeB
    kind := wish.kind
    timestamp := wish.time.getD now }

/-- What is printed when the interaction was recorded. -/
def recordedText (wish : Wish) : String :=
  "Recorded " ++ wish.kind.name ++ " " ++ wish.issueKey ++ " between " ++ wish.source ++ " and " ++
    wish.goal ++ "\n"

/-- What is printed when there was nothing to record. -/
def ignoredText (wish : Wish) : String :=
  "Ignored " ++ wish.issueKey ++ ": both participants are the same employee\n"

/-- The interaction as it was given, with names of participants in place of employees. -/
def given (wish : Wish) (now : Time.Timestamp) : Interaction where
  issueKey := wish.issueKey
  employeeA := wish.source
  employeeB := wish.goal
  kind := wish.kind
  timestamp := wish.time.getD now

theorem task_respond (wish : Wish) (now : Time.Timestamp) (settings : Settings) (data : String)
    (g : Graph) : wish.task.respond now settings data g =
      Task.respondRecord data g (wish.given now) wish.byIdentity :=
  rfl

/-- What comes of recording what was given: the interaction between the employees who are meant is
recorded, and if there is none it is refused. -/
theorem record_given (wish : Wish) (g : Graph) (now : Time.Timestamp) :
    (∀ i, wish.interaction? g now = some i →
      (if wish.byIdentity then g.recordByIdentity (wish.given now) else g.record (wish.given now)) =
        g.record i) ∧
    (wish.interaction? g now = none → ∃ e,
      (if wish.byIdentity then g.recordByIdentity (wish.given now) else g.record (wish.given now)) =
        .error e) := by
  rw [interaction?, participant?, participant?]
  cases wish.byIdentity with
  | false =>
    refine ⟨?_, ?_⟩
    · rintro _ ⟨⟩
      rfl
    · rintro ⟨⟩
  | true =>
    simp only [if_true, Graph.recordByIdentity, given]
    cases g.resolve wish.source <;> cases g.resolve wish.goal
    case some.some a b =>
      refine ⟨?_, ?_⟩
      · rintro _ ⟨⟩
        rfl
      · rintro ⟨⟩
    case none.none | none.some | some.none =>
      refine ⟨?_, fun _ => ⟨_, rfl⟩⟩
      rintro _ ⟨⟩

/-- The response to a wish saves the graph with the interaction in it, or saves nothing. -/
theorem respond_cases (wish : Wish) (now : Time.Timestamp) (settings : Settings) (data : String)
    (g : Graph) :
    (∃ i, wish.interaction? g now = some i ∧ i.employeeA ∈ g.employees ∧
      i.employeeB ∈ g.employees ∧ i.employeeA ≠ i.employeeB ∧
      wish.task.respond now settings data g =
        .save (snapshotFile (g.change (.record i)) data) wish.recordedText) ∨
    wish.task.respond now settings data g = .say wish.ignoredText ∨
    ∃ e, wish.task.respond now settings data g = .fail (.notRecorded wish.issueKey e) := by
  rw [task_respond]
  rw [Task.respondRecord]
  obtain ⟨hsome, hnone⟩ := wish.record_given g now
  cases hi : wish.interaction? g now with
  | none =>
    obtain ⟨e, h⟩ := hnone hi
    rw [h]
    exact .inr (.inr ⟨e, rfl⟩)
  | some i =>
    rw [hsome i hi]
    rcases g.record_cases i with ⟨e, h⟩ | h | ⟨ha, hb, hab, h⟩
    · rw [h]
      exact .inr (.inr ⟨e, rfl⟩)
    · rw [h]
      exact .inr (.inl rfl)
    · rw [h]
      exact .inl ⟨i, rfl, ha, hb, hab, rfl⟩

end Wish

/-! ### Runs -/

/-- A run that is asked for. -/
structure Invocation where
  /-- The environment variables. -/
  env : Request.Environment
  /-- The time of the run. -/
  now : Time.Timestamp
  /-- The words of the command line. -/
  words : List String
  deriving DecidableEq, Repr

/-- The command line asks to record a wish in the data file of this name. -/
def Invocation.Asks (call : Invocation) (path : String) (wish : Wish) : Prop :=
  ∃ settings, Request.ofArguments call.env call.words = .ok (.onData path settings wish.task)

/-- The run says that it recorded something. -/
def Report.Recorded (report : Report) : Prop :=
  "Recorded ".toList <+: report.output.toList

namespace Files

/-- The report on a run, and the tree after it. -/
def call (files : Files) (call : Invocation) : Report × Files :=
  files.run call.env call.now call.words

/-- The tree after several runs. -/
def after (files : Files) : List Invocation → Files
  | [] => files
  | call :: calls => (files.call call).2.after calls

/-- The reports on several runs. -/
def reports (files : Files) : List Invocation → List Report
  | [] => []
  | call :: calls => (files.call call).1 :: (files.call call).2.reports calls

theorem after_concat (files : Files) (calls : List Invocation) (call : Invocation) :
    files.after (calls ++ [call]) = ((files.after calls).call call).2 := by
  induction calls generalizing files with
  | nil => rfl
  | cons first calls ih => exact ih _

theorem reports_concat (files : Files) (calls : List Invocation) (call : Invocation) :
    files.reports (calls ++ [call]) =
      files.reports calls ++ [((files.after calls).call call).1] := by
  induction calls generalizing files with
  | nil => rfl
  | cons first calls ih => exact congrArg (_ :: ·) (ih _)

/-- The text at a place loads. -/
def Loads (files : Files) (place : Place) (loaded : Snapshot.Loaded) : Prop :=
  ∃ text, files.at? place = some (.text text) ∧ Snapshot.load text = .ok loaded

end Files

/-! ### Reports -/

/-- What a text starts with it still starts with when more is put behind. -/
theorem prefix_toList_append {start : List Char} {s : String} (h : start <+: s.toList)
    (t : String) : start <+: (s ++ t).toList := by
  rw [String.toList_append]
  exact h.trans (List.prefix_append _ _)

theorem Report.recorded_success (wish : Wish) : (success wish.recordedText).Recorded := by
  change "Recorded ".toList <+: wish.recordedText.toList
  unfold Wish.recordedText
  iterate 8 refine prefix_toList_append ?_ _
  exact List.prefix_rfl

theorem Report.not_recorded_ignored (wish : Wish) : ¬(success wish.ignoredText).Recorded := by
  intro h
  have hstart : "Ignored ".toList <+: wish.ignoredText.toList := by
    unfold Wish.ignoredText
    iterate 2 refine prefix_toList_append ?_ _
    exact List.prefix_rfl
  -- two starts of one text are comparable, and these two differ in their first letters
  rcases List.prefix_or_prefix_of_prefix h hstart with h | h
  · exact absurd h (by decide)
  · exact absurd h (by decide)

theorem Report.not_recorded_ofFailure (failure : Failure) : ¬(ofFailure failure).Recorded := by
  intro h
  have hnil : "Recorded ".toList = [] := List.prefix_nil.1 h
  exact absurd hnil (by decide)

/-! ### What a run does to its data file -/

namespace Files

variable {files : Files} {place : Place} {call : Invocation} {path : String} {wish : Wish}

/-- **A run that is to record puts the grown graph in the place of the old one, or leaves every text
as it is.** It says which. -/
theorem call_cases {loaded : Snapshot.Loaded} (hplace : files.placeOf? path = some place)
    (hloads : files.Loads place loaded) (hasks : call.Asks path wish) :
    (∃ i, wish.interaction? loaded.graph call.now = some i ∧
      i.employeeA ∈ loaded.graph.employees ∧ i.employeeB ∈ loaded.graph.employees ∧
      i.employeeA ≠ i.employeeB ∧ (files.call call).1 = .success wish.recordedText ∧
      (files.call call).2.at? place =
        some (.text (Snapshot.write (loaded.graph.change (.record i)))) ∧
      files.KeepsFolders (files.call call).2) ∨
    ¬(files.call call).1.Recorded ∧ files.Keeps (files.call call).2 := by
  obtain ⟨text, hat, hload⟩ := hloads
  obtain ⟨settings, hrequest⟩ := hasks
  have hlook : files.look path = .text text := look_eq_text_iff.2 ⟨place, hplace, hat⟩
  have hcall : files.call call =
      (wish.task.respond call.now .standard path loaded.graph).carryOut files := by
    have hgraph : graphFrom path (files.look path) = .ok loaded.graph := by
      rw [hlook, graphFrom, hload]
      rfl
    have huses : wish.task.usesSettings = false := rfl
    simp only [Files.call, run, hrequest, Request.respond, huses, Bool.false_eq_true, if_false,
      hgraph]
  rw [hcall]
  rcases wish.respond_cases call.now .standard path loaded.graph with
    ⟨i, hi, ha, hb, hab, h⟩ | h | ⟨e, h⟩
  · rw [h]
    rcases Response.carryOut_save (snapshotFile (loaded.graph.change (.record i)) path) hplace
      wish.recordedText with ⟨files', heq, hat', hfolders⟩ | ⟨failure, files', heq, hkeeps⟩
    · rw [heq]
      exact .inl ⟨i, hi, ha, hb, hab, rfl, hat', hfolders⟩
    · rw [heq]
      exact .inr ⟨Report.not_recorded_ofFailure failure, hkeeps⟩
  · rw [h]
    exact .inr ⟨Report.not_recorded_ignored wish, .refl files⟩
  · rw [h]
    exact .inr ⟨Report.not_recorded_ofFailure _, .refl files⟩

/-- **What one run does.** The file still loads. If the run says so, the graph has grown by the
interaction that was asked for and nothing is left out; otherwise all texts are as they were. -/
theorem loads_call {loaded : Snapshot.Loaded} (hplace : files.placeOf? path = some place)
    (hloads : files.Loads place loaded) (hasks : call.Asks path wish) :
    files.KeepsFolders (files.call call).2 ∧
    ((∃ loaded' i, (files.call call).2.Loads place loaded' ∧ (files.call call).1.Recorded ∧
      (files.call call).1.code = 0 ∧ wish.interaction? loaded.graph call.now = some i ∧
      loaded.graph.GrowsBy loaded'.graph i ∧ loaded'.totalSkipped = 0) ∨
    ¬(files.call call).1.Recorded ∧ files.Keeps (files.call call).2) := by
  rcases call_cases hplace hloads hasks with
    ⟨i, hi, ha, hb, hab, hreport, hat, hfolders⟩ | ⟨hreport, hkeeps⟩
  · obtain ⟨text, -, hload⟩ := hloads
    obtain ⟨loaded', hload', hgraph, hskipped⟩ := Snapshot.exists_load_write_change hload i
    have hgrows := (Snapshot.coherent_of_load hload).growsBy_change ha hb hab
    rw [← hgraph] at hgrows
    rw [hreport]
    exact ⟨hfolders, .inl ⟨loaded', i, ⟨_, hat, hload'⟩, Report.recorded_success wish, rfl, hi,
      hgrows, hskipped⟩⟩
  · exact ⟨hkeeps.keepsFolders, .inr ⟨hreport, hkeeps⟩⟩

theorem Keeps.loads {files' : Files} (h : files.Keeps files') {loaded : Snapshot.Loaded}
    (hloads : files.Loads place loaded) : files'.Loads place loaded := by
  obtain ⟨text, hat, hload⟩ := hloads
  exact ⟨text, h place _ hat, hload⟩

/-- The run is to record something in the file at this place, whatever name it has for it. -/
def RecordsAt (files : Files) (place : Place) (call : Invocation) : Prop :=
  ∃ path wish, call.Asks path wish ∧ files.placeOf? path = some place

/-- **What many runs do.** The file still loads, names lead where they led, and once a run said that
it recorded something nothing is left out any more. -/
theorem exists_loads_after {loaded : Snapshot.Loaded} (hloads : files.Loads place loaded)
    {calls : List Invocation} (hcalls : ∀ call ∈ calls, files.RecordsAt place call) :
    ∃ loaded', (files.after calls).Loads place loaded' ∧ files.KeepsFolders (files.after calls) ∧
      (loaded.totalSkipped = 0 ∨ (∃ report ∈ files.reports calls, report.Recorded) →
        loaded'.totalSkipped = 0) := by
  induction calls generalizing files loaded with
  | nil => exact ⟨loaded, hloads, fun _ hat => hat, by simp [reports]⟩
  | cons call calls ih =>
    obtain ⟨⟨path, wish, hasks, hplace⟩, hcalls⟩ := List.forall_mem_cons.1 hcalls
    obtain ⟨hfolders, hcases⟩ := loads_call hplace hloads hasks
    have hcalls' : ∀ call' ∈ calls, (files.call call).2.RecordsAt place call' := by
      intro call' hmem
      obtain ⟨path', wish', hasks', hplace'⟩ := hcalls call' hmem
      exact ⟨path', wish', hasks', hfolders.placeOf?_eq hplace'⟩
    rcases hcases with ⟨loaded', i, hloads', -, -, -, -, hskipped⟩ | ⟨hreport, hkeeps⟩
    · obtain ⟨loaded'', hloads'', hfolders'', hnone⟩ := ih hloads' hcalls'
      exact ⟨loaded'', hloads'', fun other hat => hfolders'' other (hfolders other hat),
        fun _ => hnone (.inl hskipped)⟩
    · obtain ⟨loaded'', hloads'', hfolders'', hnone⟩ := ih (hkeeps.loads hloads) hcalls'
      refine ⟨loaded'', hloads'', fun other hat => hfolders'' other (hfolders other hat), ?_⟩
      rintro (hskipped | ⟨report, hmem, hrecorded⟩)
      · exact hnone (.inl hskipped)
      · rcases List.mem_cons.1 hmem with rfl | hmem
        · exact absurd hrecorded hreport
        · exact hnone (.inr ⟨report, hmem, hrecorded⟩)

/-- **Recording lasts.** Take a data file that loads, and any number of runs that are to record
something in it, under any of its names. After the last of them the file loads. If that run says
that it recorded something, it succeeded, and the graph is the one before the run with the
interaction that was asked for in addition; otherwise the text is the same as before the run. Once
any of the runs said so, nothing is left out when the file loads. -/
theorem durable_runs {data text : String} {loaded : Snapshot.Loaded} {before : List Invocation}
    (hlook : files.look data = .text text) (hload : Snapshot.load text = .ok loaded)
    (hbefore : ∀ earlier ∈ before, ∃ path wish, earlier.Asks path wish ∧
      files.placeOf? path = files.placeOf? data)
    (hasks : call.Asks path wish) (hpath : files.placeOf? path = files.placeOf? data) :
    ∃ text₁ loaded₁ text₂ loaded₂,
      (files.after before).look data = .text text₁ ∧ Snapshot.load text₁ = .ok loaded₁ ∧
      (files.after (before ++ [call])).look data = .text text₂ ∧
      Snapshot.load text₂ = .ok loaded₂ ∧
      (((files.after before).call call).1.Recorded ∧ ((files.after before).call call).1.code = 0 ∧
          (∃ i, wish.interaction? loaded₁.graph call.now = some i ∧
            loaded₁.graph.GrowsBy loaded₂.graph i) ∨
        ¬((files.after before).call call).1.Recorded ∧ text₂ = text₁ ∧ loaded₂ = loaded₁) ∧
      ((∃ report ∈ files.reports (before ++ [call]), report.Recorded) →
        loaded₂.totalSkipped = 0) := by
  obtain ⟨place, hplace, hat⟩ := look_eq_text_iff.1 hlook
  have hcalls : ∀ earlier ∈ before, files.RecordsAt place earlier := by
    intro earlier hmem
    obtain ⟨path, wish, hasks, hpath⟩ := hbefore earlier hmem
    exact ⟨path, wish, hasks, hpath.trans hplace⟩
  obtain ⟨loaded₁, hloads₁, hfolders₁, hnone₁⟩ := exists_loads_after ⟨text, hat, hload⟩ hcalls
  have hplace₁ := hfolders₁.placeOf?_eq (hpath.trans hplace)
  obtain ⟨hfolders₂, hcases⟩ := loads_call hplace₁ hloads₁ hasks
  have hdata₁ := hfolders₁.placeOf?_eq hplace
  have hdata₂ := hfolders₂.placeOf?_eq hdata₁
  obtain ⟨text₁, hat₁, hload₁⟩ := hloads₁
  rw [after_concat, reports_concat]
  rcases hcases with ⟨loaded₂, i, ⟨text₂, hat₂, hload₂⟩, hreport, hcode, hi, hgrows, hskipped⟩ |
    ⟨hreport, hkeeps⟩
  · exact ⟨text₁, loaded₁, text₂, loaded₂, look_eq_text_iff.2 ⟨place, hdata₁, hat₁⟩, hload₁,
      look_eq_text_iff.2 ⟨place, hdata₂, hat₂⟩, hload₂, .inl ⟨hreport, hcode, i, hi, hgrows⟩,
      fun _ => hskipped⟩
  · refine ⟨text₁, loaded₁, text₁, loaded₁, look_eq_text_iff.2 ⟨place, hdata₁, hat₁⟩, hload₁,
      look_eq_text_iff.2 ⟨place, hdata₂, hkeeps place _ hat₁⟩, hload₁, .inr ⟨hreport, rfl, rfl⟩, ?_⟩
    rintro ⟨report, hmem, hrecorded⟩
    rcases List.mem_append.1 hmem with hmem | hmem
    · exact hnone₁ (.inr ⟨report, hmem, hrecorded⟩)
    · obtain rfl := List.mem_singleton.1 hmem
      exact absurd hrecorded hreport

/-- A data file with two employees and an element that is no record. -/
def pairText : String :=
  "\x7b\"employees\": [\x7b\"id\": \"a\"\x7d, \x7b\"id\": \"b\"\x7d], " ++
    "\"chatIdentities\": [], \"interactions\": [7]\x7d"

/-- A tree with that file. -/
def pairFiles : Files :=
  { entries := [(["collab.json"], .text pairText)] }

/-- A bug that the first employee worked on, with the given one. -/
def pairWish (goal : String) : Wish :=
  ⟨"X-1", "a", goal, .bug, none, false⟩

/-- A run that is to record it, at the start of the epoch, with the file under the given name. -/
def pairCall (name goal : String) : Invocation where
  env := ⟨some name, none⟩
  now := ⟨0, 0, by decide, by decide, by decide, by decide⟩
  words := ["record", "--issue", "X-1", "--from", "a", "--to", goal, "--kind", "bug"]

theorem durable_runs_pair :
    (∃ loaded, Snapshot.load pairText = .ok loaded) ∧
    pairFiles.look "collab.json" = .text pairText ∧
    (pairCall "collab.json" "a").Asks "collab.json" (pairWish "a") ∧
    (pairCall "./collab.json" "b").Asks "./collab.json" (pairWish "b") ∧
    pairFiles.placeOf? "./collab.json" = pairFiles.placeOf? "collab.json" ∧
    ∃ (loaded₁ : Snapshot.Loaded) (text₂ : String) (loaded₂ : Snapshot.Loaded) (i : Interaction),
      (pairFiles.after [pairCall "collab.json" "a", pairCall "./collab.json" "b"]).look
        "collab.json" = .text text₂ ∧
      Snapshot.load text₂ = .ok loaded₂ ∧ loaded₁.graph.GrowsBy loaded₂.graph i ∧
      loaded₂.totalSkipped = 0 := by
  have hlook : pairFiles.look "collab.json" = .text pairText := by decide +kernel
  have hpath : pairFiles.placeOf? "./collab.json" = pairFiles.placeOf? "collab.json" := by
    decide +kernel
  have hself : (pairCall "collab.json" "a").Asks "collab.json" (pairWish "a") :=
    ⟨none, by decide +kernel⟩
  have hpair : (pairCall "./collab.json" "b").Asks "./collab.json" (pairWish "b") :=
    ⟨none, by decide +kernel⟩
  have hoption : (Snapshot.load pairText).toOption.isSome = true := by decide +kernel
  have hload := isSome_toOption_iff.1 hoption
  have hbefore : ∀ earlier ∈ [pairCall "collab.json" "a"], ∃ path wish, earlier.Asks path wish ∧
      pairFiles.placeOf? path = pairFiles.placeOf? "collab.json" := by
    intro earlier hmem
    obtain rfl := List.mem_singleton.1 hmem
    exact ⟨_, _, hself, rfl⟩
  have hreport : ((pairFiles.after [pairCall "collab.json" "a"]).call
      (pairCall "./collab.json" "b")).1 = .success (pairWish "b").recordedText := by
    decide +kernel
  have hrecorded : ((pairFiles.after [pairCall "collab.json" "a"]).call
      (pairCall "./collab.json" "b")).1.Recorded := by
    rw [hreport]
    exact Report.recorded_success (pairWish "b")
  refine ⟨hload, hlook, hself, hpair, hpath, ?_⟩
  obtain ⟨loaded, hload⟩ := hload
  obtain ⟨text₁, loaded₁, text₂, loaded₂, -, -, hlook₂, hload₂, hcases, hnone⟩ :=
    durable_runs hlook hload hbefore hpair hpath
  rcases hcases with ⟨-, -, i, -, hgrows⟩ | ⟨hnot, -⟩
  · refine ⟨loaded₁, text₂, loaded₂, i, hlook₂, hload₂, hgrows, hnone ⟨_, ?_, hrecorded⟩⟩
    rw [reports_concat]
    exact List.mem_append_right _ List.mem_cons_self
  · exact absurd hrecorded hnot

end Files

end Teamwork
